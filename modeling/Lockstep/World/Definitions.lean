import Lockstep.Collection.NameTable
import Lockstep.Fixed.Vector
import Lockstep.Script.Program
import Lockstep.Space.YardMap
import Lockstep.World.Refusal
/-!
# What kinds of things there are

The types of units with their models, scripts, weapons and movement classes are registered before a
battle begins.  Names are kept and looked up in upper case; registering a name again replaces what
it stood for.
-/

namespace Lockstep

/-- What ground units of a class can stand on, and how much room they take. -/
structure MovementClass where
  /-- The name in the registry; empty for a class that belongs to one type of units. -/
  name : String
  /-- The width of the footprint in cells. -/
  width : Nat
  /-- The depth of the footprint in cells. -/
  depth : Nat
  /-- The least depth of water. -/
  minWaterDepth : Int
  /-- The greatest depth of water. -/
  maxWaterDepth : Int
  /-- The greatest difference in height within a cell on land. -/
  maxSlope : Int
  /-- The greatest difference in height within a cell under water. -/
  maxWaterSlope : Int
deriving DecidableEq, Inhabited

/-- How a type of units says what its movement class is. -/
inductive ClassChoice where
  /-- A class of its own. -/
  | own (movementClass : MovementClass)
  /-- The class with a name. -/
  | named (name : String)
deriving DecidableEq, Inhabited

/-- A type of units. -/
structure UnitType where
  /-- The name of the type. -/
  name : String
  /-- The name of the model. -/
  model : String
  /-- Mobile units occupy their whole footprint; the others are buildings and claim it by a yard
  map. -/
  isMobile : Bool
  /-- Whether the units float on water. -/
  floats : Bool
  /-- Whether the units hover over water. -/
  hovers : Bool
  /-- The hit points of an unharmed unit. -/
  maxHitPoints : UInt32
  /-- The movement class. -/
  movement : ClassChoice
  /-- The yard map of a building. -/
  yardMap : Option YardMap
  /-- The names of the weapons in the three slots. -/
  weapons : Vector (Option String) 3
deriving DecidableEq

/-- A piece of a model. -/
structure PieceDefinition where
  /-- The name that scripts use. -/
  name : String
  /-- The offset from the parent piece. -/
  origin : Vector3
  /-- The name of the parent piece. -/
  parent : Option String
deriving DecidableEq, Inhabited

/-- A model of a unit. -/
structure Model where
  /-- The height above its origin. -/
  height : Scalar
  /-- The pieces; a parent need not stand before its children. -/
  pieces : List PieceDefinition
deriving DecidableEq, Inhabited

/-- How a projectile flies. -/
inductive Flight where
  /-- Straight on, as far as the target. -/
  | lineOfSight
  /-- Falling. -/
  | ballistic
deriving DecidableEq, Inhabited

/-- A type of weapons. -/
structure Weapon where
  /-- How its projectiles fly. -/
  flight : Flight
  /-- The speed of its projectiles per tick. -/
  velocity : Scalar
  /-- The damage by category of target. -/
  damage : NameTable UInt32
  /-- The radius of its effect. -/
  radius : Scalar
  /-- How long its projectiles last, if that is fixed. -/
  timer : Option Tick
  /-- By how much that varies. -/
  decay : Tick
  /-- Whether its projectiles bounce off the ground. -/
  bounces : Bool
deriving DecidableEq, Inhabited

/-- A type of features, such as rocks, trees and wrecks. -/
structure FeatureType where
  /-- The width of the footprint in cells. -/
  width : Nat
  /-- The depth of the footprint in cells. -/
  depth : Nat
  /-- Whether it blocks the cells it stands on. -/
  blocking : Bool
  /-- Whether it cannot be destroyed. -/
  indestructible : Bool
  /-- The metal in each of its cells. -/
  metal : UInt8
deriving DecidableEq, Inhabited

/-- Everything that is registered before a battle begins, by names in upper case. -/
structure Definitions where
  /-- The types of units. -/
  unitTypes : NameTable UnitType
  /-- The models. -/
  models : NameTable Model
  /-- The scripts, by types of units. -/
  scripts : NameTable Script.Program
  /-- The weapons. -/
  weapons : NameTable Weapon
  /-- The movement classes. -/
  movementClasses : NameTable MovementClass
deriving DecidableEq

namespace Definitions

open Text (upcase)

/-- Nothing registered. -/
def empty : Definitions := ⟨.empty, .empty, .empty, .empty, .empty⟩

instance : Inhabited Definitions := ⟨empty⟩

/-- Registers a type of units under its own name. -/
def addUnitType (d : Definitions) (t : UnitType) : Definitions :=
  { d with unitTypes := d.unitTypes.insert (upcase t.name) t }

/-- Registers a model. -/
def addModel (d : Definitions) (name : String) (m : Model) : Definitions :=
  { d with models := d.models.insert (upcase name) m }

/-- Registers the script of a type of units. -/
def addScript (d : Definitions) (unitType : String) (p : Script.Program) : Definitions :=
  { d with scripts := d.scripts.insert (upcase unitType) p }

/-- Registers a weapon. -/
def addWeapon (d : Definitions) (name : String) (w : Weapon) : Definitions :=
  { d with weapons := d.weapons.insert (upcase name) w }

/-- Registers a movement class under its own name. -/
def addMovementClass (d : Definitions) (c : MovementClass) : Definitions :=
  { d with movementClasses := d.movementClasses.insert (upcase c.name) c }

/-- A registered value, or the refusal that its name is unknown. -/
def require {ν : Type} (t : NameTable ν) (refusal : String → Refusal) (name : String) :
    Except Refusal ν :=
  match t.get? (upcase name) with
  | some v => .ok v
  | none => .error (refusal (upcase name))

/-- The type of units with a name. -/
def unitType (d : Definitions) (name : String) : Except Refusal UnitType :=
  require d.unitTypes .unknownUnitType name

/-- The model with a name. -/
def model (d : Definitions) (name : String) : Except Refusal Model :=
  require d.models .unknownModel name

/-- The script of a type of units. -/
def script (d : Definitions) (unitType : String) : Except Refusal Script.Program :=
  require d.scripts .unknownScript unitType

/-- The weapon with a name. -/
def weapon (d : Definitions) (name : String) : Except Refusal Weapon :=
  require d.weapons .unknownWeapon name

/-- Whether a weapon is registered. -/
def hasWeapon (d : Definitions) (name : String) : Bool := d.weapons.contains (upcase name)

/-- The movement class that was chosen; a name that is unknown is reported as it was given. -/
def movementClass (d : Definitions) : ClassChoice → Except Refusal MovementClass
  | .own c => .ok c
  | .named name => require d.movementClasses (fun _ => .unknownMovementClass name) name

end Definitions

end Lockstep
