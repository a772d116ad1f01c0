import Lockstep.World.State
/-!
# Creating units

A unit is created from its type, its model and its script before it is put on the map.  Its script
begins with the function `Create` once it stands there.
-/

namespace Lockstep.World

/-- The place of the first piece of a model with a name, up to the case of ASCII letters. -/
def parentIndex? (m : Model) (p : PieceDefinition) : Option Nat :=
  p.parent.bind fun parent => m.pieces.findIdx? fun q => Text.sameName q.name parent

/-- The pieces of a unit with a model; only those of buildings are lit. -/
def piecesOf (m : Model) (isMobile : Bool) : List Piece :=
  m.pieces.map fun p =>
    { Piece.new p.name p.origin (parentIndex? m p) with shaded := !isMobile }

/-- What a weapon slot holds: the weapon, if it is registered. -/
def weaponSlot (d : Definitions) (name : Option String) : Option String :=
  (name.filter fun n => !n.isEmpty && d.hasWeapon n).map Text.upcase

/-- The heading of a new unit of which none was given: mobile units look the other way. -/
def defaultRotation (isMobile : Bool) : Angle := if isMobile then Angle.halfTurn else 0

/-- A unit of a type that is not yet on the map. -/
def createUnit (w : World) (typeName : String) (owner : PlayerId) (position : Vector3)
    (rotation : Option Angle) : Except Refusal UnitState := do
  let _ ← w.player owner
  let t ← w.definitions.unitType typeName
  let m ← w.definitions.model t.model
  let program ← w.definitions.script typeName
  let rotation := rotation.getD (defaultRotation t.isMobile)
  return { UnitState.new (Text.upcase t.name) owner position (piecesOf m t.isMobile)
      (.new program) with
    height := m.height
    hitPoints := t.maxHitPoints
    maxHitPoints := t.maxHitPoints
    rotation := rotation
    previousRotation := rotation
    weapons := t.weapons.map (weaponSlot w.definitions) }

/-- Starts a thread at a function of the script of a unit; it runs from the next tick on.  There is
no thread if the script has no such function or is running at the moment. -/
def startScript (id : UnitId) (function : String) (params : List Int32) :
    Action (Option ThreadId) := do
  let u ← Action.require ((← get).unit id)
  match u.environment with
  | none =>
    modify (·.note (.startedWhileRunning id function))
    return none
  | some environment =>
    match environment.startNamed function params with
    | .ok (thread, environment) =>
      modify (·.modifyUnit id fun u => { u with environment := some environment })
      return thread
    | .error (.halt cause) => throw (.halt cause)
    | .error (.fault _) => return none

end Lockstep.World
