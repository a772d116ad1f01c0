import Lockstep.Script.Environment
import Lockstep.Script.Host
import Lockstep.Space.Rect
import Lockstep.Text.Upcase
import Lockstep.World.Piece
import Lockstep.World.Resource
/-!
# Units

The state of one unit: where it is, how it is, its animated pieces, its orders, its books and the
state of its script.
-/

namespace Lockstep

/-- Whether a unit is still in play. -/
inductive LifeState where
  /-- In play. -/
  | alive
  /-- Killed; taken off the map at the end of the tick. -/
  | dead
deriving DecidableEq, Inhabited

/-- Units that have been killed do not outlive the tick, so the life state counts zero. -/
instance : Fingerprinted LifeState := ⟨fun _ => 0⟩

/-- Something that a unit has been told to do. -/
inductive Order where
  /-- Leave a rectangle of cells. -/
  | buggerOff (rect : Rect)
deriving DecidableEq, Inhabited

/-- The state of a unit. -/
structure UnitState where
  /-- The type, in upper case. -/
  unitType : String
  /-- The owner. -/
  owner : PlayerId
  /-- Where the unit is. -/
  position : Vector3
  /-- Where it was at the beginning of the tick. -/
  previousPosition : Vector3
  /-- The heading. -/
  rotation : Angle
  /-- The heading at the beginning of the tick. -/
  previousRotation : Angle
  /-- The height of the model. -/
  height : Scalar
  /-- The hit points left. -/
  hitPoints : UInt32
  /-- The hit points of an unharmed unit. -/
  maxHitPoints : UInt32
  /-- Whether the unit is still in play. -/
  life : LifeState
  /-- The pieces, in the order of the model. -/
  pieces : List Piece
  /-- The orders, the current one first. -/
  orders : List Order
  /-- The types of the weapons in the three slots, in upper case. -/
  weapons : Vector (Option String) 3
  /-- Whether the unit is activated. -/
  activated : Bool
  /-- Whether the unit is in its build stance. -/
  inBuildStance : Bool
  /-- Whether the yard is open. -/
  yardOpen : Bool
  /-- What is left to build, in percent. -/
  buildPercentLeft : UInt32
  /-- The standing orders about firing. -/
  fireOrders : Int32
  /-- The standing orders about moving. -/
  moveOrders : Int32
  /-- Whether the unit is armored. -/
  armored : Bool
  /-- The energy books. -/
  energy : UnitAccount .energy
  /-- The metal books. -/
  metal : UnitAccount .metal
  /-- The state of the script; it is taken out while its threads run. -/
  environment : Option Script.Environment
deriving DecidableEq

namespace UnitState

/-- The standing order to fire at will. -/
def fireAtWill : Int32 := 2

/-- The standing order to maneuver. -/
def maneuver : Int32 := 1

/-- A living and completed unit without orders. -/
def new (unitType : String) (owner : PlayerId) (position : Vector3) (pieces : List Piece)
    (environment : Script.Environment) : UnitState where
  unitType := unitType
  owner := owner
  position := position
  previousPosition := position
  rotation := 0
  previousRotation := 0
  height := 0
  hitPoints := 0
  maxHitPoints := 0
  life := .alive
  pieces := pieces
  orders := []
  weapons := Vector.replicate 3 none
  activated := false
  inBuildStance := false
  yardOpen := false
  buildPercentLeft := 0
  fireOrders := fireAtWill
  moveOrders := maneuver
  armored := false
  energy := .empty
  metal := .empty
  environment := some environment

/-- Whether the unit has been killed. -/
def isDead (u : UnitState) : Bool := decide (u.life = .dead)

/-- The place in the list of the first piece with a name, up to the case of ASCII letters. -/
def pieceIndex? (u : UnitState) (name : String) : Option Nat :=
  u.pieces.findIdx? fun p => Text.sameName p.name name

/-- The first piece with a name, up to the case of ASCII letters. -/
def piece? (u : UnitState) (name : String) : Option Piece :=
  (u.pieceIndex? name).bind fun i => u.pieces[i]?

/-- Puts a piece in the place of another one. -/
def setPiece (u : UnitState) (i : Nat) (p : Piece) : UnitState :=
  { u with pieces := u.pieces.set i p }

/-- Carries a point of a piece up to the unit, through the parents of the piece; the number of
parents that can still be visited bounds the way. -/
def climb (pieces : List Piece) : (bound : Nat) → Option Nat → Vector3 → Option Vector3
  | _, none, v => some v
  | 0, some _, _ => none
  | bound + 1, some i, v =>
    match pieces[i]? with
    | none => none
    | some p => climb pieces bound p.parent (p.toParent v)

/-- The place of a piece relative to the unit, the heading of the unit left aside.  There is none if
the parents of the piece lead out of the list or around in a circle. -/
def pieceLocalPosition? (u : UnitState) (i : Nat) : Option Vector3 :=
  climb u.pieces u.pieces.length (some i) 0

/-- The place of a piece in the world. -/
def pieceWorldPosition? (u : UnitState) (i : Nat) : Option Vector3 :=
  (u.pieceLocalPosition? i).map fun v =>
    (if u.rotation = 0 then v else v.rotateY u.rotation) + u.position

/-- One tick of all moves and turns of pieces. -/
def stepPieces (u : UnitState) : UnitState := { u with pieces := u.pieces.map Piece.step }

/-- Gives an order, behind the others. -/
def addOrder (u : UnitState) (o : Order) : UnitState := { u with orders := u.orders ++ [o] }

/-- Begins a new period on both books. -/
def resetAccounts (u : UnitState) : UnitState :=
  { u with energy := u.energy.reset, metal := u.metal.reset }

/-- Remembers where the unit is at the beginning of a tick. -/
def rememberPlace (u : UnitState) : UnitState :=
  { u with previousPosition := u.position, previousRotation := u.rotation }

/-- What scripts can read of the unit. -/
def view (u : UnitState) : Script.UnitView where
  position := u.position
  rotation := u.rotation
  height := u.height
  owner := u.owner
  hitPoints := u.hitPoints
  maxHitPoints := u.maxHitPoints
  activated := u.activated
  inBuildStance := u.inBuildStance
  yardOpen := u.yardOpen
  buildPercentLeft := u.buildPercentLeft
  fireOrders := u.fireOrders
  moveOrders := u.moveOrders
  armored := u.armored

/-- The pieces, the orders, the script and all that follows from the type are left out. -/
instance : Fingerprinted UnitState := ⟨fun u =>
  fingerprint u.unitType + fingerprint u.position + fingerprint u.owner + fingerprint u.rotation
    + fingerprint u.hitPoints + fingerprint u.life + fingerprint u.inBuildStance
    + fingerprint u.yardOpen + fingerprint u.fireOrders + fingerprint u.activated
    + fingerprint u.energy + fingerprint u.metal⟩

end UnitState

end Lockstep
