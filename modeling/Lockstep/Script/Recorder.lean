import Lockstep.Random.Uniform
import Lockstep.Script.Machine
/-!
# A host that records

Scripts can be run without a world, against a few given units and a level ground.  What a script
asks for is written down, and what it can read back is changed in the given units.
-/

namespace Lockstep.Script

/-- A stand-in for the world that writes down what scripts ask for. -/
structure Recorder where
  /-- Where random numbers come from. -/
  random : Random.Generator
  /-- The units that scripts can see. -/
  units : SortedTable UnitId UnitView
  /-- The places of pieces of units. -/
  pieces : List ((UnitId × String) × Vector3)
  /-- The height of the ground everywhere. -/
  ground : Scalar
  /-- The effects that were asked for, with their units. -/
  log : Array (UnitId × Effect)
deriving DecidableEq, Inhabited

namespace Recorder

/-- A recorder without units, over level ground. -/
def new (seed : UInt64) : Recorder := ⟨.ofSeed seed, .empty, [], 0, #[]⟩

/-- Lets scripts see a unit. -/
def putUnit (r : Recorder) (id : UnitId) (view : UnitView) : Recorder :=
  { r with units := r.units.insert id view }

/-- Takes a unit out of sight. -/
def removeUnit (r : Recorder) (id : UnitId) : Recorder := { r with units := r.units.erase id }

/-- Sets the hit points that scripts see of a unit, if they see it. -/
def setHitPoints (r : Recorder) (id : UnitId) (n : UInt32) : Recorder :=
  { r with units := r.units.modify id fun view => { view with hitPoints := n } }

/-- Says where a piece of a unit is. -/
def putPiece (r : Recorder) (unit : UnitId) (piece : String) (position : Vector3) : Recorder :=
  { r with pieces := ((unit, piece), position) :: r.pieces }

/-- The part of an effect that scripts can read back. -/
def update (e : Effect) (view : UnitView) : UnitView :=
  match e with
  | .activation value => { view with activated := value }
  | .buildStance value => { view with inBuildStance := value }
  | .yard value => { view with yardOpen := value }
  | .moveOrders value => { view with moveOrders := value }
  | .fireOrders value => { view with fireOrders := value }
  | .armored value => { view with armored := value }
  | _ => view

/-- Writes an effect down and changes the given unit, if there is one. -/
def apply (unit : UnitId) (e : Effect) (r : Recorder) : Recorder :=
  { r with units := r.units.modify unit (update e), log := r.log.push (unit, e) }

/-- The recorder as a host. -/
def host : Host Recorder where
  random low high r :=
    (r.random.betweenSigned low high).map fun (v, g) => (v, { r with random := g })
  unit? unit r := r.units.get? unit
  piecePosition? unit piece r := r.pieces.lookup (unit, piece)
  groundHeight _ _ r := r.ground
  minUnit r := (r.units.minKey?.map UnitId.val).getD 0
  maxUnit r := (r.units.maxKey?.map UnitId.val).getD 0
  apply unit e r := .ok (r.apply unit e)

end Recorder

end Lockstep.Script
