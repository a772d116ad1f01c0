import Lockstep.Random.Uniform
import Lockstep.Space.Occupancy
import Lockstep.World.Event
import Lockstep.World.Player
import Lockstep.World.Projectile
import Lockstep.World.Setup
import Lockstep.World.UnitState
/-!
# The state of the world

Everything on which replicas of a battle have to agree is kept in one value.  Operations answer,
refuse or stop altogether, and they change the world; an operation that refuses keeps what it had
done before.
-/

namespace Lockstep

/-- A feature on the map. -/
structure Feature where
  /-- The name of its type. -/
  name : String
  /-- The middle of its footprint. -/
  position : Vector3
  /-- Its heading. -/
  rotation : Angle
deriving DecidableEq, Inhabited

/-- The state of a battle. -/
structure World where
  /-- The current tick. -/
  time : Tick
  /-- The ground. -/
  terrain : Terrain
  /-- The definitions. -/
  definitions : Definitions
  /-- What stands on each cell. -/
  occupancy : Grid Occupancy
  /-- The metal in each cell. -/
  metal : Grid UInt8
  /-- The players, in the order in which they came. -/
  players : Array Player
  /-- The units. -/
  units : SortedTable UnitId UnitState
  /-- The number of the next unit. -/
  nextUnit : UInt32
  /-- The features. -/
  features : SortedTable FeatureId Feature
  /-- The number of the next feature. -/
  nextFeature : UInt32
  /-- The projectiles in flight. -/
  projectiles : SortedTable ProjectileId Projectile
  /-- The number of the next projectile. -/
  nextProjectile : UInt32
  /-- The units that wait for a path, the first to be served first. -/
  pathRequests : List UnitId
  /-- Where random numbers come from. -/
  random : Random.Generator
  /-- The events that nobody has asked for yet, the oldest first. -/
  events : Array Event
  /-- The notices that nobody has asked for yet, the oldest first. -/
  notices : Array Notice
deriving DecidableEq

namespace World

/-- Why an operation did not answer. -/
inductive Failure where
  /-- The world refuses the operation. -/
  | refused (cause : Refusal)
  /-- The whole computation stops. -/
  | halt (cause : Halt)
deriving DecidableEq, Inhabited

/-- An operation on the world.  Without an answer, what it did before it failed is kept. -/
abbrev Action (α : Type) := ExceptT Failure (StateM World) α

namespace Action

variable {α : Type}

/-- Refuses. -/
def refuse (cause : Refusal) : Action α := throw (.refused cause)

/-- Goes on with a value, or refuses. -/
def require : Except Refusal α → Action α
  | .ok a => return a
  | .error cause => refuse cause

/-- Goes on with the result of a checked operation, or stops. -/
def checked : Except Overflow α → Action α
  | .ok a => return a
  | .error cause => throw (.halt (.overflow cause))

/-- Goes on with a value, or fails. -/
def ofExcept : Except Failure α → Action α
  | .ok a => return a
  | .error failure => throw failure

/-- Carries an operation out; if it refuses, goes on with what is to be done then. -/
def orElse (a : Action α) (otherwise : Refusal → Action α) : Action α :=
  ExceptT.mk do
    match ← a.run with
    | .error (.refused cause) => (otherwise cause).run
    | result => pure result

/-- Carries an operation out on a world. -/
def on (a : Action α) (w : World) : Except Failure α × World := a.run.run w

end Action

/-- The number of cells along a side of a map with so many corners. -/
def cellsAlong (corners : Nat) : Nat := corners - 1

/-- The world at the beginning of a battle. -/
def new (s : Setup) : Except SetupError World := do
  s.validate
  let heights := s.terrain.heights
  let tooSmall : SpaceError → SetupError := fun _ => .terrainTooSmall heights.width heights.height
  let width := cellsAlong heights.width
  let height := cellsAlong heights.height
  let occupancy ← (Grid.fill width height Occupancy.free).mapError tooSmall
  let metal ← (Grid.fill width height s.surfaceMetal).mapError tooSmall
  return {
    time := ⟨0⟩
    terrain := s.terrain
    definitions := s.definitions
    occupancy := occupancy
    metal := metal
    players := #[]
    units := .empty
    nextUnit := 1
    features := .empty
    nextFeature := 0
    projectiles := .empty
    nextProjectile := 0
    pathRequests := []
    random := .ofSeed s.seed
    events := #[]
    notices := #[] }

/-- The unit with a number. -/
def unit (w : World) (id : UnitId) : Except Refusal UnitState :=
  match w.units.get? id with
  | some u => .ok u
  | none => .error (.unknownUnit id)

/-- The player with a number. -/
def player (w : World) (id : PlayerId) : Except Refusal Player :=
  match w.players[id.val.toNat]? with
  | some p => .ok p
  | none => .error (.unknownPlayer id)

/-- Whether a unit is on the map; it may be dead. -/
def unitExists (w : World) (id : UnitId) : Bool := w.units.contains id

/-- Changes a unit, if there is one. -/
def modifyUnit (w : World) (id : UnitId) (f : UnitState → UnitState) : World :=
  { w with units := w.units.modify id f }

/-- Changes a player, if there is one. -/
def modifyPlayer (w : World) (id : PlayerId) (f : Player → Player) : World :=
  { w with players := w.players.modify id.val.toNat f }

/-- Tells an event. -/
def tell (w : World) (e : Event) : World := { w with events := w.events.push e }

/-- Makes a notice. -/
def note (w : World) (n : Notice) : World := { w with notices := w.notices.push n }

/-- The events that nobody has asked for yet, and the world without them. -/
def takeEvents (w : World) : List Event × World := (w.events.toList, { w with events := #[] })

/-- The notices that nobody has asked for yet, and the world without them. -/
def takeNotices (w : World) : List Notice × World := (w.notices.toList, { w with notices := #[] })

/-- Adds a player, who gets the next number. -/
def addPlayer (w : World) (p : Player) : PlayerId × World :=
  (⟨UInt32.ofNat w.players.size⟩, { w with players := w.players.push p })

/-- Changes a unit that has to exist. -/
def updateUnit (id : UnitId) (f : UnitState → UnitState) : Action Unit := do
  let _ ← Action.require ((← get).unit id)
  modify (·.modifyUnit id f)

/-- Changes a player who has to exist. -/
def updatePlayer (id : PlayerId) (f : Player → Player) : Action Unit := do
  let _ ← Action.require ((← get).player id)
  modify (·.modifyPlayer id f)

end World

end Lockstep
