import Lockstep.World.State
/-!
# Economy and victory

Units report what they consume and produce to their owners.  The game is won by the last player who
is still in it.
-/

namespace Lockstep.World

/-- Reports amounts for a unit to its owner.  The apparent amounts are booked for the unit and
decide for the owner; the actual amounts are booked for the owner. -/
def reportActual (id : UnitId) (apparentEnergy : Energy) (apparentMetal : Metal)
    (actualEnergy : Energy) (actualMetal : Metal) : Action Bool := do
  let w ← get
  let u ← Action.require (w.unit id)
  let p ← Action.require (w.player u.owner)
  let (granted, p) := p.report apparentEnergy apparentMetal actualEnergy actualMetal
  modify (·.modifyUnit id fun u =>
    { u with energy := u.energy.book apparentEnergy, metal := u.metal.book apparentMetal })
  modify (·.modifyPlayer u.owner fun _ => p)
  return granted

/-- Reports amounts for a unit to its owner. -/
def report (id : UnitId) (energy : Energy) (metal : Metal) : Action Bool :=
  reportActual id energy metal energy metal

/-- How the game stands. -/
inductive Outcome where
  /-- A single player is left. -/
  | won (player : PlayerId)
  /-- No player is left. -/
  | draw
  /-- Several players are left. -/
  | undecided
deriving DecidableEq, Inhabited

/-- The players who are still in the game. -/
def alivePlayers (w : World) : List PlayerId :=
  w.players.toList.zipIdx.filterMap fun (p, i) =>
    if p.isAlive then some ⟨UInt32.ofNat i⟩ else none

/-- How the game stands. -/
def outcome (w : World) : Outcome :=
  match w.alivePlayers with
  | [] => .draw
  | [id] => .won id
  | _ => .undecided

end Lockstep.World
