import Lockstep.World.Resource
/-!
# Players

A player owns units and an account for each resource.  Units report what they want to consume and
produce; a report is granted as a whole or not at all.
-/

namespace Lockstep

/-- Who decides for a player. -/
inductive PlayerKind where
  /-- A person. -/
  | human
  /-- The computer. -/
  | computer
deriving DecidableEq, Inhabited

/-- Whether a player is still in the game. -/
inductive PlayerStatus where
  /-- Still playing. -/
  | alive
  /-- Out of the game. -/
  | dead
deriving DecidableEq, Inhabited

/-- The computer counts one. -/
instance : Fingerprinted PlayerKind := ⟨fun k => fingerprint (decide (k = .computer))⟩

/-- A player out of the game counts one. -/
instance : Fingerprinted PlayerStatus := ⟨fun s => fingerprint (decide (s = .dead))⟩

/-- A player. -/
structure Player where
  /-- The name shown to others. -/
  name : Option String
  /-- Who decides. -/
  kind : PlayerKind
  /-- The number of the team color. -/
  color : UInt8
  /-- Whether the player is still in the game. -/
  status : PlayerStatus
  /-- The faction. -/
  side : String
  /-- The energy account. -/
  energy : Account .energy
  /-- The metal account. -/
  metal : Account .metal
deriving DecidableEq, Inhabited

namespace Player

/-- A player with empty accounts who is in the game. -/
def new (kind : PlayerKind) (side : String) (color : UInt8) : Player :=
  ⟨none, kind, color, .alive, side, .empty, .empty⟩

/-- Takes a report of a unit.  The apparent amounts are asked for and decide; the actual amounts
are booked if the report is granted.  Energy is asked for first, and metal is not asked for any more
when the energy is refused. -/
def report (p : Player) (apparentEnergy : Energy) (apparentMetal : Metal) (actualEnergy : Energy)
    (actualMetal : Metal) : Bool × Player :=
  let energy := p.energy.request apparentEnergy
  if !p.energy.grants apparentEnergy then (false, { p with energy := energy })
  else
    let metal := p.metal.request apparentMetal
    if !p.metal.grants apparentMetal then (false, { p with energy := energy, metal := metal })
    else (true, { p with energy := energy.book actualEnergy, metal := metal.book actualMetal })

/-- Begins a new period on both accounts. -/
def resetAccounts (p : Player) : Player :=
  { p with energy := p.energy.reset, metal := p.metal.reset }

/-- Whether the player is still in the game. -/
def isAlive (p : Player) : Bool := decide (p.status = .alive)

/-- The name is left out. -/
instance : Fingerprinted Player := ⟨fun p =>
  fingerprint p.kind + fingerprint p.color + fingerprint p.status + fingerprint p.side
    + fingerprint p.energy + fingerprint p.metal⟩

end Player

end Lockstep
