import Lockstep.World.Combat
import Lockstep.World.Economy
import Lockstep.World.ScriptDriver
/-!
# One tick of the world

In each tick the clock goes on, the scripts of all units run, the pieces of all units move, the
projectiles fly, and what has expired or died is taken away.
-/

namespace Lockstep.World

/-- The clock goes on, and units remember where they are. -/
def beginTick (w : World) : World :=
  { w with time := w.time + ⟨1⟩, units := w.units.map UnitState.rememberPlace }

/-- Resumes the threads of a unit; if the world refuses, that is noted. -/
def runScriptsNoting (budget : Nat) (id : UnitId) : Action Unit :=
  (runUnitScripts budget id).orElse fun cause => modify (·.note (.scriptsNotRun id cause))

/-- All pieces move. -/
def stepPieces (w : World) : World := { w with units := w.units.map UnitState.stepPieces }

/-- All projectiles fly, and those whose time is over disappear. -/
def stepProjectiles (w : World) : World :=
  { w with
    projectiles :=
      (w.projectiles.map Projectile.advance).filterValues fun p => !p.isExpired w.time }

/-- The units that have been killed. -/
def deadUnits (w : World) : List UnitId :=
  (w.units.toList.filter fun e => e.2.isDead).map Prod.fst

/-- Takes a dead unit off the map and tells so. -/
def sweepUnit (w : World) (id : UnitId) : World := (w.removeUnit id).tell (.removed id)

/-- Takes all dead units off the map. -/
def sweep (w : World) : World := w.deadUnits.foldl sweepUnit w

/-- One tick.  The budget bounds the steps of each thread. -/
def tick (budget : Nat) : Action Unit := do
  modify beginTick
  (← get).units.keys.forM (runScriptsNoting budget)
  modify fun w => w.stepPieces.stepProjectiles.sweep

/-- The tick, the players, the units and the projectiles. -/
instance : Fingerprinted World := ⟨fun w =>
  fingerprint w.time + fingerprint w.players.toList + fingerprint w.units.values
    + fingerprint w.projectiles.values⟩

end Lockstep.World
