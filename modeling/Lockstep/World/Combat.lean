import Lockstep.World.State
/-!
# Firing weapons

A weapon determines the speed, the damage and the lifetime of its projectiles.  A weapon with a
timer sets a lifetime that varies at random around it; without one, a projectile that flies straight
on lasts until it has covered the distance to its target, and a falling one lasts.
-/

namespace Lockstep.World

/-- The whole ticks that a projectile needs for a distance. -/
def flightTicks (distance velocity : Scalar) : Nat := (distance / velocity).floor.toNat

/-- The tick at which a projectile with a timer disappears, given a number drawn from zero to the
decay. -/
def timedExpiry (now timer decay : Tick) (roll : UInt32) : Tick :=
  now + timer - ⟨decay.val / 2⟩ + ⟨roll⟩

/-- The projectile that a weapon fires. -/
def createProjectile (owner : PlayerId) (weaponName : String) (position direction : Vector3)
    (distance : Scalar) : Action Projectile := do
  let w ← get
  let weapon ← Action.require (w.definitions.weapon weaponName)
  let expiry ←
    match weapon.timer, weapon.flight with
    | some timer, _ =>
      let (roll, random) := w.random.between 0 weapon.decay.val
      set { w with random := random }
      pure (some (timedExpiry w.time timer weapon.decay roll))
    | none, .lineOfSight =>
      pure (some (w.time + ⟨UInt32.ofNat (flightTicks distance weapon.velocity + 1)⟩))
    | none, .ballistic => pure none
  return {
    weapon := Text.upcase weaponName
    owner := owner
    position := position
    previousPosition := position
    origin := position
    velocity := Vector3.scale direction weapon.velocity
    falls := decide (weapon.flight = .ballistic)
    damage := weapon.damage
    radius := weapon.radius
    created := w.time
    expiry := expiry
    bounces := weapon.bounces
    lastSmoke := w.time }

/-- Puts a projectile in flight. -/
def insertProjectile (p : Projectile) : Action ProjectileId := do
  let w ← get
  let next ← Action.checked (Overflow.successor w.nextProjectile)
  let id : ProjectileId := ⟨w.nextProjectile⟩
  set { w with nextProjectile := next, projectiles := w.projectiles.insert id p }
  return id

/-- Fires a weapon. -/
def fire (owner : PlayerId) (weaponName : String) (position direction : Vector3)
    (distance : Scalar) : Action ProjectileId := do
  insertProjectile (← createProjectile owner weaponName position direction distance)

end Lockstep.World
