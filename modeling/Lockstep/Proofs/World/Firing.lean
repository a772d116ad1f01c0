import Lockstep.Proofs.Respects
import Lockstep.World.Combat
/-!
# What it is to fire

To make a projectile at most draws a number, and to put it in flight is a single write, so that all
that may happen when a weapon is fired can be told from these two (`respects_fire`).  A weapon that
is not known is refused before a number is drawn.
-/

namespace Lockstep.World

variable {w : World} {weapon : Weapon} {owner : PlayerId} {name : String}
  {position direction : Vector3} {distance : Scalar} {p : Projectile} {R : World → World → Prop}

/-- The moment at which a projectile that is fired now disappears, and the stream of random numbers
after what is drawn for it. -/
def drawExpiry (w : World) (weapon : Weapon) (distance : Scalar) :
    Option Tick × Random.Generator :=
  match weapon.timer, weapon.flight with
  | some timer, _ =>
    let (roll, random) := w.random.between 0 weapon.decay.val
    (some (timedExpiry w.time timer weapon.decay roll), random)
  | none, .lineOfSight =>
    (some (w.time + ⟨UInt32.ofNat (flightTicks distance weapon.velocity + 1)⟩), w.random)
  | none, .ballistic => (none, w.random)

/-- The projectile that a weapon fires now. -/
def shot (w : World) (weapon : Weapon) (owner : PlayerId) (name : String)
    (position direction : Vector3) (distance : Scalar) : Projectile where
  weapon := Text.upcase name
  owner := owner
  position := position
  previousPosition := position
  origin := position
  velocity := Vector3.scale direction weapon.velocity
  falls := decide (weapon.flight = .ballistic)
  damage := weapon.damage
  radius := weapon.radius
  created := w.time
  expiry := (w.drawExpiry weapon distance).1
  bounces := weapon.bounces
  lastSmoke := w.time

/-- A world with a further projectile, which has the number that was next. -/
def withProjectile (w : World) (p : Projectile) (next : UInt32) : World :=
  { w with nextProjectile := next, projectiles := w.projectiles.insert ⟨w.nextProjectile⟩ p }

lemma createProjectile_on (hweapon : w.definitions.weapon name = .ok weapon) (owner : PlayerId)
    (position direction : Vector3) (distance : Scalar) :
    (createProjectile owner name position direction distance).on w =
      (.ok (w.shot weapon owner name position direction distance),
        { w with random := (w.drawExpiry weapon distance).2 }) := by
  rw [createProjectile, Action.on_get_bind, hweapon, Action.on_require_bind]
  obtain ⟨flight, -, -, -, timer, -, -⟩ := weapon
  cases timer with
  | some timer => rfl
  | none => cases flight <;> rfl

lemma createProjectile_of_unknown {cause : Refusal}
    (hweapon : w.definitions.weapon name = .error cause) (owner : PlayerId)
    (position direction : Vector3) (distance : Scalar) :
    (createProjectile owner name position direction distance).on w =
      (.error (.refused cause), w) := by
  rw [createProjectile, Action.on_get_bind, hweapon, Action.on_require_bind]

lemma insertProjectile_on (p : Projectile) (w : World) : (insertProjectile p).on w =
    match Overflow.successor w.nextProjectile with
    | .ok next => (.ok ⟨w.nextProjectile⟩, w.withProjectile p next)
    | .error cause => (.error (.halt (.overflow cause)), w) := by
  rw [insertProjectile, Action.on_get_bind, Action.on_checked_bind]
  cases Overflow.successor w.nextProjectile <;> rfl

lemma fire_on (hweapon : w.definitions.weapon name = .ok weapon) (owner : PlayerId)
    (position direction : Vector3) (distance : Scalar) :
    (fire owner name position direction distance).on w =
      (insertProjectile (w.shot weapon owner name position direction distance)).on
        { w with random := (w.drawExpiry weapon distance).2 } := by
  rw [fire, Action.on_bind, createProjectile_on hweapon]

section Preorder

variable [IsPreorder World R]

lemma respects_createProjectile (hdraw : ∀ w random, R w { w with random := random }) :
    Respects R (createProjectile owner name position direction distance) := by
  intro w
  show R w ((createProjectile owner name position direction distance).on w).2
  cases hweapon : w.definitions.weapon name with
  | error cause =>
    rw [createProjectile_of_unknown hweapon]
    exact refl_of R w
  | ok weapon =>
    rw [createProjectile_on hweapon]
    exact hdraw w _

lemma respects_insertProjectile
    (hput : ∀ {w next}, Overflow.successor w.nextProjectile = .ok next →
      R w (w.withProjectile p next)) :
    Respects R (insertProjectile p) := by
  intro w
  show R w ((insertProjectile p).on w).2
  rw [insertProjectile_on]
  cases hnext : Overflow.successor w.nextProjectile with
  | error cause => exact refl_of R w
  | ok next => exact hput hnext

theorem respects_fire (hdraw : ∀ w random, R w { w with random := random })
    (hput : ∀ {w next} p, Overflow.successor w.nextProjectile = .ok next →
      R w (w.withProjectile p next)) :
    Respects R (fire owner name position direction distance) :=
  (respects_createProjectile hdraw).bind fun p => respects_insertProjectile (hput p)

end Preorder

end Lockstep.World
