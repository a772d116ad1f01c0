import Lockstep.Proofs.Random.Uniform
import Lockstep.Proofs.World.Firing
import Lockstep.Proofs.World.Run
/-!
# How long projectiles last

A weapon without a timer whose projectiles fly straight on gives them the ticks that they need for
the distance.  That number is read off a scalar, so from 32768 on it goes around.

The timer of a weapon is spread at random over a decay, one half of it before the end of the timer
and the other half after.  The first half is taken off the end of the timer before anything is
added, and no moment comes before the first one.  So a timer that ends before that half has passed
since the beginning of the battle is spread as if it ended with it, which lets projectiles last too
long; all other timers are spread as they should be.
-/

namespace Lockstep

/-- The whole part of a quotient of scalars is that of the exact quotient, gone around as a signed
number of sixteen binary places. -/
lemma Scalar.floor_div {a b : Scalar} (ha : 0 ≤ a.toRaw) (hb : 0 < b.toRaw) :
    (a / b).floor = (a.toRaw / b.toRaw).bmod 65536 := by
  have hquotient : (a / b).toRaw = (a.toRaw * 65536 / b.toRaw).bmod UInt32.size := by
    show (ofRatio a.toRaw b.toRaw).toRaw = _
    rw [ofRatio, if_neg (Int.ne_of_gt hb), toRaw_ofRaw, one,
      Int.tdiv_eq_ediv_of_nonneg (Int.mul_nonneg ha (by decide))]
  have hwhole : a.toRaw * 65536 / b.toRaw / 65536 = a.toRaw / b.toRaw := by
    rw [Int.ediv_ediv_of_nonneg (Int.le_of_lt hb), Int.mul_ediv_mul_of_pos_left _ _ (by decide)]
  rw [floor, one, hquotient, ← hwhole]
  generalize a.toRaw * 65536 / b.toRaw = n
  rw [Int.bmod_def, Int.bmod_def, UInt32.size]
  split <;> split <;> omega

namespace World

variable {w : World} {weapon : Weapon} {name : String} {timer decay : Tick} {roll : UInt32}

/-! ### Distances -/

/-- The ticks that a projectile is given for a distance. -/
lemma flightTicks_eq {distance velocity : Scalar} (hdistance : 0 ≤ distance.toRaw)
    (hvelocity : 0 < velocity.toRaw) : flightTicks distance velocity =
      ((distance.toRaw / velocity.toRaw).bmod 65536).toNat :=
  congrArg Int.toNat (Scalar.floor_div hdistance hvelocity)

/-- Without a timer a projectile that flies straight on disappears in the tick after those. -/
lemma exists_drawExpiry_eq {distance : Scalar} (htimer : weapon.timer = none)
    (hflight : weapon.flight = .lineOfSight)
    (hlast : w.time.val.toNat + flightTicks distance weapon.velocity + 1 < UInt32.size) :
    ∃ t, (w.drawExpiry weapon distance).1 = some t ∧
      t.val.toNat = w.time.val.toNat + flightTicks distance weapon.velocity + 1 := by
  have hsize : UInt32.size = 4294967296 := rfl
  have hticks : (UInt32.ofNat (flightTicks distance weapon.velocity + 1)).toNat =
      flightTicks distance weapon.velocity + 1 :=
    UInt32.toNat_ofNat_of_lt' (by omega)
  refine ⟨w.time + ⟨UInt32.ofNat (flightTicks distance weapon.velocity + 1)⟩, ?_, ?_⟩
  · rw [drawExpiry, htimer, hflight]
  · rw [Tick.toNat_add, hticks]
    omega

/-! ### Timers -/

/-- A moment lies within a decay around the end of a timer: at most half of the decay before it, and
at most the rest after it. -/
def Spread (due decay t : Nat) : Prop := due ≤ t + decay / 2 ∧ t ≤ due + (decay + 1) / 2

instance (due decay t : Nat) : Decidable (Spread due decay t) :=
  inferInstanceAs (Decidable (_ ∧ _))

/-- The moment that a number leads to: that many ticks after half of the decay was taken off, unless
that is the last moment. -/
lemma toNat_timedExpiry {now : Tick} (hdue : now.val.toNat + timer.val.toNat < UInt32.size) :
    (timedExpiry now timer decay roll).val.toNat =
      min (now.val.toNat + timer.val.toNat - decay.val.toNat / 2 + roll.toNat)
        (UInt32.size - 1) := by
  have hhalf : (decay.val / 2).toNat = decay.val.toNat / 2 := UInt32.toNat_div _ _
  have hend : (now + timer).val.toNat = now.val.toNat + timer.val.toNat := by
    rw [Tick.toNat_add]
    exact Nat.min_eq_left (Nat.le_sub_one_of_lt hdue)
  rw [timedExpiry, Tick.toNat_add, Tick.toNat_sub, hend, hhalf]

/-- Whatever is drawn, the moment lies around the end of the timer or, if that comes too soon,
around the moment at which half of the decay has passed. -/
lemma spread_timedExpiry {now : Tick} (hdue : now.val.toNat + timer.val.toNat < UInt32.size)
    (hroll : roll ≤ decay.val) :
    Spread (max (now.val.toNat + timer.val.toNat) (decay.val.toNat / 2)) decay.val.toNat
      (timedExpiry now timer decay roll).val.toNat := by
  rw [UInt32.le_iff_toNat_le] at hroll
  have hdecay := decay.val.toNat_lt
  have hsize : UInt32.size = 4294967296 := rfl
  rw [Spread, toNat_timedExpiry hdue]
  omega

/-- The timer is spread as it should be if and only if half of the decay can be taken off. -/
lemma spread_timedExpiry_iff {now : Tick}
    (hdue : now.val.toNat + timer.val.toNat < UInt32.size) :
    (∀ roll ≤ decay.val, Spread (now.val.toNat + timer.val.toNat) decay.val.toNat
        (timedExpiry now timer decay roll).val.toNat) ↔
      decay.val.toNat / 2 ≤ now.val.toNat + timer.val.toNat := by
  constructor
  · intro h
    -- the largest number that can be drawn leads furthest
    have hlatest := (h decay.val UInt32.le_rfl).2
    have hdecay := decay.val.toNat_lt
    have hsize : UInt32.size = 4294967296 := rfl
    rw [toNat_timedExpiry hdue] at hlatest
    omega
  · intro hhalf roll hroll
    have hspread := spread_timedExpiry hdue hroll
    rwa [Nat.max_eq_left hhalf] at hspread

/-- **Timers are spread over the decay around their end, unless that comes too soon.**  At any time
and from any stream of random numbers, a weapon with a timer makes a projectile, and that disappears
within the decay around the end of the timer if half of the decay has passed by then since the
beginning of the battle.  Otherwise it disappears within the decay around the moment at which that
half has passed, and a number can be drawn that lets it last too long.  The sum of the present time
and the timer has to be a moment. -/
theorem timers_spread_around_end (owner : PlayerId) (position direction : Vector3)
    (distance : Scalar) (hweapon : w.definitions.weapon name = .ok weapon)
    (htimer : weapon.timer = some timer)
    (hdue : w.time.val.toNat + timer.val.toNat < UInt32.size) :
    let due := w.time.val.toNat + timer.val.toNat
    let decay := weapon.decay.val.toNat
    ∃ roll ≤ weapon.decay.val, ∃ p w',
      (createProjectile owner name position direction distance).on w = (.ok p, w') ∧
      p.expiry = some (timedExpiry w.time timer weapon.decay roll) ∧
      Spread (max due (decay / 2)) decay (timedExpiry w.time timer weapon.decay roll).val.toNat ∧
      (decay / 2 ≤ due ↔ ∀ roll ≤ weapon.decay.val,
        Spread due decay (timedExpiry w.time timer weapon.decay roll).val.toNat) := by
  intro due decay
  have hroll := (Random.Generator.between_mem (UInt32.zero_le (a := weapon.decay.val)) w.random).2
  refine ⟨_, hroll, _, _, createProjectile_on hweapon owner position direction distance, ?_,
    spread_timedExpiry hdue hroll, (spread_timedExpiry_iff hdue).symm⟩
  rw [shot, drawExpiry, htimer]

namespace Sample

/-- A gun whose shells burst two ticks before or after the end of a timer. -/
def flak (timer : Tick) : Weapon where
  flight := .ballistic
  velocity := .ofWhole 1
  damage := .empty
  radius := 0
  timer := some timer
  decay := ⟨4⟩
  bounces := false

/-- The level map with a weapon. -/
def range (weapon : Weapon) : Setup :=
  { setup with definitions := definitions.addWeapon "gun" weapon, seed := 4 }

/-- The world at the beginning there. -/
def firingLine (weapon : Weapon) : World :=
  { start with definitions := (range weapon).definitions, random := .ofSeed 4 }

lemma weapon_firingLine (weapon : Weapon) :
    (firingLine weapon).definitions.weapon "gun" = .ok weapon := by
  simp [firingLine, range, Definitions.weapon, Definitions.require, Definitions.addWeapon,
    NameTable.get?_insert]

end Sample

/-- With a timer of forty ticks all shells burst between the ticks 38 and 42. -/
theorem timers_spread_around_end_flak :
    World.new (Sample.range (Sample.flak ⟨40⟩)) = .ok (Sample.firingLine (Sample.flak ⟨40⟩)) ∧
    ∃ p t w', (createProjectile ⟨0⟩ "gun" 0 0 0).on (Sample.firingLine (Sample.flak ⟨40⟩)) =
      (.ok p, w') ∧ p.expiry = some t ∧ 38 ≤ t.val.toNat ∧ t.val.toNat ≤ 42 := by
  refine ⟨by decide +kernel, ?_⟩
  obtain ⟨roll, -, p, w', hon, hexpiry, ⟨hearly, hlate⟩, -⟩ :=
    timers_spread_around_end ⟨0⟩ 0 0 0 (Sample.weapon_firingLine (Sample.flak ⟨40⟩)) rfl (by decide)
  exact ⟨p, _, w', hon, hexpiry, Nat.le_of_add_le_add_right (b := 2) hearly, hlate⟩

/-- With a timer of one tick a shell that is fired at the beginning bursts in the fourth tick, which
is later than the decay allows. -/
theorem timer_may_end_late :
    World.new (Sample.range (Sample.flak ⟨1⟩)) = .ok (Sample.firingLine (Sample.flak ⟨1⟩)) ∧
    ∃ p w', (createProjectile ⟨0⟩ "gun" 0 0 0).on (Sample.firingLine (Sample.flak ⟨1⟩)) =
      (.ok p, w') ∧ p.expiry = some ⟨4⟩ ∧ ¬Spread (0 + 1) 4 4 := by
  exact ⟨by decide +kernel, _, _, createProjectile_on (Sample.weapon_firingLine _) ⟨0⟩ 0 0 0,
    by decide +kernel, by decide⟩

end World

end Lockstep
