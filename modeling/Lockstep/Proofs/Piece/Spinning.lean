import Mathlib.Algebra.BigOperators.Group.Finset.Basic
import Lockstep.Proofs.Piece.Arrival
/-!
# Spins

The speed of a spin approaches its target from tick to tick, and that of a spin that runs down
approaches zero.  What a speed has come to in a number of ticks is `speedAfter`: it is moved by the
rate in each tick until it is at its target, or all the way in the first tick if there is no rate.
The piece turns by the speeds one after the other (`turnedAfter`).

The main result, `Piece.spins_speed_up_and_run_down`, says this of every piece, whatever else
happens to it meanwhile.  A spin never ends, while one that runs down is over in the tick in which
it comes to rest, and not before.
-/

namespace Lockstep

open Overflow (FitsSigned)

/-! ### A speed on its way -/

/-- The number of ticks in which a speed goes a way at a rate; without a rate it does so at once,
which takes a tick. -/
def approachTicks (distance rate : Nat) : Nat :=
  if rate = 0 then min 1 distance else distance ⌈/⌉ rate

/-- What a speed on its way to a target has come to in a number of ticks. -/
def speedAfter (speed target : Int) (rate k : Nat) : Int :=
  if rate = 0 then if k = 0 then speed else target
  else speed + min (k * rate) (target - speed).natAbs * (target - speed).sign

/-- How far a piece has turned in a number of ticks in which its speed is on its way to a target. -/
def turnedAfter (speed target : Int) (rate k : Nat) : Int :=
  ∑ i ∈ Finset.range k, speedAfter speed target rate (i + 1)

/-- A speed on its way to a target stays between the two, is at the target after a certain number of
ticks and not before, and remains there. -/
structure Approaches (speed target : Int) (rate : Nat) : Prop where
  between : ∀ k, min speed target ≤ speedAfter speed target rate k ∧
    speedAfter speed target rate k ≤ max speed target
  reached : ∀ k, speedAfter speed target rate k = target ↔
    approachTicks (target - speed).natAbs rate ≤ k
  lasting : ∀ {k k'}, k ≤ k' → speedAfter speed target rate k = target →
    speedAfter speed target rate k' = target

lemma approachTicks_le_iff {distance rate k : Nat} :
    approachTicks distance rate ≤ k ↔
      if rate = 0 then k = 0 → distance = 0 else distance ≤ k * rate := by
  rw [approachTicks]
  split
  · omega
  · rename_i h
    rw [ceilDiv_le_iff_le_mul (Nat.pos_of_ne_zero h), Nat.mul_comm]

section

variable {speed target : Int} {rate k : Nat}

/-- In any number of ticks a speed goes as in a single one in which it goes that much faster. -/
lemma speedAfter_of_pos (hrate : 0 < rate) : speedAfter speed target rate k =
    if speed < target then min (speed + (k * rate : Nat)) target
    else max (speed - (k * rate : Nat)) target := by
  rw [speedAfter, if_neg hrate.ne']
  generalize k * rate = n
  rcases lt_trichotomy target speed with h | rfl | h
  · rw [Int.sign_eq_neg_one_of_neg (by omega), if_neg (by omega)]
    omega
  · simp
  · rw [Int.sign_eq_one_of_pos (by omega), if_pos h]
    omega

lemma approach_speedAfter : approach (speedAfter speed target rate k) target rate =
    speedAfter speed target rate (k + 1) := by
  obtain rfl | hrate := Nat.eq_zero_or_pos rate
  · simp [approach, speedAfter]
  · have hstep : ¬(rate : Int) ≤ 0 := by omega
    rw [approach, if_neg hstep, speedAfter_of_pos hrate, speedAfter_of_pos hrate, Nat.succ_mul]
    omega

lemma speedAfter_eq_target_iff :
    speedAfter speed target rate k = target ↔ approachTicks (target - speed).natAbs rate ≤ k := by
  rw [approachTicks_le_iff]
  obtain rfl | hrate := Nat.eq_zero_or_pos rate
  · simp only [speedAfter, if_true]
    split <;> omega
  · rw [speedAfter_of_pos hrate, if_neg hrate.ne']
    omega

lemma speedAfter_between : min speed target ≤ speedAfter speed target rate k ∧
    speedAfter speed target rate k ≤ max speed target := by
  obtain rfl | hrate := Nat.eq_zero_or_pos rate
  · simp only [speedAfter, if_true]
    split <;> omega
  · rw [speedAfter_of_pos hrate]
    omega

lemma approaches (speed target : Int) (rate : Nat) : Approaches speed target rate where
  between _ := speedAfter_between
  reached _ := speedAfter_eq_target_iff
  lasting hk h := speedAfter_eq_target_iff.2 ((speedAfter_eq_target_iff.1 h).trans hk)

lemma turnedAfter_succ : turnedAfter speed target rate (k + 1) =
    turnedAfter speed target rate k + speedAfter speed target rate (k + 1) :=
  Finset.sum_range_succ _ k

namespace Slot

variable (start : Angle)

lemma iterate_turn_spin : turn^[k] ⟨start, some (.spin speed target rate)⟩ =
    ⟨start.offset (turnedAfter speed target rate k),
      some (.spin (speedAfter speed target rate k) target rate)⟩ := by
  induction k with
  | zero => simp [turnedAfter, speedAfter]
  | succ k ih =>
    rw [Function.iterate_succ_apply', ih, turn]
    simp only [approach_speedAfter, Angle.offset_offset, turnedAfter_succ]

lemma iterate_turn_stopping : turn^[k] ⟨start, some (.stopping speed rate)⟩ =
    ⟨start.offset (turnedAfter speed 0 rate k),
      if k < max 1 (approachTicks speed.natAbs rate) then
        some (.stopping (speedAfter speed 0 rate k) rate)
      else none⟩ := by
  induction k with
  | zero => simp [turnedAfter, speedAfter]
  | succ k ih =>
    have hover : speedAfter speed 0 rate (k + 1) = 0 ↔
        ¬k + 1 < max 1 (approachTicks speed.natAbs rate) := by
      rw [speedAfter_eq_target_iff, Int.zero_sub, Int.natAbs_neg]
      omega
    rw [Function.iterate_succ_apply', ih]
    split
    · simp only [turn, approach_speedAfter, Angle.offset_offset, turnedAfter_succ, hover, ite_not]
    · -- at rest the piece does not turn any further
      have hrest := hover.2 (by omega)
      rw [if_neg (by omega), turn, turnedAfter_succ, hrest, Int.add_zero]

end Slot

end

namespace Piece

/-! ### Pieces -/

/-- The speed at which a piece spins about an axis. -/
def spinSpeed (p : Piece) (axis : Axis) : Int := ((p.turns.get axis).map Turn.spinSpeed).getD 0

/-- What a spin about an axis has come to in a number of ticks. -/
structure SpinAfter (q : Piece) (axis : Axis) (start : Angle) (speed target : Int) (rate k : Nat) :
    Prop where
  underWay : q.turns.get axis = some (.spin (speedAfter speed target rate k) target rate)
  rotation : q.rotation.get axis = start.offset (turnedAfter speed target rate k)
  isTurning : q.isTurning axis = false

/-- What a spin about an axis that runs down has come to in a number of ticks. -/
structure RunDownAfter (q : Piece) (axis : Axis) (start : Angle) (speed : Int) (rate k : Nat) :
    Prop where
  /-- Until it is at rest, the piece counts as turning. -/
  underWay : k < max 1 (approachTicks speed.natAbs rate) →
    q.turns.get axis = some (.stopping (speedAfter speed 0 rate k) rate) ∧ q.isTurning axis = true
  /-- Then the run-down is over. -/
  ended : max 1 (approachTicks speed.natAbs rate) ≤ k →
    q.turns.get axis = none ∧ q.isTurning axis = false
  rotation : q.rotation.get axis = start.offset (turnedAfter speed 0 rate k)
  /-- A spin that is begun again goes on from the speed that is left. -/
  resumed : ∀ {target next : Int} {r}, q.spin axis target next = .ok r →
    r.turns.get axis = some (.spin (speedAfter speed 0 rate k) target next.natAbs)

variable {p q r : Piece} {axis : Axis} {start : Angle} {speed target : Int}

/-- A spin that is begun goes on from the speed at which the piece spins already. -/
lemma spin_eq_ok {rate : Int} (h : p.spin axis target rate = .ok q) :
    q = p.withTurn axis
      ⟨p.rotation.get axis, some (.spin (p.spinSpeed axis) target rate.natAbs)⟩ := by
  rw [spin_eq, sizeOf, Overflow.signed] at h
  split at h
  · cases h
    rfl
  · cases h

lemma turnSlot_of_stopSpin {t : Turn} {rate : Int} (hturn : p.turns.get axis = some t)
    (h : p.stopSpin axis rate = .ok q) : q.turnSlot axis =
      ⟨p.rotation.get axis, some (.stopping (p.spinSpeed axis) rate.natAbs)⟩ := by
  rw [stopSpin_eq, hturn, Option.elim_some, sizeOf, Overflow.signed] at h
  split at h
  · cases h
    rw [turnSlot_withTurn, if_pos rfl, spinSpeed, hturn]
    rfl
  · cases h

section

variable {rate k : Nat}

lemma spinAfter_of_turnSlot
    (h : q.turnSlot axis = Slot.turn^[k] ⟨start, some (.spin speed target rate)⟩) :
    SpinAfter q axis start speed target rate k := by
  rw [Slot.iterate_turn_spin] at h
  exact ⟨congrArg Slot.underWay h, congrArg Slot.current h,
    congrArg (·.underWay.any Turn.ends) h⟩

lemma spinSpeed_of_turnSlot
    (h : q.turnSlot axis = Slot.turn^[k] ⟨start, some (.stopping speed rate)⟩) :
    q.spinSpeed axis = speedAfter speed 0 rate k := by
  have hspeed : q.spinSpeed axis = ((q.turnSlot axis).underWay.map Turn.spinSpeed).getD 0 := rfl
  rw [hspeed, h, Slot.iterate_turn_stopping]
  split
  · rfl
  · have hrest : approachTicks (0 - speed).natAbs rate ≤ k := by
      rw [Int.zero_sub, Int.natAbs_neg]
      omega
    exact (speedAfter_eq_target_iff.2 hrest).symm

lemma runDownAfter_of_turnSlot
    (h : q.turnSlot axis = Slot.turn^[k] ⟨start, some (.stopping speed rate)⟩) :
    RunDownAfter q axis start speed rate k := by
  have hspeed := spinSpeed_of_turnSlot h
  rw [Slot.iterate_turn_stopping] at h
  have hturn : q.turns.get axis = _ := congrArg Slot.underWay h
  have hturning : q.isTurning axis = _ := congrArg (·.underWay.any Turn.ends) h
  refine ⟨fun hk => ?_, fun hk => ?_, congrArg Slot.current h, fun hr => ?_⟩
  · rw [hturn, hturning, if_pos hk]
    exact ⟨rfl, rfl⟩
  · rw [hturn, hturning, if_neg (not_lt.2 hk)]
    exact ⟨rfl, rfl⟩
  · rw [spin_eq_ok hr, hspeed, withTurn, Triple.get_set, if_pos rfl]

end

/-- **Spins speed up and run down.**  A spin that is begun approaches its target speed from the
speed at which the piece spins already, never beyond it, and keeps it from then on; it never counts
as turning.  A spin that is stopped approaches rest in the same way.  It counts as turning until it
is at rest, which takes a tick at least, and then it is over; a spin that is begun meanwhile goes on
from the speed that is left.  The piece turns by the speeds of all ticks.  Whatever else happens to
it, as long as no other turn about that axis is asked for, makes no difference. -/
theorem spins_speed_up_and_run_down (p : Piece) (axis : Axis) {rate : Int}
    (hrate : FitsSigned rate.natAbs) :
    (∀ target, ∃ q, p.spin axis target rate = .ok q ∧
      ∀ es r, (∀ e ∈ es, ¬e.Turns axis) → q.follow es = .ok r →
        SpinAfter r axis (p.rotation.get axis) (p.spinSpeed axis) target rate.natAbs
          (updates es)) ∧
    (∀ t, p.turns.get axis = some t → ∃ q, p.stopSpin axis rate = .ok q ∧
      ∀ es r, (∀ e ∈ es, ¬e.Turns axis) → q.follow es = .ok r →
        RunDownAfter r axis (p.rotation.get axis) (p.spinSpeed axis) rate.natAbs (updates es)) ∧
    ∀ speed target rate, Approaches speed target rate := by
  refine ⟨fun target => ?_, fun t hturn => ?_, approaches⟩
  · obtain ⟨q, hq⟩ : ∃ q, p.spin axis target rate = .ok q :=
      exists_obey (c := .spin target rate) hrate
    refine ⟨q, hq, fun es r hes hr => spinAfter_of_turnSlot ?_⟩
    rw [turnSlot_follow hes hr, spin_eq_ok hq, turnSlot_withTurn, if_pos rfl]
  · obtain ⟨q, hq⟩ : ∃ q, p.stopSpin axis rate = .ok q :=
      exists_obey (c := .stopSpin rate) hrate
    refine ⟨q, hq, fun es r hes hr => runDownAfter_of_turnSlot ?_⟩
    rw [turnSlot_follow hes hr, turnSlot_of_stopSpin hturn hq]

/-- A door that spins. -/
def Sample.revolving : Piece :=
  { Piece.new "door" 0 none with turns := (Triple.const none).set .y (some (.spin 200 300 100)) }

/-- The door is made to spin the other way around, or stopped, at a rate that goes into neither way
without a rest. -/
theorem spins_speed_up_and_run_down_revolving :
    FitsSigned (-150 : Int).natAbs ∧ Sample.revolving.turns.get .y = some (.spin 200 300 100) ∧
      (∃ q r, Sample.revolving.spin .y (-200) (-150) = .ok q ∧
        q.follow [.update, .command .x (.stopSpin 0), .update, .update] = .ok r ∧
        r.turns.get .y = some (.spin (-200) (-200) 150) ∧ r.rotation.get .y = ⟨65286⟩) ∧
      ∃ q r, Sample.revolving.stopSpin .y (-150) = .ok q ∧ q.follow [.update, .update] = .ok r ∧
        r.turns.get .y = none ∧ r.rotation.get .y = ⟨50⟩ := by
  have hrate : FitsSigned (-150 : Int).natAbs := by decide
  obtain ⟨hspin, hstop, -⟩ := spins_speed_up_and_run_down Sample.revolving .y hrate
  refine ⟨hrate, rfl, ?_, ?_⟩
  · obtain ⟨q, hq, hafter⟩ := hspin (-200)
    have hes : ∀ e ∈ [.update, .command .x (.stopSpin 0), .update, .update],
        ¬Event.Turns .y e := by
      simp [Event.Turns]
    have hsized : ∀ e ∈ [.update, .command .x (.stopSpin 0), .update, .update],
        Event.Sized e := by
      simp [Event.Sized, Command.Sized, FitsSigned]
    obtain ⟨r, hr⟩ := exists_follow (p := q) hsized
    have hspun := hafter _ r hes hr
    exact ⟨q, r, hq, hr, hspun.underWay, hspun.rotation⟩
  · obtain ⟨q, hq, hafter⟩ := hstop _ rfl
    have hes : ∀ e ∈ [.update, .update], ¬Event.Turns .y e := by simp [Event.Turns]
    have hsized : ∀ e ∈ [.update, .update], Event.Sized e := by simp [Event.Sized]
    obtain ⟨r, hr⟩ := exists_follow (p := q) hsized
    have hrun := hafter _ r hes hr
    exact ⟨q, r, hq, hr, (hrun.ended (by decide)).1, hrun.rotation⟩

end Piece

end Lockstep
