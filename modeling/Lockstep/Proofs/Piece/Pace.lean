import Lockstep.Proofs.Piece.Spinning
import Lockstep.World.ScriptDriver
/-!
# The pace of motions

A script gives the rate of a motion per second, and the piece goes by the rate per tick, which is
cut to a whole number.  How many ticks a motion takes follows from what there is to go and that
number (`Piece.takes_duration`).  So a slower motion is never over before a faster one, with an
exception (`Piece.slower_is_no_sooner`): less than thirty in a second is nothing in a tick, and to
move with no rate at all means to be there at once.
-/

namespace Lockstep

open Overflow (FitsSigned)
open Script (Motion perTick)

/-- What a motion that a script asks for is to the piece. -/
def Script.Motion.command : Motion → Piece.Command
  | .move position speed => .moveTo ⟨position⟩ ⟨perTick speed⟩
  | .moveNow position => .moveNow ⟨position⟩
  | .turn angle speed => .turnTo (Script.angleOfValue angle) (perTick speed).toInt
  | .turnNow angle => .turnNow (Script.angleOfValue angle)
  | .spin targetSpeed acceleration =>
    .spin (perTick targetSpeed).toInt (perTick acceleration).toInt
  | .stopSpin deceleration => .stopSpin (perTick deceleration).toInt

lemma World.motionAction_eq (id : UnitId) (name : String) (axis : Axis) (motion : Motion) :
    motionAction id name axis motion = updatePiece id name fun p => p.obey axis motion.command := by
  cases motion <;> rfl

namespace Piece

/-! ### Errands -/

/-- A motion that a script asks for, but for the rate per second at which it is to be made. -/
inductive Errand where
  /-- To move to an offset. -/
  | move (position : Int32)
  /-- To turn to an angle. -/
  | turn (angle : Int32)
  /-- To come to a speed. -/
  | spin (targetSpeed : Int32)
  /-- To come to rest. -/
  | stopSpin

namespace Errand

/-- The motion at a rate per second. -/
def withRate (rate : Int32) : Errand → Motion
  | move position => .move position rate
  | turn angle => .turn angle rate
  | spin targetSpeed => .spin targetSpeed rate
  | stopSpin => .stopSpin rate

/-- Whether the errand leads to a place; the others lead to a speed. -/
def isTravel : Errand → Bool
  | move _ | turn _ => true
  | spin _ | stopSpin => false

/-- An event is a command that takes the place of the errand. -/
def Touches (axis : Axis) : Errand → Event → Prop
  | move _, e => e.Moves axis
  | _, e => e.Turns axis

/-- A piece is still on the errand. -/
def Pending (axis : Axis) (q : Piece) : Errand → Prop
  | move _ => q.isMoving axis = true
  | turn _ => q.isTurning axis = true
  | spin targetSpeed => q.spinSpeed axis ≠ (perTick targetSpeed).toInt
  | stopSpin => q.isTurning axis = true

/-- The number of ticks for an errand at a rate per tick. -/
def duration (p : Piece) (axis : Axis) (rate : Nat) : Errand → Nat
  | move position =>
    if rate = 0 then 0
    else ticks (⟨position⟩ - p.displacement.get axis : Scalar).abs.toRaw.toNat rate
  | turn angle =>
    if rate = 0 then 0
    else ticks (Script.angleOfValue angle - p.rotation.get axis).signed.natAbs rate
  | spin targetSpeed =>
    approachTicks ((perTick targetSpeed).toInt - p.spinSpeed axis).natAbs rate
  | stopSpin =>
    if p.turns.get axis = none then 0 else max 1 (approachTicks (p.spinSpeed axis).natAbs rate)

end Errand

/-- At a rate per second, a piece is on an errand for a number of ticks exactly, whatever else
happens to it meanwhile. -/
def Takes (p : Piece) (axis : Axis) (errand : Errand) (rate : Int32) (n : Nat) : Prop :=
  ∃ q, p.obey axis (errand.withRate rate).command = .ok q ∧
    ∀ es r, (∀ e ∈ es, ¬errand.Touches axis e) → q.follow es = .ok r →
      (errand.Pending axis r ↔ updates es < n)

variable {p q r : Piece} {axis : Axis} {rate : Int32} {k : Nat}

/-! ### How long they take -/

lemma isMoving_iff_of_moveSlot {start target speed : Scalar} (h : 0 < speed)
    (hq : q.moveSlot axis = Slot.move^[k] ⟨start, some ⟨target, speed⟩⟩) :
    q.isMoving axis = true ↔ k < ticks (target - start).abs.toRaw.toNat speed.toRaw.toNat := by
  have hpos : 0 < speed.toRaw := Scalar.lt_iff.1 h
  have hmoving : q.isMoving axis = (q.moveSlot axis).underWay.isSome := rfl
  rw [hmoving, hq]
  by_cases hfar : -2147483648 < (target - start).toRaw
  · rw [Slot.iterate_move_of_lt h hfar, iterate_shorten (by omega), Scalar.toRaw_abs_of_lt hfar,
      Int.toNat_natCast]
    split <;> simp_all [Slot.moveWithRest]
  · -- a way without a size counts as none, and the piece is there in the first tick
    have hleast : (target - start).abs.toRaw ≤ 0 := by
      rw [Scalar.toRaw_abs_of_le (not_lt.1 hfar)]
      decide
    have hnear : (target - start).abs ≤ speed := Scalar.le_iff.2 (hleast.trans hpos.le)
    have hfirst : Slot.move ⟨start, some ⟨target, speed⟩⟩ = ⟨target, none⟩ := by
      simp only [Slot.move, hnear, if_true]
    rw [Int.toNat_of_nonpos hleast, ticks]
    cases k with
    | zero => simp
    | succ k =>
      rw [Function.iterate_succ_apply, hfirst, Function.iterate_fixed rfl]
      simp

lemma isTurning_iff_of_turnSlot {start target : Angle} {speed : Int} (h : 0 < speed)
    (hq : q.turnSlot axis = Slot.turn^[k] ⟨start, some (.toward target speed)⟩) :
    q.isTurning axis = true ↔ k < ticks (target - start).signed.natAbs speed.toNat := by
  have hafter := turnAfter_of_turnSlot h hq
  by_cases hk : k < ticks (target - start).signed.natAbs speed.toNat
  · simp [hk, (hafter.underWay hk).1]
  · simp [hk, (hafter.arrived (not_lt.1 hk)).1]

section

variable {es : List Event} {n : Nat}

lemma isMoving_of_moveTo {target speed : Scalar} (hspeed : speed.toRaw = n)
    (hes : ∀ e ∈ es, ¬e.Moves axis) (hr : (p.moveTo axis target speed).follow es = .ok r) :
    r.isMoving axis = true ↔ updates es <
      if n = 0 then 0 else ticks (target - p.displacement.get axis).abs.toRaw.toNat n := by
  have hslot := moveSlot_follow hes hr
  rw [moveTo_eq, moveSlot_withMove, if_pos rfl] at hslot
  by_cases hn : n = 0
  · have hnone : speed ≤ 0 := Scalar.le_iff.2 (by rw [hspeed, hn]; decide)
    rw [if_pos hnone, Function.iterate_fixed rfl] at hslot
    have hmoving : r.isMoving axis = _ := congrArg (·.underWay.isSome) hslot
    simp [hmoving, hn]
  · have hpos : 0 < speed := Scalar.lt_iff.2 (by rw [hspeed]; exact Int.natCast_pos.2 (by omega))
    have hbegun : ¬speed ≤ 0 := fun hle =>
      absurd (Scalar.le_iff.1 hle) (not_le.2 (Scalar.lt_iff.1 hpos))
    rw [if_neg hbegun] at hslot
    rw [if_neg hn, isMoving_iff_of_moveSlot hpos hslot, hspeed, Int.toNat_natCast]

lemma isTurning_of_turnTo {target : Angle} (hes : ∀ e ∈ es, ¬e.Turns axis)
    (hr : (p.turnTo axis target n).follow es = .ok r) :
    r.isTurning axis = true ↔ updates es <
      if n = 0 then 0 else ticks (target - p.rotation.get axis).signed.natAbs n := by
  have hslot := turnSlot_follow hes hr
  rw [turnTo_eq, turnSlot_withTurn, if_pos rfl] at hslot
  by_cases hn : n = 0
  · rw [if_pos (by omega), Function.iterate_fixed rfl] at hslot
    have hturning : r.isTurning axis = _ := congrArg (·.underWay.any Turn.ends) hslot
    simp [hturning, hn]
  · rw [if_neg (by omega)] at hslot
    rw [if_neg hn, isTurning_iff_of_turnSlot (by omega) hslot, Int.toNat_natCast]

lemma spinSpeed_of_spin {target : Int} (hes : ∀ e ∈ es, ¬e.Turns axis)
    (hq : p.spin axis target n = .ok q) (hr : q.follow es = .ok r) :
    r.spinSpeed axis ≠ target ↔
      updates es < approachTicks (target - p.spinSpeed axis).natAbs n := by
  have hslot := turnSlot_follow hes hr
  rw [spin_eq_ok hq, turnSlot_withTurn, if_pos rfl, Int.natAbs_natCast] at hslot
  have hspeed : r.spinSpeed axis = speedAfter (p.spinSpeed axis) target n (updates es) := by
    rw [spinSpeed, (spinAfter_of_turnSlot hslot).underWay]
    rfl
  rw [hspeed, ne_eq, speedAfter_eq_target_iff, not_le]

lemma isTurning_of_stopSpin (hes : ∀ e ∈ es, ¬e.Turns axis)
    (hq : p.stopSpin axis n = .ok q) (hr : q.follow es = .ok r) :
    r.isTurning axis = true ↔ updates es <
      if p.turns.get axis = none then 0
      else max 1 (approachTicks (p.spinSpeed axis).natAbs n) := by
  have hslot := turnSlot_follow hes hr
  cases hturn : p.turns.get axis with
  | none =>
    rw [stopSpin_eq, hturn] at hq
    cases hq
    have hnone : p.turnSlot axis = ⟨p.rotation.get axis, none⟩ := by rw [turnSlot, hturn]
    rw [hnone, Function.iterate_fixed rfl] at hslot
    have hturning : r.isTurning axis = _ := congrArg (·.underWay.any Turn.ends) hslot
    simp [hturning]
  | some t =>
    rw [turnSlot_of_stopSpin hturn hq, Int.natAbs_natCast] at hslot
    have hafter := runDownAfter_of_turnSlot hslot
    rw [if_neg (Option.some_ne_none t)]
    by_cases hk : updates es < max 1 (approachTicks (p.spinSpeed axis).natAbs n)
    · simp only [(hafter.underWay hk).2, hk]
    · simp [(hafter.ended (not_lt.1 hk)).2, hk]

end

lemma toInt_perTick_of_pos (hrate : 0 < rate) :
    (perTick rate).toInt = (rate.toInt.toNat / 30 : Nat) := by
  have hpos : 0 < rate.toInt := Int32.lt_iff_toInt_lt.1 hrate
  rw [Script.toInt_perTick, Int.tdiv_eq_ediv_of_nonneg hpos.le]
  omega

/-- A rate that is positive in a second may be none in a tick, but it has a size. -/
lemma sized_withRate (errand : Errand) (hrate : 0 < rate) :
    (errand.withRate rate).command.Sized := by
  have hlt := (perTick rate).toInt_lt
  have hfits : FitsSigned (perTick rate).toInt.natAbs := by
    rw [toInt_perTick_of_pos hrate] at hlt ⊢
    rw [FitsSigned]
    omega
  cases errand with
  | move position => trivial
  | turn angle => trivial
  | spin targetSpeed => exact hfits
  | stopSpin => exact hfits

theorem takes_duration (p : Piece) (axis : Axis) (errand : Errand) (hrate : 0 < rate) :
    p.Takes axis errand rate (errand.duration p axis (rate.toInt.toNat / 30)) := by
  have hperTick := toInt_perTick_of_pos hrate
  obtain ⟨q, hq⟩ : ∃ q, p.obey axis (errand.withRate rate).command = .ok q :=
    exists_obey (sized_withRate errand hrate)
  refine ⟨q, hq, fun es r hes hr => ?_⟩
  cases errand with
  | move position =>
    cases hq
    exact isMoving_of_moveTo hperTick hes hr
  | turn angle =>
    cases hq
    rw [hperTick] at hr
    exact isTurning_of_turnTo hes hr
  | spin targetSpeed =>
    have hq : p.spin axis (perTick targetSpeed).toInt (perTick rate).toInt = .ok q := hq
    rw [hperTick] at hq
    exact spinSpeed_of_spin hes hq hr
  | stopSpin =>
    have hq : p.stopSpin axis (perTick rate).toInt = .ok q := hq
    rw [hperTick] at hq
    exact isTurning_of_stopSpin hes hq hr

/-! ### Rates compared -/

lemma approachTicks_zero (distance : Nat) : approachTicks distance 0 = min 1 distance := rfl

lemma ticks_eq (distance : Nat) {rate : Nat} (h : 0 < rate) :
    ticks distance rate = max 1 (approachTicks distance rate) := by
  rw [ticks, approachTicks, if_neg h.ne']

lemma approachTicks_anti (distance : Nat) {slow fast : Nat} (hslow : 0 < slow)
    (hle : slow ≤ fast) : approachTicks distance fast ≤ approachTicks distance slow := by
  have hway := approachTicks_le_iff.1 (le_refl (approachTicks distance slow))
  rw [if_neg hslow.ne'] at hway
  rw [approachTicks_le_iff, if_neg (by omega)]
  exact hway.trans (Nat.mul_le_mul_left _ hle)

lemma approachTicks_pos_iff (distance rate : Nat) :
    0 < approachTicks distance rate ↔ 0 < distance := by
  rw [← not_iff_not, not_lt, not_lt, approachTicks_le_iff]
  split <;> simp

lemma Errand.duration_anti (p : Piece) (axis : Axis) (errand : Errand) {slow fast : Nat}
    (hslow : 0 < slow) (hle : slow ≤ fast) :
    errand.duration p axis fast ≤ errand.duration p axis slow := by
  have hfast : 0 < fast := by omega
  have hanti := fun distance => approachTicks_anti distance hslow hle
  cases errand with
  | move position =>
    simp only [duration, hslow.ne', hfast.ne', if_false, ticks_eq _ hslow, ticks_eq _ hfast]
    exact max_le_max_left 1 (hanti _)
  | turn angle =>
    simp only [duration, hslow.ne', hfast.ne', if_false, ticks_eq _ hslow, ticks_eq _ hfast]
    exact max_le_max_left 1 (hanti _)
  | spin targetSpeed => exact hanti _
  | stopSpin =>
    simp only [duration]
    split
    · exact le_refl 0
    · exact max_le_max_left 1 (hanti _)

/-- Without a rate an errand is over at once, or with the first tick if it is about a speed. -/
lemma Errand.duration_zero_le (p : Piece) (axis : Axis) (errand : Errand) :
    errand.duration p axis 0 ≤ if errand.isTravel then 0 else 1 := by
  cases errand with
  | move position => exact le_refl 0
  | turn angle => exact le_refl 0
  | spin targetSpeed => exact min_le_left _ _
  | stopSpin =>
    simp only [duration, isTravel, approachTicks_zero]
    split <;> simp

/-- It takes no longer than at a rate, except to a place, and except if a speed is come to at that
rate within a tick. -/
lemma Errand.duration_le_zero_iff (p : Piece) (axis : Axis) (errand : Errand) {fast : Nat}
    (hfast : 0 < fast) : errand.duration p axis fast ≤ errand.duration p axis 0 ↔
      errand.isTravel = false ∧ errand.duration p axis fast ≤ 1 := by
  cases errand with
  | move position => simp [duration, isTravel, hfast.ne', ticks_eq _ hfast]
  | turn angle => simp [duration, isTravel, hfast.ne', ticks_eq _ hfast]
  | spin targetSpeed =>
    simp only [duration, isTravel, approachTicks_zero, true_and]
    have hpos := approachTicks_pos_iff ((perTick targetSpeed).toInt - p.spinSpeed axis).natAbs fast
    omega
  | stopSpin =>
    simp only [duration, isTravel, approachTicks_zero, true_and]
    split <;> omega

lemma lt_thirty_iff (hrate : 0 < rate) : rate < 30 ↔ rate.toInt.toNat / 30 = 0 := by
  have hpos : 0 < rate.toInt := Int32.lt_iff_toInt_lt.1 hrate
  have hthirty : (30 : Int32).toInt = 30 := rfl
  rw [Int32.lt_iff_toInt_lt, hthirty]
  omega

/-- **A slower motion is over no sooner, if it is one.**  What scripts ask of a piece reaches it
with rates that are cut to a whole number per tick.  An errand takes as many ticks at a rate as it
takes, and no fewer at a slower one, as long as both are at least one per tick, or both are none.
If only the slower one is none, it is over at once or with the first tick, and so it is sooner,
except if the errand is about a speed that is come to within a tick at the faster one too. -/
theorem slower_is_no_sooner (p : Piece) (axis : Axis) (errand : Errand) {slow fast : Int32}
    (hslow : 0 < slow) (hle : slow ≤ fast) :
    (∀ id name motion, World.motionAction id name axis motion =
      World.updatePiece id name fun p => p.obey axis motion.command) ∧
    ∃ m n, p.Takes axis errand slow m ∧ p.Takes axis errand fast n ∧
      (n ≤ m ↔ 30 ≤ slow ∨ fast < 30 ∨ errand.isTravel = false ∧ n ≤ 1) ∧
      (slow < 30 → m ≤ if errand.isTravel then 0 else 1) := by
  have hfast : 0 < fast := Int32.lt_of_lt_of_le hslow hle
  refine ⟨fun id name => World.motionAction_eq id name axis, _, _,
    takes_duration p axis errand hslow, takes_duration p axis errand hfast, ?_⟩
  have hcut : slow.toInt.toNat / 30 ≤ fast.toInt.toNat / 30 :=
    Nat.div_le_div_right (Int.toNat_le_toNat (Int32.le_iff_toInt_le.1 hle))
  rw [← Int32.not_lt, lt_thirty_iff hslow, lt_thirty_iff hfast]
  generalize slow.toInt.toNat / 30 = a at hcut ⊢
  generalize fast.toInt.toNat / 30 = b at hcut ⊢
  obtain rfl | ha := Nat.eq_zero_or_pos a
  · refine ⟨?_, fun _ => errand.duration_zero_le p axis⟩
    obtain rfl | hb := Nat.eq_zero_or_pos b
    · simp
    · simp [errand.duration_le_zero_iff p axis hb, hb.ne']
  · simp [errand.duration_anti p axis ha hcut, ha.ne']

/-- A door at rest. -/
def Sample.gate : Piece := Piece.new "door" 0 none

/-- The gate moves no sooner at two thirds of a rate; at less than one per tick it spins at full
speed within a tick. -/
theorem slower_is_no_sooner_gate :
    (0 : Int32) < 60 ∧ (60 : Int32) ≤ 90 ∧
      (∃ m n, Sample.gate.Takes .y (.move 1000) 60 m ∧ Sample.gate.Takes .y (.move 1000) 90 n ∧
        n ≤ m) ∧
      (0 : Int32) < 29 ∧ (29 : Int32) ≤ 90 ∧
      ∃ m, Sample.gate.Takes .y (.spin 9000) 29 m ∧ m ≤ 1 := by
  have hpositive : (0 : Int32) < 60 ∧ (0 : Int32) < 29 := by decide
  have hslower : (60 : Int32) ≤ 90 ∧ (29 : Int32) ≤ 90 := by decide
  obtain ⟨-, m, n, hm, hn, hcompared, -⟩ :=
    slower_is_no_sooner Sample.gate .y (.move 1000) hpositive.1 hslower.1
  obtain ⟨-, m', -, hm', -, -, hcut⟩ :=
    slower_is_no_sooner Sample.gate .y (.spin 9000) hpositive.2 hslower.2
  exact ⟨hpositive.1, hslower.1, ⟨m, n, hm, hn, hcompared.2 (.inl (by decide))⟩, hpositive.2,
    hslower.2, m', hm', hcut (by decide)⟩

/-- At 29 per second, which is none per tick, each errand is over before it is at 30 per second. -/
theorem slower_may_be_sooner :
    (∀ errand ∈ [Errand.move 10, .turn 1000, .spin 9000], ∃ m n,
      Sample.gate.Takes .y errand 29 m ∧ Sample.gate.Takes .y errand 30 n ∧ m < n) ∧
    ∃ m n, Sample.revolving.Takes .y .stopSpin 29 m ∧ Sample.revolving.Takes .y .stopSpin 30 n ∧
      m < n := by
  have takes (p : Piece) (errand : Errand) :
      p.Takes .y errand 29 (errand.duration p .y 0) ∧
      p.Takes .y errand 30 (errand.duration p .y 1) :=
    ⟨takes_duration p .y errand (by decide), takes_duration p .y errand (by decide)⟩
  refine ⟨fun errand herrand => ⟨_, _, (takes _ _).1, (takes _ _).2, ?_⟩,
    _, _, (takes _ _).1, (takes _ _).2, ?_⟩
  · revert errand
    decide
  · decide

end Piece

end Lockstep
