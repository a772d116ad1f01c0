import Mathlib.Algebra.Order.Floor.Div
import Lockstep.Proofs.Fixed.Checked
import Lockstep.Proofs.Fixed.Wrapping
import Lockstep.Proofs.Piece.Slots
/-!
# Moves and turns arrive on time

What remains of a way gets shorter by the speed in each tick, and once it is not longer than that
the piece is at its target.  This is the same for moves, where the rest of the way is a difference
of scalars, and for turns, where it is the shorter way around (`shorten`).  So both arrive after as
many ticks as the speed goes into the way, rounded up, and one tick if there is no way to go
(`ticks`, `iterate_shorten`).
-/

namespace Lockstep

/-! ### The rest of a way -/

/-- What remains of a way when the speed is taken off, and nothing when it was no more than that. -/
def shorten (speed : Nat) : Option Int → Option Int
  | none => none
  | some rest => if rest.natAbs ≤ speed then none else some (rest - speed * rest.sign)

/-- The number of ticks for a way. -/
def ticks (distance speed : Nat) : Nat := max 1 (distance ⌈/⌉ speed)

lemma lt_ticks_iff {distance speed k : Nat} (h : 0 < speed) :
    k < ticks distance speed ↔ k * speed = 0 ∨ k * speed < distance := by
  rw [ticks, lt_max_iff, Nat.lt_one_iff, ← not_le (a := distance ⌈/⌉ speed),
    ceilDiv_le_iff_le_mul h, not_le, Nat.mul_comm, Nat.mul_eq_zero, or_iff_left h.ne']

section

/-! Less than all is taken off a way. -/

variable {rest : Int} {n : Nat} (h : n = 0 ∨ n < rest.natAbs)

include h

/-- The way gets shorter by what is taken off, and leads the same way. -/
lemma sub_mul_sign :
    (rest - n * rest.sign).natAbs = rest.natAbs - n ∧ (rest - n * rest.sign).sign = rest.sign := by
  rcases h with rfl | h
  · simp
  · rcases lt_trichotomy rest 0 with hneg | rfl | hpos
    · rw [Int.sign_eq_neg_one_of_neg hneg, Int.sign_eq_neg_one_of_neg (by omega)]
      omega
    · omega
    · rw [Int.sign_eq_one_of_pos hpos, Int.sign_eq_one_of_pos (by omega)]
      omega

/-- The way stays within bounds around zero. -/
lemma within_sub_mul_sign {least greatest : Int} (hzero : least ≤ 0 ∧ 0 ≤ greatest)
    (hrest : least ≤ rest ∧ rest ≤ greatest) :
    least ≤ rest - n * rest.sign ∧ rest - n * rest.sign ≤ greatest := by
  rcases lt_trichotomy rest 0 with hneg | rfl | hpos
  · rw [Int.sign_eq_neg_one_of_neg hneg]
    omega
  · simpa using hzero
  · rw [Int.sign_eq_one_of_pos hpos]
    omega

end

theorem iterate_shorten {speed : Nat} (h : 0 < speed) (rest : Int) (k : Nat) :
    (shorten speed)^[k] (some rest) =
      if k < ticks rest.natAbs speed then some (rest - (k * speed : Nat) * rest.sign)
      else none := by
  induction k with
  | zero => simp [lt_ticks_iff h]
  | succ k ih =>
    rw [Function.iterate_succ_apply', ih]
    have hsum : (k + 1) * speed = k * speed + speed := Nat.succ_mul k speed
    by_cases hk : k < ticks rest.natAbs speed
    · obtain ⟨hsize, hsign⟩ := sub_mul_sign ((lt_ticks_iff h).1 hk)
      rw [if_pos hk, shorten, hsize, hsign]
      by_cases hnext : k + 1 < ticks rest.natAbs speed
      · have hfar := (lt_ticks_iff h).1 hnext
        rw [if_pos hnext, if_neg (by omega), hsum, Nat.cast_add, Int.add_mul]
        congr 1
        omega
      · have hnear := mt (lt_ticks_iff h).2 hnext
        rw [if_neg hnext, if_pos (by omega)]
    · have hk' : ¬k + 1 < ticks rest.natAbs speed := by omega
      rw [if_neg hk, if_neg hk', shorten]

/-- A slot that goes on as the rest of the way does, wherever the rest is within some bounds.  A
rest stays within bounds around zero when it gets shorter. -/
lemma iterate_eq_shorten {σ : Type} {tick : σ → σ} {place : Option Int → σ} {speed : Nat}
    {least greatest : Int} (hzero : least ≤ 0 ∧ 0 ≤ greatest)
    (hnone : tick (place none) = place none)
    (hsome : ∀ rest, least ≤ rest ∧ rest ≤ greatest →
      tick (place (some rest)) = place (shorten speed (some rest)))
    {rest : Int} (hrest : least ≤ rest ∧ rest ≤ greatest) (k : Nat) :
    tick^[k] (place (some rest)) = place ((shorten speed)^[k] (some rest)) := by
  induction k generalizing rest with
  | zero => rfl
  | succ k ih =>
    rw [Function.iterate_succ_apply, Function.iterate_succ_apply, hsome rest hrest, shorten]
    split
    · rw [Function.iterate_fixed hnone, Function.iterate_fixed rfl]
    · exact ih (within_sub_mul_sign (.inr (by omega)) hzero hrest)

namespace Slot

/-! ### Moves -/

/-- The slot of a move of which a rest of the way remains, or of one that is over. -/
def moveWithRest (target speed : Scalar) : Option Int → Slot Scalar Move
  | none => ⟨target, none⟩
  | some rest => ⟨.ofRaw (target.toRaw - rest), some ⟨target, speed⟩⟩

lemma move_moveWithRest {target speed : Scalar} (h : 0 < speed) {rest : Int}
    (hrest : -2147483647 ≤ rest ∧ rest ≤ 2147483647) :
    (moveWithRest target speed (some rest)).move =
      moveWithRest target speed (shorten speed.toRaw.toNat (some rest)) := by
  have hspeed : 0 < speed.toRaw := Scalar.lt_iff.1 h
  have hremaining : target - Scalar.ofRaw (target.toRaw - rest) = .ofRaw rest := calc
    target - Scalar.ofRaw (target.toRaw - rest)
      = .ofRaw target.toRaw - .ofRaw (target.toRaw - rest) := by rw [Scalar.ofRaw_toRaw]
    _ = .ofRaw rest := by rw [← Scalar.ofRaw_sub, Int.sub_sub_self]
  have hraw : (Scalar.ofRaw rest).toRaw = rest := Scalar.toRaw_ofRaw_of_le (by omega) (by omega)
  have hnear : (Scalar.ofRaw rest).abs ≤ speed ↔ rest.natAbs ≤ speed.toRaw.toNat := by
    rw [Scalar.le_iff, Scalar.toRaw_abs_of_lt (by omega), hraw]
    omega
  have hforward : 0 < Scalar.ofRaw rest ↔ 0 < rest := by
    rw [Scalar.lt_iff, hraw]
    rfl
  have hadd : ∀ n, Scalar.ofRaw n + speed = .ofRaw (n + speed.toRaw) := fun n => by
    rw [Scalar.ofRaw_add, Scalar.ofRaw_toRaw]
  have hsub : ∀ n, Scalar.ofRaw n - speed = .ofRaw (n - speed.toRaw) := fun n => by
    rw [Scalar.ofRaw_sub, Scalar.ofRaw_toRaw]
  simp only [moveWithRest, move, hremaining, shorten, hnear, hforward, hadd, hsub]
  split
  · rfl
  · split
    · rename_i hpos
      simp only [Int.sign_eq_one_of_pos hpos]
      congr 2
      omega
    · simp only [Int.sign_eq_neg_one_of_neg (by omega : rest < 0)]
      congr 2
      omega

/-- The way may lead around where numbers wrap; only the least of all scalars has no size. -/
lemma iterate_move_of_lt {start target speed : Scalar} (h : 0 < speed)
    (hfar : -2147483648 < (target - start).toRaw) (k : Nat) :
    move^[k] ⟨start, some ⟨target, speed⟩⟩ = moveWithRest target speed
      ((shorten speed.toRaw.toNat)^[k] (some (target - start).toRaw)) := by
  have hstart : moveWithRest target speed (some (target - start).toRaw) =
      ⟨start, some ⟨target, speed⟩⟩ := by
    rw [moveWithRest, Scalar.ofRaw_sub, Scalar.ofRaw_toRaw, Scalar.ofRaw_toRaw, Scalar.sub_sub_self]
  have hrest := (target - start).toRaw_within
  rw [← hstart]
  exact iterate_eq_shorten ⟨by decide, by decide⟩ rfl (fun rest => move_moveWithRest h)
    (by omega) k

lemma iterate_move {start target speed : Scalar} (h : 0 < speed)
    (hfar : (target.toRaw - start.toRaw).natAbs < 2 ^ 31) (k : Nat) :
    move^[k] ⟨start, some ⟨target, speed⟩⟩ = moveWithRest target speed
      ((shorten speed.toRaw.toNat)^[k] (some (target.toRaw - start.toRaw))) := by
  have hway : (target - start).toRaw = target.toRaw - start.toRaw := by
    rw [Scalar.toRaw_sub, UInt32.size]
    exact Int.bmod_eq_of_le (by omega) (by omega)
  rw [iterate_move_of_lt h (by omega), hway]

/-! ### Turns -/

/-- The slot of a turn of which a rest of the way remains, or of one that is over. -/
def turnWithRest (target : Angle) (speed : Int) : Option Int → Slot Angle Turn
  | none => ⟨target, none⟩
  | some rest => ⟨target.offset (-rest), some (.toward target speed)⟩

lemma turn_turnWithRest {target : Angle} {speed : Int} (h : 0 < speed) {rest : Int}
    (hrest : -32768 ≤ rest ∧ rest ≤ 32767) :
    (turnWithRest target speed (some rest)).turn =
      turnWithRest target speed (shorten speed.toNat (some rest)) := by
  have hremaining : (target - target.offset (-rest)).signed = rest := by
    rw [Angle.sub_offset, Int.neg_neg, Angle.signed_ofInt_of_le (by omega) (by omega)]
  have hnear : (rest.natAbs : Int) ≤ speed ↔ rest.natAbs ≤ speed.toNat := by omega
  simp only [turnWithRest, turn, hremaining, shorten, hnear]
  split
  · rfl
  · simp only [Angle.offset_offset]
    congr 2
    rw [Int.toNat_of_nonneg h.le]
    omega

lemma iterate_turn {start target : Angle} {speed : Int} (h : 0 < speed) (k : Nat) :
    turn^[k] ⟨start, some (.toward target speed)⟩ = turnWithRest target speed
      ((shorten speed.toNat)^[k] (some (target - start).signed)) := by
  have hstart : turnWithRest target speed (some (target - start).signed) =
      ⟨start, some (.toward target speed)⟩ := by
    have hback := Angle.offset_offset start (target - start).signed (-(target - start).signed)
    rw [Angle.offset_signed_sub, Int.add_right_neg, Angle.offset_zero] at hback
    rw [turnWithRest, hback]
  rw [← hstart]
  exact iterate_eq_shorten ⟨by decide, by decide⟩ rfl (fun rest => turn_turnWithRest h)
    (Angle.signed_within _) k

end Slot

namespace Piece

variable {p q : Piece} {axis : Axis}

/-! ### Pieces -/

/-- Where a move along an axis has come to in a number of ticks. -/
structure MoveAfter (q : Piece) (axis : Axis) (start target speed : Scalar) (k : Nat) : Prop where
  /-- On the way, the piece has come as far toward the target as the speed goes. -/
  underWay : k < ticks (target.toRaw - start.toRaw).natAbs speed.toRaw.toNat →
    q.isMoving axis = true ∧ (q.displacement.get axis).toRaw =
      start.toRaw + k * speed.toRaw * (target.toRaw - start.toRaw).sign
  /-- After that the piece is at the target, and the move is over. -/
  arrived : ticks (target.toRaw - start.toRaw).natAbs speed.toRaw.toNat ≤ k →
    q.isMoving axis = false ∧ q.displacement.get axis = target

/-- Where a turn about an axis has come to in a number of ticks. -/
structure TurnAfter (q : Piece) (axis : Axis) (start target : Angle) (speed : Int) (k : Nat) :
    Prop where
  /-- On the way, the piece has turned as far as the speed goes, the shorter way around. -/
  underWay : k < ticks (target - start).signed.natAbs speed.toNat →
    q.isTurning axis = true ∧
      q.rotation.get axis = start.offset (k * speed * (target - start).signed.sign)
  /-- After that the piece is at the target, and the turn is over. -/
  arrived : ticks (target - start).signed.natAbs speed.toNat ≤ k →
    q.isTurning axis = false ∧ q.rotation.get axis = target

lemma moveAfter_of_moveSlot {start target speed : Scalar} (h : 0 < speed)
    (hfar : (target.toRaw - start.toRaw).natAbs < 2 ^ 31) {k : Nat}
    (hq : q.moveSlot axis = Slot.move^[k] ⟨start, some ⟨target, speed⟩⟩) :
    MoveAfter q axis start target speed k := by
  have hspeed : 0 < speed.toRaw := Scalar.lt_iff.1 h
  have hpos : 0 < speed.toRaw.toNat := by omega
  rw [Slot.iterate_move h hfar, iterate_shorten hpos] at hq
  constructor
  · intro hk
    rw [if_pos hk] at hq
    refine ⟨congrArg (·.underWay.isSome) hq, ?_⟩
    -- the rest is between the way and nothing, so the piece is between the start and the target
    have hbetween := within_sub_mul_sign ((lt_ticks_iff hpos).1 hk)
      ⟨min_le_right .., le_max_right ..⟩ ⟨min_le_left .., le_max_left ..⟩
    have hstart := start.toRaw_within
    have htarget := target.toRaw_within
    have hsteps : ((k * speed.toRaw.toNat : Nat) : Int) = k * speed.toRaw := by
      rw [Nat.cast_mul, Int.toNat_of_nonneg hspeed.le]
    rw [hsteps] at hq hbetween
    calc (q.displacement.get axis).toRaw
      _ = _ := congrArg (·.current.toRaw) hq
      _ = _ := Scalar.toRaw_ofRaw_of_le (by omega) (by omega)
      _ = _ := by omega
  · intro hk
    rw [if_neg (by omega)] at hq
    exact ⟨congrArg (·.underWay.isSome) hq, congrArg (·.current) hq⟩

lemma turnAfter_of_turnSlot {start target : Angle} {speed : Int} (h : 0 < speed) {k : Nat}
    (hq : q.turnSlot axis = Slot.turn^[k] ⟨start, some (.toward target speed)⟩) :
    TurnAfter q axis start target speed k := by
  have hpos : 0 < speed.toNat := by omega
  rw [Slot.iterate_turn h, iterate_shorten hpos] at hq
  constructor
  · intro hk
    rw [if_pos hk] at hq
    refine ⟨congrArg (·.underWay.any Turn.ends) hq, ?_⟩
    calc q.rotation.get axis
      _ = target.offset _ := congrArg (·.current) hq
      _ = (start.offset (target - start).signed).offset _ :=
        congrArg (Angle.offset · _) (Angle.offset_signed_sub start target).symm
      _ = _ := by
        rw [Angle.offset_offset, Int.neg_sub, add_sub_cancel, Nat.cast_mul,
          Int.toNat_of_nonneg h.le]
  · intro hk
    rw [if_neg (by omega)] at hq
    exact ⟨congrArg (·.underWay.any Turn.ends) hq, congrArg (·.current) hq⟩

/-- The signed difference of two angles is a way from the one to the other, of all ways the
shortest, and never more than half a turn. -/
structure ShortestTurn (start target : Angle) : Prop where
  way : start.offset (target - start).signed = target
  shortest : ∀ n, start.offset n = target → (target - start).signed.natAbs ≤ n.natAbs
  half : (target - start).signed.natAbs ≤ 32768

/-- What is done to a piece on an axis leaves the other axes as they are, and what is done to its
moves leaves its turns as they are. -/
structure Apart (p : Piece) (axis : Axis) : Prop where
  command : ∀ {c q}, p.obey axis c = .ok q → ∀ other, other ≠ axis →
    q.moveSlot other = p.moveSlot other ∧ q.turnSlot other = p.turnSlot other
  moveCommand : ∀ {c q}, p.obey axis c = .ok q → c.isMove = true → ∀ other,
    q.turnSlot other = p.turnSlot other
  update : ∀ other, other ≠ axis → (p.stepAxis axis).moveSlot other = p.moveSlot other ∧
    (p.stepAxis axis).turnSlot other = p.turnSlot other
  moveUpdate : ∀ other, (p.stepMove axis).turnSlot other = p.turnSlot other

lemma shortestTurn (start target : Angle) : ShortestTurn start target where
  way := Angle.offset_signed_sub start target
  shortest _ := Angle.natAbs_signed_sub_le
  half := by
    have := (target - start).signed_within
    omega

lemma apart (p : Piece) (axis : Axis) : p.Apart axis where
  command := by
    intro c q h other hother
    rcases obey_eq_ok h with ⟨-, s, rfl⟩ | ⟨-, s, rfl⟩
    · rw [moveSlot_withMove, if_neg hother.symm, turnSlot_withMove]
      exact ⟨rfl, rfl⟩
    · rw [turnSlot_withTurn, if_neg hother.symm, moveSlot_withTurn]
      exact ⟨rfl, rfl⟩
  moveCommand := by
    intro c q h hc other
    rcases obey_eq_ok h with ⟨-, s, rfl⟩ | ⟨hturn, -⟩
    · rfl
    · rw [hc] at hturn
      cases hturn
  update other hother := by
    rw [moveSlot_stepAxis, turnSlot_stepAxis, if_neg hother.symm, if_neg hother.symm]
    exact ⟨rfl, rfl⟩
  moveUpdate other := by rw [stepMove_eq, turnSlot_withMove]

/-- **Moves and turns arrive on time.**  A move that is begun with a speed, and a turn likewise, go
on by the speed in each tick and are over after as many ticks as it takes, not one more or less;
then the piece is at the target and stays there.  Whatever else happens to the piece meanwhile, as
long as no other move is asked for on that axis, or no other turn, makes no difference.  A turn goes
the shorter way around.  What happens to a piece can only be refused for a rate that has no size. -/
theorem moves_and_turns_arrive_on_time (p : Piece) (axis : Axis) {target speed : Scalar}
    (hspeed : 0 < speed)
    (hfar : (target.toRaw - (p.displacement.get axis).toRaw).natAbs < 2 ^ 31) (angle : Angle)
    {turnSpeed : Int} (hturnSpeed : 0 < turnSpeed) :
    (∀ es q, (∀ e ∈ es, ¬e.Moves axis) → (p.moveTo axis target speed).follow es = .ok q →
      MoveAfter q axis (p.displacement.get axis) target speed (updates es)) ∧
    (∀ es q, (∀ e ∈ es, ¬e.Turns axis) → (p.turnTo axis angle turnSpeed).follow es = .ok q →
      TurnAfter q axis (p.rotation.get axis) angle turnSpeed (updates es)) ∧
    ShortestTurn (p.rotation.get axis) angle ∧ p.Apart axis ∧
    ∀ (p : Piece) es, (∀ e ∈ es, e.Sized) → ∃ q, p.follow es = .ok q := by
  refine ⟨fun es q hes h => ?_, fun es q hes h => ?_, shortestTurn .., p.apart axis,
    fun p es => exists_follow⟩
  · have hpos : 0 < speed.toRaw := Scalar.lt_iff.1 hspeed
    have hbegun : ¬speed ≤ 0 := fun hle => absurd (Scalar.le_iff.1 hle) (not_le.2 hpos)
    refine moveAfter_of_moveSlot hspeed hfar ?_
    rw [moveSlot_follow hes h, moveTo_eq, if_neg hbegun, moveSlot_withMove, if_pos rfl]
  · refine turnAfter_of_turnSlot hturnSpeed ?_
    rw [turnSlot_follow hes h, turnTo_eq, if_neg (not_le.2 hturnSpeed), turnSlot_withTurn,
      if_pos rfl]

/-- A door that opens while it spins arrives in the third tick. -/
theorem moves_and_turns_arrive_on_time_door :
    let p := Piece.new "door" 0 none
    let es : List Event := [.update, .command .y (.spin 300 100), .update, .update]
    ∃ q, (p.moveTo .y (.ofWhole 5) (.ofWhole 2)).follow es = .ok q ∧ q.isMoving .y = false ∧
      q.displacement.get .y = .ofWhole 5 := by
  intro p es
  have hspeed : (0 : Scalar) < .ofWhole 2 := by decide
  have hfar : ((Scalar.ofWhole 5).toRaw - (p.displacement.get .y).toRaw).natAbs < 2 ^ 31 := by
    decide
  have hturnSpeed : (0 : Int) < 100 := by decide
  obtain ⟨hmove, -⟩ := moves_and_turns_arrive_on_time p .y hspeed hfar ⟨1000⟩ hturnSpeed
  obtain ⟨q, hq⟩ : ∃ q, (p.moveTo .y (.ofWhole 5) (.ofWhole 2)).follow es = .ok q := ⟨_, rfl⟩
  have hes : ∀ e ∈ es, ¬e.Moves .y := by simp [es, Event.Moves, Command.isMove]
  exact ⟨q, hq, (hmove es q hes hq).arrived (by decide)⟩

end Piece

end Lockstep
