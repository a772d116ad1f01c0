import Lockstep.Proofs.Piece.Arrival
/-!
# What stops with a spin

To stop a spin is to let whatever turn is under way run down from its spin speed.  A turn to an
angle has none, so it is over with the next tick, and the piece stays where it has come to
(`stopSpin_ends_turn`).  Only before the turn began or after it has arrived does this make no
difference.
-/

namespace Lockstep

open Overflow (FitsSigned)

namespace Piece

variable {p q : Piece} {axis : Axis}

/-- The event leaves the turns about an axis alone, or stops a spin there. -/
def Event.StopsAtMost (axis : Axis) (e : Event) : Prop :=
  e.Turns axis → ∃ deceleration, e = .command axis (.stopSpin deceleration)

/-- The turn about an axis stands still at an angle: nothing is under way, or a spin without speed
runs down.  The latter still counts as turning. -/
inductive StandsStill (a : Angle) : Bool → Slot Angle Turn → Prop
  | ended : StandsStill a false ⟨a, none⟩
  | stopping (deceleration : Int) : StandsStill a true ⟨a, some (.stopping 0 deceleration)⟩

lemma approach_self (target step : Int) : approach target target step = target := by
  rw [approach]
  split
  · rfl
  · rw [if_neg (lt_irrefl target)]
    omega

lemma StandsStill.rotation {a : Angle} {turning : Bool}
    (h : StandsStill a turning (p.turnSlot axis)) : p.rotation.get axis = a := by
  rw [turnSlot] at h
  generalize p.rotation.get axis = current at h ⊢
  generalize p.turns.get axis = turn at h
  cases h <;> rfl

lemma StandsStill.isTurning {a : Angle} {turning : Bool}
    (h : StandsStill a turning (p.turnSlot axis)) : p.isTurning axis = turning := by
  rw [Piece.isTurning]
  rw [turnSlot] at h
  generalize p.turns.get axis = turn at h ⊢
  cases h <;> rfl

lemma StandsStill.turn {a : Angle} {turning : Bool} {s : Slot Angle Turn}
    (h : StandsStill a turning s) : s.turn = ⟨a, none⟩ := by
  cases h with
  | ended => rfl
  | stopping deceleration => simp [Slot.turn, approach_self]

lemma StandsStill.stopSpin {a : Angle} {turning : Bool} {deceleration : Int}
    (h : StandsStill a turning (p.turnSlot axis)) (hq : p.stopSpin axis deceleration = .ok q) :
    StandsStill a turning (q.turnSlot axis) := by
  rcases stopSpin_eq_ok hq with ⟨-, rfl⟩ | ⟨t, size, hturn, rfl⟩
  · exact h
  · rw [turnSlot_withTurn, if_pos rfl]
    rw [turnSlot, hturn] at h
    generalize p.rotation.get axis = current at h ⊢
    cases h
    exact .stopping size

/-- What stands still goes on to do so, and with the first tick it is over. -/
lemma StandsStill.meet {a : Angle} {turning : Bool} {e : Event}
    (h : StandsStill a turning (p.turnSlot axis)) (he : e.StopsAtMost axis)
    (hq : p.meet e = .ok q) : StandsStill a (turning && !e.isUpdate) (q.turnSlot axis) := by
  by_cases hturns : e.Turns axis
  · obtain ⟨deceleration, rfl⟩ := he hturns
    rw [Event.isUpdate, Bool.not_false, Bool.and_true]
    exact h.stopSpin hq
  · rw [turnSlot_meet hturns hq]
    cases e with
    | update =>
      simp only [Event.isUpdate, if_true, Bool.not_true, Bool.and_false, h.turn]
      exact .ended
    | command other c =>
      simpa [Event.isUpdate] using h

lemma StandsStill.follow {a : Angle} {turning : Bool} {es : List Event}
    (h : StandsStill a turning (p.turnSlot axis)) (hes : ∀ e ∈ es, e.StopsAtMost axis)
    (hq : p.follow es = .ok q) :
    StandsStill a (turning && decide (updates es = 0)) (q.turnSlot axis) := by
  induction es generalizing p turning with
  | nil =>
    cases hq
    simpa [updates] using h
  | cons e es ih =>
    obtain ⟨he, hes⟩ := List.forall_mem_cons.1 hes
    obtain ⟨m, hm, hq⟩ := follow_cons_eq_ok.1 hq
    have hrest := ih (h.meet he hm) hes hq
    have hcount : (!e.isUpdate && decide (updates es = 0)) = decide (updates (e :: es) = 0) := by
      rw [updates, updates, List.countP_cons]
      cases e.isUpdate <;> simp
    rwa [Bool.and_assoc, hcount] at hrest

/-- A turn that is stopped while it is under way stands still where it has come to, and one that has
arrived stays at its target. -/
lemma standsStill_of_stopSpin {start target : Angle} {speed : Int} {k : Nat}
    (hspeed : 0 < speed) {deceleration : Int}
    (hp : p.turnSlot axis = Slot.turn^[k] ⟨start, some (.toward target speed)⟩)
    (hq : p.stopSpin axis deceleration = .ok q) :
    StandsStill (p.rotation.get axis)
      (decide (k < ticks (target - start).signed.natAbs speed.toNat)) (q.turnSlot axis) := by
  have hpos : 0 < speed.toNat := by omega
  rw [Slot.iterate_turn hspeed, iterate_shorten hpos] at hp
  by_cases hk : k < ticks (target - start).signed.natAbs speed.toNat
  · rw [if_pos hk] at hp
    have hturn : p.turns.get axis = some (.toward target speed) := congrArg Slot.underWay hp
    rcases stopSpin_eq_ok hq with ⟨hnone, -⟩ | ⟨t, size, ht, rfl⟩
    · rw [hturn] at hnone
      cases hnone
    · cases Option.some.inj (hturn.symm.trans ht)
      rw [turnSlot_withTurn, if_pos rfl, decide_eq_true hk]
      exact .stopping size
  · rw [if_neg hk] at hp
    have hover : StandsStill (p.rotation.get axis) false (p.turnSlot axis) := by
      have hnone : p.turns.get axis = none := congrArg Slot.underWay hp
      rw [turnSlot, hnone]
      exact .ended
    rw [decide_eq_false hk]
    exact hover.stopSpin hq

/-- **To stop a spin ends a turn to an angle.**  Without a turn under way nothing is stopped, and
else the turn makes room for a spin that runs down, from speed zero in the case of a turn to an
angle.  So if it is stopped on its way, the piece stays for good where it has come to, and counts as
turning until the next tick, however often it is stopped again.  A turn that has arrived before it
is stopped stays at its target. -/
theorem stopSpin_ends_turn (p : Piece) (axis : Axis) {target : Angle} {speed : Int}
    (hturn : p.turns.get axis = some (.toward target speed)) (hspeed : 0 < speed)
    {before after : List Event} {deceleration : Int}
    (hbefore : ∀ e ∈ before, ¬e.Turns axis) (hafter : ∀ e ∈ after, e.StopsAtMost axis)
    (hsized : ∀ e ∈ before ++ .command axis (.stopSpin deceleration) :: after, e.Sized) :
    (∀ (p : Piece) axis deceleration, FitsSigned (deceleration : Int).natAbs →
      p.stopSpin axis deceleration = .ok ((p.turns.get axis).elim p fun t =>
        { p with turns := p.turns.set axis (some (.stopping t.spinSpeed deceleration.natAbs)) })) ∧
    ∃ q, p.follow (before ++ .command axis (.stopSpin deceleration) :: after) = .ok q ∧
      let start := p.rotation.get axis
      let way := (target - start).signed
      (updates before < ticks way.natAbs speed.toNat →
        q.rotation.get axis = start.offset (updates before * speed * way.sign) ∧
          (q.isTurning axis = true ↔ updates after = 0)) ∧
      (ticks way.natAbs speed.toNat ≤ updates before →
        q.rotation.get axis = target ∧ q.isTurning axis = false) := by
  refine ⟨fun p axis deceleration hsize => ?_, ?_⟩
  · rw [stopSpin, sizeOf_eq hsize]
    cases p.turns.get axis <;> rfl
  obtain ⟨q, hq⟩ := exists_follow (p := p) hsized
  refine ⟨q, hq, ?_⟩
  obtain ⟨m, hm, hq⟩ := follow_append_eq_ok.1 hq
  obtain ⟨m', hm', hq⟩ := follow_cons_eq_ok.1 hq
  have hslot : m.turnSlot axis =
      Slot.turn^[updates before] ⟨p.rotation.get axis, some (.toward target speed)⟩ := by
    rw [turnSlot_follow hbefore hm, turnSlot, hturn]
  have hreached := turnAfter_of_turnSlot hspeed hslot
  have hstill := (standsStill_of_stopSpin hspeed hslot hm').follow hafter hq
  constructor
  · intro hk
    rw [hstill.rotation, hstill.isTurning, decide_eq_true hk, Bool.true_and, decide_eq_true_iff]
    exact ⟨(hreached.underWay hk).2, Iff.rfl⟩
  · intro hk
    rw [hstill.rotation, hstill.isTurning, decide_eq_false (not_lt.2 hk), Bool.false_and]
    exact ⟨(hreached.arrived hk).2, rfl⟩

/-- A door that has begun to turn. -/
def Sample.door : Piece := (Piece.new "door" 0 none).turnTo .y ⟨1000⟩ 100

/-- The door is stopped after three ticks of ten, and a second time. -/
theorem stopSpin_ends_turn_door :
    Sample.door.turns.get .y = some (.toward ⟨1000⟩ 100) ∧
      ∃ q, Sample.door.follow (List.replicate 3 .update ++
          .command .y (.stopSpin 10) :: [.command .y (.stopSpin 0), .update, .update]) = .ok q ∧
        q.rotation.get .y = ⟨300⟩ ∧ q.isTurning .y = false := by
  have hbefore : ∀ e ∈ List.replicate 3 Event.update, ¬e.Turns .y := by simp [Event.Turns]
  have hafter : ∀ e ∈ [.command .y (.stopSpin 0), .update, .update], Event.StopsAtMost .y e := by
    simp [Event.StopsAtMost, Event.Turns]
  have hsized : ∀ e ∈ List.replicate 3 .update ++ .command .y (.stopSpin 10) ::
      [.command .y (.stopSpin 0), .update, .update], Event.Sized e := by
    simp [Event.Sized, Command.Sized, FitsSigned]
  obtain ⟨-, q, hq, hunderWay, -⟩ :=
    stopSpin_ends_turn Sample.door .y rfl (by decide) hbefore hafter hsized
  obtain ⟨hrotation, hturning⟩ := hunderWay (by decide)
  refine ⟨rfl, q, hq, hrotation, ?_⟩
  rw [← Bool.not_eq_true, hturning]
  decide

/-- It does not go on to turn as if it had not been stopped, nor is it left as it is. -/
theorem stopSpin_disturbs_turn :
    (¬∀ (p : Piece) axis target speed es q q', p.turns.get axis = some (.toward target speed) →
      0 < speed → (∀ e ∈ es, e = .update ∨
        ∃ deceleration, FitsSigned (deceleration : Int).natAbs ∧
          e = .command axis (.stopSpin deceleration)) →
      p.follow es = .ok q → p.follow (es.filter Event.isUpdate) = .ok q' →
      q.rotation.get axis = q'.rotation.get axis ∧ q.isTurning axis = q'.isTurning axis) ∧
    ¬∀ (p : Piece) axis deceleration,
      (∀ t, p.turns.get axis = some t → ∃ target speed, t = .toward target speed) →
      p.stopSpin axis deceleration = .ok p := by
  constructor
  · intro h
    obtain ⟨q, hq, hstays⟩ : ∃ q, Sample.door.follow [.command .y (.stopSpin 10), .update] = .ok q ∧
        q.rotation.get .y = 0 := ⟨_, rfl, by decide⟩
    obtain ⟨q', hq', hturns⟩ : ∃ q', Sample.door.follow [.update] = .ok q' ∧
        q'.rotation.get .y = ⟨100⟩ := ⟨_, rfl, by decide⟩
    obtain ⟨hsame, -⟩ := h Sample.door .y ⟨1000⟩ 100 _ q q' rfl (by decide)
      (by simp [FitsSigned]) hq hq'
    rw [hstays, hturns] at hsame
    exact absurd hsame (by decide)
  · intro h
    have hsame := h Sample.door .y 10 fun t ht => ⟨⟨1000⟩, 100, (Option.some.inj ht).symm⟩
    exact absurd hsame (by decide)

end Piece

end Lockstep
