import Mathlib.Logic.Function.Iterate
import Lockstep.World.Piece
/-!
# The six slots of a piece

On each axis a piece keeps how far it has been moved with the move that is under way, and how far it
has been turned with the turn that is under way.  Each of these six slots goes its own way: every
operation on a piece puts something in the place of one slot (`Piece.obey_eq_ok`), and in an update
each slot goes on by itself (`Piece.moveSlot_step`, `Piece.turnSlot_step`).  So what a slot holds
after any events depends on those that concern it alone (`Piece.moveSlot_follow`,
`Piece.turnSlot_follow`).
-/

namespace Lockstep

open Overflow (FitsSigned)

/-- Where a piece is on an axis, and what is under way there. -/
structure Slot (α β : Type) where
  /-- How far the piece has been moved or turned. -/
  current : α
  /-- The move or turn under way. -/
  underWay : Option β
deriving DecidableEq

@[simp] lemma Triple.set_get {α : Type} (t : Triple α) (axis : Axis) :
    t.set axis (t.get axis) = t := by
  cases axis <;> rfl

namespace Slot

/-- One tick of a move. -/
def move (s : Slot Scalar Move) : Slot Scalar Move :=
  match s.underWay with
  | none => s
  | some m =>
    let remaining := m.target - s.current
    if remaining.abs ≤ m.speed then ⟨m.target, none⟩
    else if 0 < remaining then ⟨s.current + m.speed, some m⟩
    else ⟨s.current - m.speed, some m⟩

/-- One tick of a turn. -/
def turn (s : Slot Angle Turn) : Slot Angle Turn :=
  match s.underWay with
  | none => s
  | some (.toward target speed) =>
    let remaining := (target - s.current).signed
    if remaining.natAbs ≤ speed then ⟨target, none⟩
    else ⟨s.current.offset (speed * remaining.sign), some (.toward target speed)⟩
  | some (.spin speed targetSpeed acceleration) =>
    let speed := approach speed targetSpeed acceleration
    ⟨s.current.offset speed, some (.spin speed targetSpeed acceleration)⟩
  | some (.stopping speed deceleration) =>
    let speed := approach speed 0 deceleration
    ⟨s.current.offset speed, if speed = 0 then none else some (.stopping speed deceleration)⟩

end Slot

namespace Piece

variable {p q : Piece} {axis other : Axis}

/-! ### Slots -/

/-- The slot of the moves along an axis. -/
def moveSlot (p : Piece) (axis : Axis) : Slot Scalar Move :=
  ⟨p.displacement.get axis, p.moves.get axis⟩

/-- The slot of the turns about an axis. -/
def turnSlot (p : Piece) (axis : Axis) : Slot Angle Turn :=
  ⟨p.rotation.get axis, p.turns.get axis⟩

/-- The piece with another slot of the moves along an axis. -/
def withMove (p : Piece) (axis : Axis) (s : Slot Scalar Move) : Piece :=
  { p with
    displacement := p.displacement.set axis s.current
    moves := p.moves.set axis s.underWay }

/-- The piece with another slot of the turns about an axis. -/
def withTurn (p : Piece) (axis : Axis) (s : Slot Angle Turn) : Piece :=
  { p with
    rotation := p.rotation.set axis s.current
    turns := p.turns.set axis s.underWay }

lemma moveSlot_withMove (s : Slot Scalar Move) :
    (p.withMove axis s).moveSlot other = if axis = other then s else p.moveSlot other := by
  simp only [moveSlot, withMove, Triple.get_set]
  split <;> rfl

lemma turnSlot_withTurn (s : Slot Angle Turn) :
    (p.withTurn axis s).turnSlot other = if axis = other then s else p.turnSlot other := by
  simp only [turnSlot, withTurn, Triple.get_set]
  split <;> rfl

@[simp] lemma turnSlot_withMove (s : Slot Scalar Move) :
    (p.withMove axis s).turnSlot other = p.turnSlot other := rfl

@[simp] lemma moveSlot_withTurn (s : Slot Angle Turn) :
    (p.withTurn axis s).moveSlot other = p.moveSlot other := rfl

lemma withMove_moves (p : Piece) (axis : Axis) (m : Option Move) :
    { p with moves := p.moves.set axis m } = p.withMove axis ⟨p.displacement.get axis, m⟩ := by
  simp [withMove]

lemma withTurn_turns (p : Piece) (axis : Axis) (t : Option Turn) :
    { p with turns := p.turns.set axis t } = p.withTurn axis ⟨p.rotation.get axis, t⟩ := by
  simp [withTurn]

/-! ### Updates -/

lemma stepMove_eq (p : Piece) (axis : Axis) :
    p.stepMove axis = p.withMove axis (p.moveSlot axis).move := by
  rw [stepMove, Slot.move, moveSlot]
  cases hmove : p.moves.get axis with
  | none => simp [withMove, ← hmove]
  | some m =>
    simp only
    split
    · rfl
    · split <;> simp [withMove, ← hmove]

lemma stepTurn_eq (p : Piece) (axis : Axis) :
    p.stepTurn axis = p.withTurn axis (p.turnSlot axis).turn := by
  rw [stepTurn, Slot.turn, turnSlot]
  cases hturn : p.turns.get axis with
  | none => simp [withTurn, ← hturn]
  | some t =>
    cases t with
    | toward target speed =>
      simp only
      split
      · rfl
      · simp [withTurn, ← hturn]
    | spin speed targetSpeed acceleration => rfl
    | stopping speed deceleration => rfl

lemma moveSlot_stepAxis : (p.stepAxis axis).moveSlot other =
    if axis = other then (p.moveSlot other).move else p.moveSlot other := by
  rw [stepAxis, stepTurn_eq, stepMove_eq, moveSlot_withTurn, moveSlot_withMove]
  split
  · rename_i h
    rw [h]
  · rfl

lemma turnSlot_stepAxis : (p.stepAxis axis).turnSlot other =
    if axis = other then (p.turnSlot other).turn else p.turnSlot other := by
  rw [stepAxis, stepTurn_eq, stepMove_eq, turnSlot_withTurn, turnSlot_withMove, turnSlot_withMove]
  split
  · rename_i h
    rw [h]
  · rfl

theorem moveSlot_step : p.step.moveSlot axis = (p.moveSlot axis).move := by
  rw [step, Axis.all]
  cases axis <;> simp [moveSlot_stepAxis]

theorem turnSlot_step : p.step.turnSlot axis = (p.turnSlot axis).turn := by
  rw [step, Axis.all]
  cases axis <;> simp [turnSlot_stepAxis]

/-! ### Commands -/

/-- What a script can ask of a piece on an axis. -/
inductive Command where
  /-- To move to an offset. -/
  | moveTo (target speed : Scalar)
  /-- To move to an offset at once. -/
  | moveNow (target : Scalar)
  /-- To turn to an angle. -/
  | turnTo (target : Angle) (speed : Int)
  /-- To turn to an angle at once. -/
  | turnNow (target : Angle)
  /-- To spin. -/
  | spin (targetSpeed acceleration : Int)
  /-- To let a spin run down. -/
  | stopSpin (deceleration : Int)

namespace Command

/-- Whether the command is about moves; the others are about turns. -/
def isMove : Command → Bool
  | moveTo _ _ | moveNow _ => true
  | _ => false

/-- The rate of the command, if it has one, is not the least of all words, which has no size. -/
def Sized : Command → Prop
  | spin _ rate | stopSpin rate => FitsSigned rate.natAbs
  | _ => True

end Command

/-- The piece after a command. -/
def obey (p : Piece) (axis : Axis) : Command → Except Overflow Piece
  | .moveTo target speed => .ok (p.moveTo axis target speed)
  | .moveNow target => .ok (p.moveNow axis target)
  | .turnTo target speed => .ok (p.turnTo axis target speed)
  | .turnNow target => .ok (p.turnNow axis target)
  | .spin targetSpeed acceleration => p.spin axis targetSpeed acceleration
  | .stopSpin deceleration => p.stopSpin axis deceleration

lemma moveTo_eq (p : Piece) (axis : Axis) (target speed : Scalar) :
    p.moveTo axis target speed = p.withMove axis
      (if speed ≤ 0 then ⟨target, none⟩ else ⟨p.displacement.get axis, some ⟨target, speed⟩⟩) := by
  rw [moveTo]
  split
  · rfl
  · exact withMove_moves p axis _

lemma turnTo_eq (p : Piece) (axis : Axis) (target : Angle) (speed : Int) :
    p.turnTo axis target speed = p.withTurn axis
      (if speed ≤ 0 then ⟨target, none⟩
        else ⟨p.rotation.get axis, some (.toward target speed)⟩) := by
  rw [turnTo]
  split
  · rfl
  · exact withTurn_turns p axis _

lemma spin_eq (p : Piece) (axis : Axis) (targetSpeed acceleration : Int) :
    p.spin axis targetSpeed acceleration = (sizeOf acceleration).map fun acceleration =>
      p.withTurn axis ⟨p.rotation.get axis, some (.spin
        (((p.turns.get axis).map Turn.spinSpeed).getD 0) targetSpeed acceleration)⟩ := by
  rw [spin]
  simp only [withTurn_turns]

lemma stopSpin_eq (p : Piece) (axis : Axis) (deceleration : Int) :
    p.stopSpin axis deceleration = (p.turns.get axis).elim (.ok p) fun t =>
      (sizeOf deceleration).map fun deceleration =>
        p.withTurn axis ⟨p.rotation.get axis, some (.stopping t.spinSpeed deceleration)⟩ := by
  rw [stopSpin]
  split
  · rename_i hnone
    rw [hnone, Option.elim_none]
  · rename_i t hturn
    rw [hturn, Option.elim_some]
    simp only [withTurn_turns]

/-- Without a turn nothing is stopped, and else the turn makes room for a spin that runs down. -/
lemma stopSpin_eq_ok {deceleration : Int} (h : p.stopSpin axis deceleration = .ok q) :
    p.turns.get axis = none ∧ q = p ∨ ∃ t size, p.turns.get axis = some t ∧
      q = p.withTurn axis ⟨p.rotation.get axis, some (.stopping t.spinSpeed size)⟩ := by
  rw [stopSpin_eq] at h
  cases hturn : p.turns.get axis with
  | none =>
    rw [hturn] at h
    cases h
    exact .inl ⟨rfl, rfl⟩
  | some t =>
    rw [hturn, Option.elim_some] at h
    cases hsize : sizeOf deceleration with
    | error cause => rw [hsize] at h; cases h
    | ok size =>
      rw [hsize] at h
      cases h
      exact .inr ⟨t, size, rfl, rfl⟩

lemma sizeOf_eq {rate : Int} (h : FitsSigned rate.natAbs) :
    sizeOf rate = .ok (rate.natAbs : Int) := by
  rw [sizeOf, Overflow.signed, if_pos h]

lemma withTurn_self (p : Piece) (axis : Axis) : p.withTurn axis (p.turnSlot axis) = p := by
  simp [withTurn, turnSlot]

/-- A command puts something in the place of one slot. -/
theorem obey_eq_ok {c : Command} (h : p.obey axis c = .ok q) :
    (c.isMove = true ∧ ∃ s, q = p.withMove axis s) ∨
      (c.isMove = false ∧ ∃ s, q = p.withTurn axis s) := by
  cases c with
  | moveTo target speed =>
    cases h
    exact .inl ⟨rfl, _, moveTo_eq ..⟩
  | moveNow target =>
    cases h
    exact .inl ⟨rfl, ⟨target, none⟩, rfl⟩
  | turnTo target speed =>
    cases h
    exact .inr ⟨rfl, _, turnTo_eq ..⟩
  | turnNow target =>
    cases h
    exact .inr ⟨rfl, ⟨target, none⟩, rfl⟩
  | spin targetSpeed acceleration =>
    rw [obey, spin_eq] at h
    cases hsize : sizeOf acceleration with
    | error cause => rw [hsize] at h; cases h
    | ok size =>
      rw [hsize] at h
      cases h
      exact .inr ⟨rfl, _, rfl⟩
  | stopSpin deceleration =>
    rcases stopSpin_eq_ok h with ⟨-, rfl⟩ | ⟨t, size, -, rfl⟩
    · exact .inr ⟨rfl, _, (withTurn_self q axis).symm⟩
    · exact .inr ⟨rfl, _, rfl⟩

/-- A command whose rate has a size is obeyed. -/
lemma exists_obey {c : Command} (h : c.Sized) : ∃ q, p.obey axis c = .ok q := by
  cases c with
  | moveTo target speed => exact ⟨_, rfl⟩
  | moveNow target => exact ⟨_, rfl⟩
  | turnTo target speed => exact ⟨_, rfl⟩
  | turnNow target => exact ⟨_, rfl⟩
  | spin targetSpeed acceleration =>
    rw [obey, spin_eq, sizeOf_eq h]
    exact ⟨_, rfl⟩
  | stopSpin deceleration =>
    rw [obey, stopSpin_eq, sizeOf_eq h]
    cases p.turns.get axis with
    | none => exact ⟨_, rfl⟩
    | some t => exact ⟨_, rfl⟩

/-! ### Events -/

/-- What happens to a piece. -/
inductive Event where
  /-- A tick. -/
  | update
  /-- A command on an axis. -/
  | command (axis : Axis) (c : Command)

namespace Event

/-- Whether the event is a tick. -/
def isUpdate : Event → Bool
  | update => true
  | command _ _ => false

/-- The event is a command about moves along an axis. -/
def Moves (axis : Axis) : Event → Prop
  | update => False
  | command other c => other = axis ∧ c.isMove = true

/-- The event is a command about turns about an axis. -/
def Turns (axis : Axis) : Event → Prop
  | update => False
  | command other c => other = axis ∧ c.isMove = false

/-- If the event is a command, its rate has a size. -/
def Sized : Event → Prop
  | update => True
  | command _ c => c.Sized

end Event

/-- The piece after an event. -/
def meet (p : Piece) : Event → Except Overflow Piece
  | .update => .ok p.step
  | .command axis c => p.obey axis c

/-- The piece after some events, one after the other. -/
def follow (p : Piece) (es : List Event) : Except Overflow Piece := es.foldlM meet p

/-- The number of ticks among some events. -/
def updates (es : List Event) : Nat := es.countP Event.isUpdate

@[simp] lemma follow_nil : p.follow [] = .ok p := rfl

lemma follow_cons (p : Piece) (e : Event) (es : List Event) :
    p.follow (e :: es) = (p.meet e).bind fun q => q.follow es := rfl

lemma follow_cons_eq_ok {e : Event} {es : List Event} :
    p.follow (e :: es) = .ok q ↔ ∃ m, p.meet e = .ok m ∧ m.follow es = .ok q := by
  rw [follow_cons]
  cases p.meet e with
  | error cause => simp [Except.bind]
  | ok m => simp [Except.bind]

lemma follow_append_eq_ok {es es' : List Event} :
    p.follow (es ++ es') = .ok q ↔ ∃ m, p.follow es = .ok m ∧ m.follow es' = .ok q := by
  induction es generalizing p with
  | nil => simp
  | cons e es ih =>
    simp only [List.cons_append, follow_cons_eq_ok, ih]
    constructor
    · rintro ⟨m, hm, m', hm', hq⟩
      exact ⟨m', ⟨m, hm, hm'⟩, hq⟩
    · rintro ⟨m', ⟨m, hm, hm'⟩, hq⟩
      exact ⟨m, hm, m', hm', hq⟩

/-- Events happen if each rate in them has a size. -/
lemma exists_follow {es : List Event} (h : ∀ e ∈ es, e.Sized) : ∃ q, p.follow es = .ok q := by
  induction es generalizing p with
  | nil => exact ⟨p, rfl⟩
  | cons e es ih =>
    obtain ⟨he, hes⟩ := List.forall_mem_cons.1 h
    obtain ⟨m, hm⟩ : ∃ m, p.meet e = .ok m := by
      cases e with
      | update => exact ⟨p.step, rfl⟩
      | command axis c => exact exists_obey he
    obtain ⟨q, hq⟩ := ih hes (p := m)
    exact ⟨q, follow_cons_eq_ok.2 ⟨m, hm, hq⟩⟩

lemma moveSlot_meet {e : Event} (he : ¬e.Moves axis) (h : p.meet e = .ok q) :
    q.moveSlot axis = if e.isUpdate then (p.moveSlot axis).move else p.moveSlot axis := by
  cases e with
  | update =>
    cases h
    exact moveSlot_step
  | command other c =>
    rcases obey_eq_ok h with ⟨hc, s, rfl⟩ | ⟨-, s, rfl⟩
    · rw [moveSlot_withMove, if_neg fun hother => he ⟨hother, hc⟩]
      rfl
    · rfl

lemma turnSlot_meet {e : Event} (he : ¬e.Turns axis) (h : p.meet e = .ok q) :
    q.turnSlot axis = if e.isUpdate then (p.turnSlot axis).turn else p.turnSlot axis := by
  cases e with
  | update =>
    cases h
    exact turnSlot_step
  | command other c =>
    rcases obey_eq_ok h with ⟨-, s, rfl⟩ | ⟨hc, s, rfl⟩
    · rfl
    · rw [turnSlot_withTurn, if_neg fun hother => he ⟨hother, hc⟩]
      rfl

/-- Where only ticks count in an event that does not touch a slot, they do so in a row of such
events. -/
lemma follow_untouched {α : Type} {slot : Piece → α} {tick : α → α} {Touches : Event → Prop}
    (hmeet : ∀ {p q : Piece} {e : Event}, ¬Touches e → p.meet e = .ok q →
      slot q = if e.isUpdate then tick (slot p) else slot p)
    {es : List Event} (hes : ∀ e ∈ es, ¬Touches e) (h : p.follow es = .ok q) :
    slot q = tick^[updates es] (slot p) := by
  induction es generalizing p with
  | nil =>
    cases h
    rfl
  | cons e es ih =>
    obtain ⟨he, hes⟩ := List.forall_mem_cons.1 hes
    obtain ⟨m, hm, hq⟩ := follow_cons_eq_ok.1 h
    rw [ih hes hq, hmeet he hm, updates, updates, List.countP_cons]
    split
    · rw [Function.iterate_succ_apply]
    · rfl

/-- As long as no command is about the moves along an axis, only ticks count there. -/
theorem moveSlot_follow {es : List Event} (hes : ∀ e ∈ es, ¬e.Moves axis)
    (h : p.follow es = .ok q) : q.moveSlot axis = Slot.move^[updates es] (p.moveSlot axis) :=
  follow_untouched moveSlot_meet hes h

/-- As long as no command is about the turns about an axis, only ticks count there. -/
theorem turnSlot_follow {es : List Event} (hes : ∀ e ∈ es, ¬e.Turns axis)
    (h : p.follow es = .ok q) : q.turnSlot axis = Slot.turn^[updates es] (p.turnSlot axis) :=
  follow_untouched turnSlot_meet hes h

end Piece

end Lockstep
