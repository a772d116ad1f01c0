import Mathlib.Logic.Relation
import Lockstep.Proofs.Script.Frame
/-!
# Faulty instructions

An instruction that is faulty ends its thread and has done nothing else: whatever is to be checked
has been checked before the instruction reaches out of the thread.  So a computation is looked at in
parts.  A part is inward if it touches the thread only, and flawless if it cannot fault; an
instruction is a sequence of inward parts, then at most one part that reaches out, and after that
flawless parts.
-/

namespace Lockstep.Script.Machine

variable {σ α β : Type} {host : Host σ} {unit : UnitId}

/-- The computation touches the thread only. -/
abbrev Inward (a : Exec σ α) : Prop := Respects (Related Eq Eq) a

/-- The computation cannot fault. -/
def Flawless (a : Exec σ α) : Prop := ∀ m e, (a.run.run m).1 ≠ .error (.fault e)

/-- If the computation faults, it has touched the thread only. -/
def Atomic (a : Exec σ α) : Prop :=
  ∀ m m' e, a.run.run m = (.error (.fault e), m') → Related Eq Eq m m'

namespace Flawless

lemma pure (a : α) : Flawless (pure a : Exec σ α) := by
  intro m e h
  cases h

lemma modify (f : Machine σ → Machine σ) : Flawless (modify f : Exec σ Unit) := by
  intro m e h
  cases h

lemma bind {a : Exec σ α} {f : α → Exec σ β} (ha : Flawless a) (hf : ∀ x, Flawless (f x)) :
    Flawless (a >>= f) := by
  intro m e h
  have hm := ha m e
  rw [run_bind] at h
  revert hm h
  rcases a.run.run m with ⟨failure | x, m₁⟩ <;> intro h hm
  · cases h
    exact hm rfl
  · exact hf x m₁ e h

lemma perform (e : Effect) : Flawless (perform host unit e) := by
  intro m error h
  rw [Machine.perform, run_get_bind] at h
  split at h <;> cases h

lemma draw (a b : Int32) : Flawless (draw host a b) := by
  intro m error h
  rw [Machine.draw, run_get_bind] at h
  split at h <;> cases h

end Flawless

namespace Atomic

lemma of_inward {a : Exec σ α} (ha : Inward a) : Atomic a := by
  intro m m' e h
  have hm := ha m
  rwa [h] at hm

lemma of_flawless {a : Exec σ α} (ha : Flawless a) : Atomic a := by
  intro m m' e h
  exact absurd (congrArg Prod.fst h) (ha m e)

/-- Nothing has happened yet when the second part begins. -/
lemma bind {a : Exec σ α} {f : α → Exec σ β} (ha : Inward a) (hf : ∀ x, Atomic (f x)) :
    Atomic (a >>= f) := by
  intro m m' e h
  have hm := ha m
  rw [run_bind] at h
  revert hm h
  rcases a.run.run m with ⟨failure | x, m₁⟩ <;> intro h hm
  · cases h
    exact hm
  · exact trans_of (Related Eq Eq) hm (hf x m₁ m' e h)

/-- Nothing can go wrong any more when the second part begins. -/
lemma andThen {a : Exec σ α} {f : α → Exec σ β} (ha : Atomic a) (hf : ∀ x, Flawless (f x)) :
    Atomic (a >>= f) := by
  intro m m' e h
  have hm := ha m
  rw [run_bind] at h
  revert hm h
  rcases a.run.run m with ⟨failure | x, m₁⟩ <;> intro h hm
  · cases h
    exact hm m' e rfl
  · exact absurd (congrArg Prod.fst h) (hf x m₁ e)

/-- After a look at the machine, the rest is started from the machine seen. -/
lemma get_bind {f : Machine σ → Exec σ β}
    (hf : ∀ m m' e, (f m).run.run m = (.error (.fault e), m') → Related Eq Eq m m') :
    Atomic (get >>= f) := by
  intro m m' e h
  exact hf m m' e h

/-- A thread is started only if there is the function. -/
lemma start (function : UInt32) (params : List Int32) :
    Atomic (start function params : Exec σ Unit) := by
  refine get_bind fun m m' e h => ?_
  split at h
  · cases h
  · cases h
    exact refl_of (Related Eq Eq) m

/-- A linked value is written only if it exists and can be written. -/
lemma setValue (number n : Int32) : Atomic (setValue host unit number n) := by
  rw [Machine.setValue]
  split
  · exact of_inward (respects_fault _)
  · split
    · exact of_flawless (.perform _)
    · exact of_flawless (.pure _)
    · exact of_inward (respects_fault _)

end Atomic

/-! ### Instructions -/

/-- An instruction that may do something beyond its thread: if it is faulty it does not, and the
thread goes on after it. -/
structure Outward (a : Exec σ (Option Status)) : Prop where
  atomic : Atomic a
  goesOn : Answers (· = none) a

namespace Outward

lemma bind {a : Exec σ α} {f : α → Exec σ (Option Status)} (ha : Inward a)
    (hf : ∀ x, Outward (f x)) : Outward (a >>= f) where
  atomic := .bind ha fun x => (hf x).atomic
  goesOn := .bind fun x => (hf x).goesOn

/-- The last part of an instruction but for its answer. -/
lemma last {a : Exec σ α} (ha : Atomic a) : Outward (a >>= fun _ => pure none) where
  atomic := ha.andThen fun _ => .pure none
  goesOn := .bind fun _ => .pure rfl

end Outward

/-- The instructions by what they may reach. -/
lemma inward_or_outward_execute (i : Instruction) :
    Inward (execute host unit i) ∨ Outward (execute host unit i) := by
  rw [Machine.execute]
  cases i.opcode with
  -- the thread itself, and reads of the rest
  | binary op =>
    exact .inl <| respects_pop.bind fun _ => respects_pop.bind fun _ =>
      (respects_push _).bind fun _ => .pure _
  | unary op => exact .inl <| respects_pop.bind fun _ => (respects_push _).bind fun _ => .pure _
  | jump => exact .inl <| (respects_jumpTo _).bind fun _ => .pure _
  | jumpIfZero =>
    refine .inl <| respects_pop.bind fun v => ?_
    split
    · exact (respects_jumpTo _).bind fun _ => .pure _
    · exact .pure _
  | move | turn | spin =>
    exact .inl <| (respects_axisOf _).bind fun _ => respects_pop.bind fun _ =>
      respects_pop.bind fun _ => .pure _
  | moveNow | turnNow | stopSpin =>
    exact .inl <| (respects_axisOf _).bind fun _ => respects_pop.bind fun _ => .pure _
  | waitForMove | waitForTurn => exact .inl <| (respects_axisOf _).bind fun _ => .pure _
  | sleep | dropUnit | drop => exact .inl <| respects_pop.bind fun _ => .pure _
  | cache | dontCache => exact .inl <| .pure _
  | attachUnit => exact .inl <| respects_pop.bind fun _ => respects_pop.bind fun _ => .pure _
  | call =>
    exact .inl <| (respects_popMany _).bind fun _ => (respects_call _ _).bind fun _ => .pure _
  | leave | setMask =>
    exact .inl <| respects_pop.bind fun _ => (respects_modifyThread _).bind fun _ => .pure _
  | createLocal => exact .inl <| (respects_modifyThread _).bind fun _ => .pure _
  | pushConstant => exact .inl <| (respects_push _).bind fun _ => .pure _
  | pushLocal =>
    exact .inl <| (respects_getLocal _).bind fun _ => (respects_push _).bind fun _ => .pure _
  | popLocal =>
    exact .inl <| respects_pop.bind fun _ => (respects_setLocal _ _).bind fun _ => .pure _
  | pushStatic =>
    refine .inl <| Respects.get.bind fun m => ?_
    split
    · exact (respects_push _).bind fun _ => .pure _
    · exact respects_fault _
  | getValue =>
    exact .inl <| respects_pop.bind fun _ => (respects_getValue _ _ _).bind fun _ =>
      (respects_push _).bind fun _ => .pure _
  | getValueWithArgs =>
    exact .inl <| respects_pop.bind fun _ => respects_pop.bind fun _ => respects_pop.bind fun _ =>
      respects_pop.bind fun _ => respects_pop.bind fun _ => (respects_getValue _ _ _).bind fun _ =>
      (respects_push _).bind fun _ => .pure _
  -- the world, once all operands are there
  | random =>
    have draw_push (a b : Int32) : Outward (draw host a b >>= fun x =>
        push x >>= fun _ => pure none) :=
      ⟨.of_flawless <| (Flawless.draw a b).bind fun x =>
        (Flawless.modify _).bind fun _ => .pure none, .bind fun x => .bind fun _ => .pure rfl⟩
    exact .inr <| .bind respects_pop fun _ => .bind respects_pop fun _ => draw_push _ _
  | explode | emitSmoke =>
    exact .inr <| .bind (respects_pieceName _) fun _ => .bind respects_pop fun _ =>
      .last (.of_flawless (.perform _))
  | showPiece | hidePiece | shade | dontShade =>
    exact .inr <| .bind (respects_pieceName _) fun _ => .last (.of_flawless (.perform _))
  | setValue =>
    exact .inr <| .bind respects_pop fun _ => .bind respects_pop fun _ => .last (.setValue _ _)
  -- the script state of the unit
  | start => exact .inr <| .bind (respects_popMany _) fun _ => .last (.start _ _)
  | signal => exact .inr <| .bind respects_pop fun _ => .last (.of_flawless (.modify _))
  | popStatic =>
    refine .inr <| .bind respects_pop fun v => ⟨.get_bind fun m m' e h => ?_, .bind fun m => ?_⟩
    · split at h <;> cases h
      exact refl_of (Related Eq Eq) m
    · split
      · exact .bind fun _ => .pure rfl
      · exact .throw _

/-- A step that is faulty has touched its thread only. -/
theorem atomic_step : Atomic (step host unit) := by
  refine .get_bind fun m m' e h => ?_
  split at h
  · cases h
  · refine Atomic.bind respects_fetch (fun i => ?_) m m' e h
    have hreach : Inward (execute host unit i) ∨ Outward (execute host unit i) :=
      inward_or_outward_execute i
    rcases hreach with hi | hi
    · exact .of_inward hi
    · exact hi.atomic

/-- A step after which the thread stops has touched its thread only. -/
lemma related_of_step_eq_some {m m' : Machine σ} {status : Status}
    (h : (step host unit).run.run m = (.ok (some status), m')) : Related Eq Eq m m' := by
  rw [run_step] at h
  split at h
  · cases h
    exact refl_of (Related Eq Eq) m
  · have hfetch : Inward (fetch : Exec σ Instruction) := respects_fetch
    have hm := hfetch m
    rw [run_bind] at h
    revert h hm
    rcases (fetch : Exec σ Instruction).run.run m with ⟨failure | i, m₁⟩ <;> intro h hm
    · cases h
    replace h : (execute host unit i).run.run m₁ = (.ok (some status), m') := h
    have hreach : Inward (execute host unit i) ∨ Outward (execute host unit i) :=
      inward_or_outward_execute i
    rcases hreach with hi | hi
    · have hm₁ := hi m₁
      rw [h] at hm₁
      exact trans_of (Related Eq Eq) hm hm₁
    · exact absurd (hi.goesOn m₁ (some status) (congrArg Prod.fst h)) nofun

/-! ### Runs -/

lemma run_pieceName (index : UInt32) (m : Machine σ) :
    (pieceName index).run.run m =
      match m.environment.program.pieceName? index with
      | some name => (.ok name, m)
      | none => (.error (.fault (.unknownPiece index)), m) := by
  rw [pieceName, run_get_bind]
  cases m.environment.program.pieceName? index <;> rfl

/-- An instruction is carried out, and the thread goes on. -/
def Advances (host : Host σ) (unit : UnitId) (m m' : Machine σ) : Prop :=
  (step host unit).run.run m = (.ok none, m')

/-- A run that faults has carried out some instructions, and the next one is faulty; the induction
is on the budget. -/
lemma run_eq_fault {budget : Nat} {m m' : Machine σ} {e : ScriptError}
    (h : (run host unit budget).run.run m = (.error (.fault e), m')) :
    ∃ m₁, Relation.ReflTransGen (Advances host unit) m m₁ ∧
      (step host unit).run.run m₁ = (.error (.fault e), m') := by
  induction budget generalizing m with
  | zero => cases h
  | succ budget ih =>
    rw [run, run_bind] at h
    cases hstep : (step host unit).run.run m with
    | mk answer m₁ =>
    rw [hstep] at h
    rcases answer with failure | _ | status
    · cases h
      exact ⟨m, .refl, hstep⟩
    · obtain ⟨m₂, hpath, hfault⟩ := ih h
      exact ⟨m₂, .head hstep hpath, hfault⟩
    · cases h

end Lockstep.Script.Machine
