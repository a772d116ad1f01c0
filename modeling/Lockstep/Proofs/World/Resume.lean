import Lockstep.Proofs.World.Scripted
/-!
# A thread between two stops

A thread that is resumed goes on, step by step and over all the motions that it sets going, until it
finishes, fails or has to wait.  `Runs` says how it stops, and `Trail` which instructions it carries
out until then.
-/

namespace Lockstep

open Script (Failure Machine Motion Status ThreadState)

namespace Script.Machine

variable {σ : Type} {host : Host σ} {unit : UnitId}

/-- A thread that executes an instruction is not stopped as finished: that is found out before the
next instruction only. -/
def Unfinished (answer : Option Status) : Prop := answer ≠ some .finished

lemma unfinished_none : Unfinished none := by
  rw [Unfinished]
  simp

/-- The answer of an instruction stands at its end. -/
lemma answers_execute (i : Instruction) : Answers Unfinished (execute host unit i) := by
  rw [execute]
  cases i.opcode with
  | jumpIfZero =>
    refine .bind fun v => ?_
    split
    · exact .bind fun _ => .pure unfinished_none
    · exact .pure unfinished_none
  | pushStatic =>
    refine .bind fun m => ?_
    split
    · exact .bind fun _ => .pure unfinished_none
    · exact .throw _
  | popStatic =>
    refine .bind fun v => .bind fun m => ?_
    split
    · exact .bind fun _ => .pure unfinished_none
    · exact .throw _
  | _ =>
    repeat refine Answers.bind fun _ => ?_
    exact .pure (by simp [Unfinished])

lemma step_of_isFinished {m : Machine σ} (h : m.thread.isFinished = true) :
    (step host unit).run.run m = (.ok (some .finished), m) := by
  have hstep : (step host unit).run.run m =
      (if m.thread.isFinished then pure (some .finished) else fetch >>= execute host unit :
        Exec σ (Option Status)).run.run m := rfl
  rw [hstep, if_pos h]
  rfl

/-- A step that finds the thread finished changes nothing. -/
lemma step_eq_finished {m m' : Machine σ}
    (h : (step host unit).run.run m = (.ok (some .finished), m')) :
    m.thread.isFinished = true ∧ m' = m := by
  have hstep : (step host unit).run.run m =
      (if m.thread.isFinished then pure (some .finished) else fetch >>= execute host unit :
        Exec σ (Option Status)).run.run m := rfl
  rw [hstep] at h
  split at h
  · rename_i hm
    cases h
    exact ⟨hm, rfl⟩
  · exact absurd rfl (Answers.bind answers_execute m _ (congrArg Prod.fst h))

end Script.Machine

namespace World

variable {id : UnitId}

/-- A thread runs from a machine until it stops, with an answer that says how, and leaves a machine.
It answers how it waits, or nothing if it is finished. -/
inductive Runs (id : UnitId) :
    Machine World → Except ScriptError (Option ThreadState) → Machine World → Prop
  /-- An instruction is carried out. -/
  | step {m m₁ m' r} : (Machine.step host id).run.run m = (.ok none, m₁) →
      Runs id m₁ r m' → Runs id m r m'
  /-- A motion is set going. -/
  | motion {m m₁ m₂ m' r piece axis motion} :
      (Machine.step host id).run.run m = (.ok (some (.motion piece axis motion)), m₁) →
      (applyMotion id piece axis motion).run.run m₁ = (.ok (), m₂) →
      Runs id m₂ r m' → Runs id m r m'
  /-- All functions have been left. -/
  | finished {m} : m.thread.isFinished = true → Runs id m (.ok none) m
  /-- The thread waits for a piece that moves. -/
  | awaitingMove {m m' piece axis} :
      (Machine.step host id).run.run m = (.ok (some (.awaitingMove piece axis)), m') →
      Runs id m (.ok (some (.awaitingMove piece axis))) m'
  /-- The thread waits for a piece that turns. -/
  | awaitingTurn {m m' piece axis} :
      (Machine.step host id).run.run m = (.ok (some (.awaitingTurn piece axis)), m') →
      Runs id m (.ok (some (.awaitingTurn piece axis))) m'
  /-- The thread sleeps. -/
  | sleeping {m m' milliseconds} :
      (Machine.step host id).run.run m = (.ok (some (.sleeping milliseconds)), m') →
      Runs id m
        (.ok (some (.sleeping (m'.world.time + Script.ticksOfMilliseconds milliseconds)))) m'
  /-- An instruction is faulty. -/
  | faulty {m m' e} : (Machine.step host id).run.run m = (.error (.fault e), m') →
      Runs id m (.error e) m'
  /-- A motion is faulty. -/
  | faultyMotion {m m₁ m' piece axis motion e} :
      (Machine.step host id).run.run m = (.ok (some (.motion piece axis motion)), m₁) →
      (applyMotion id piece axis motion).run.run m₁ = (.error (.fault e), m') →
      Runs id m (.error e) m'

/-- A thread carries out an instruction, with the motion if it is one, and goes on. -/
inductive Proceeds (id : UnitId) (m m' : Machine World) : Prop
  | step (h : (Machine.step host id).run.run m = (.ok none, m'))
  | motion (m₁ : Machine World) (piece : UInt32) (axis : Axis) (motion : Motion)
    (hstep : (Machine.step host id).run.run m = (.ok (some (.motion piece axis motion)), m₁))
    (hmotion : (applyMotion id piece axis motion).run.run m₁ = (.ok (), m'))

/-- A thread cannot carry out its next instruction, or cannot set the motion going that it is. -/
inductive Stumbles (id : UnitId) (e : ScriptError) (m m' : Machine World) : Prop
  | step (h : (Machine.step host id).run.run m = (.error (.fault e), m'))
  | motion (m₁ : Machine World) (piece : UInt32) (axis : Axis) (motion : Motion)
    (hstep : (Machine.step host id).run.run m = (.ok (some (.motion piece axis motion)), m₁))
    (hmotion : (applyMotion id piece axis motion).run.run m₁ = (.error (.fault e), m'))

/-- A thread carries out an instruction after which it has to wait. -/
inductive Suspends (id : UnitId) (m m' : Machine World) : ThreadState → Prop
  | move {piece axis}
    (h : (Machine.step host id).run.run m = (.ok (some (.awaitingMove piece axis)), m')) :
    Suspends id m m' (.awaitingMove piece axis)
  | turn {piece axis}
    (h : (Machine.step host id).run.run m = (.ok (some (.awaitingTurn piece axis)), m')) :
    Suspends id m m' (.awaitingTurn piece axis)
  | sleep {milliseconds}
    (h : (Machine.step host id).run.run m = (.ok (some (.sleeping milliseconds)), m')) :
    Suspends id m m' (.sleeping (m'.world.time + Script.ticksOfMilliseconds milliseconds))

/-- A thread runs from a machine until it stops; the list has the machines from which it carries out
its instructions, one after the other. -/
inductive Trail (id : UnitId) : Machine World → List (Machine World) →
    Except ScriptError (Option ThreadState) → Machine World → Prop
  /-- All functions have been left. -/
  | finished {m} : m.thread.isFinished = true → Trail id m [] (.ok none) m
  /-- The thread goes on. -/
  | proceeds {m m₁ l r m'} : m.thread.isFinished = false → Proceeds id m m₁ →
      Trail id m₁ l r m' → Trail id m (m :: l) r m'
  /-- The thread has to wait. -/
  | suspends {m state m'} : m.thread.isFinished = false → Suspends id m m' state →
      Trail id m [m] (.ok (some state)) m'
  /-- The thread is faulty. -/
  | stumbles {m e m'} : m.thread.isFinished = false → Stumbles id e m m' →
      Trail id m [m] (.error e) m'

/-- The machines from which a thread that is resumed carries out its instructions, one after the
other. -/
def trail (id : UnitId) : (budget : Nat) → Machine World → List (Machine World)
  | 0, _ => []
  | budget + 1, m =>
    if m.thread.isFinished then []
    else m ::
      match (Machine.step host id).run.run m with
      | (.ok none, m₁) => trail id budget m₁
      | (.ok (some (.motion piece axis motion)), m₁) =>
        match (applyMotion id piece axis motion).run.run m₁ with
        | (.ok _, m₂) => trail id budget m₂
        | (.error _, _) => []
      | _ => []

/-- What stays true from instruction to instruction is true all along a trail; the induction is on
the budget. -/
lemma forall_mem_trail {P : Machine World → Prop}
    (hstep : ∀ m, P m → P ((Machine.step host id).run.run m).2)
    (hmotion : ∀ piece axis motion m, P m →
      P ((applyMotion id piece axis motion).run.run m).2)
    {budget : Nat} {m : Machine World} (hm : P m) : ∀ m' ∈ trail id budget m, P m' := by
  induction budget generalizing m with
  | zero => exact fun _ hm' => absurd hm' List.not_mem_nil
  | succ budget ih =>
    intro m' hm'
    have hnext := hstep m hm
    rw [trail] at hm'
    split at hm'
    · cases hm'
    rcases List.mem_cons.1 hm' with rfl | hm'
    · exact hm
    split at hm'
    · rename_i m₁ heq
      rw [heq] at hnext
      exact ih hnext m' hm'
    · rename_i piece axis motion m₁ heq
      rw [heq] at hnext
      have hmoved := hmotion piece axis motion m₁ hnext
      split at hm'
      · rename_i m₂ heq'
        rw [heq'] at hmoved
        exact ih hmoved m' hm'
      · cases hm'
    · cases hm'

namespace Runs

variable {m m' : Machine World}

/-- A thread that stops before it is finished has to wait. -/
lemma ne_ready {state : ThreadState} (h : Runs id m (.ok (some state)) m') : state ≠ .ready := by
  generalize hr : (Except.ok (some state) : Except ScriptError (Option ThreadState)) = r at h
  induction h with
  | step _ _ ih => exact ih hr
  | motion _ _ _ ih => exact ih hr
  | _ =>
    cases hr
    all_goals simp

end Runs

/-- An instruction after which a thread has to wait sets no motion going. -/
lemma Suspends.exists_status {m m' : Machine World} {state : ThreadState}
    (h : Suspends id m m' state) :
    ∃ status, (Machine.step host id).run.run m = (.ok (some status), m') ∧
      ∀ piece axis motion, status ≠ .motion piece axis motion := by
  cases h with
  | move h | turn h | sleep h => exact ⟨_, h, fun _ _ _ => nofun⟩

/-- A trail is a run with its instructions. -/
lemma Trail.runs {m m' : Machine World} {l : List (Machine World)}
    {r : Except ScriptError (Option ThreadState)} (h : Trail id m l r m') : Runs id m r m' := by
  induction h with
  | finished hm => exact .finished hm
  | proceeds _ hproceeds _ ih =>
    cases hproceeds with
    | step hstep => exact .step hstep ih
    | motion m₁ piece axis motion hstep hmotion => exact .motion hstep hmotion ih
  | suspends _ hsuspends =>
    cases hsuspends with
    | move hstep => exact .awaitingMove hstep
    | turn hstep => exact .awaitingTurn hstep
    | sleep hstep => exact .sleeping hstep
  | stumbles _ hstumbles =>
    cases hstumbles with
    | step hstep => exact .faulty hstep
    | motion m₁ piece axis motion hstep hmotion => exact .faultyMotion hstep hmotion

/-- Unless everything stops, a thread that is resumed runs until it stops by itself; the induction
is on the budget. -/
lemma resume_trail (id : UnitId) (budget : Nat) (m : Machine World) :
    (∃ cause, ((resume id budget).run.run m).1 = .error (.halt cause)) ∨
      ∃ r m', (resume id budget).run.run m = (r.mapError .fault, m') ∧
        Trail id m (trail id budget m) r m' := by
  induction budget generalizing m with
  | zero => exact .inl ⟨_, rfl⟩
  | succ budget ih =>
    rw [resume, run_bind, trail]
    cases hm : m.thread.isFinished with
    | true =>
      rw [Machine.step_of_isFinished hm, if_pos rfl]
      exact .inr ⟨.ok none, m, rfl, .finished hm⟩
    | false =>
    rw [if_neg Bool.false_ne_true]
    cases hstep : (Machine.step host id).run.run m with
    | mk answer m₁ =>
    rcases answer with (e | cause) | status
    · exact .inr ⟨.error e, m₁, rfl, .stumbles hm (.step hstep)⟩
    · exact .inl ⟨cause, rfl⟩
    rcases status with _ | status
    · rcases ih m₁ with h | ⟨r, m', h, htrail⟩
      · exact .inl h
      · exact .inr ⟨r, m', h, .proceeds hm (.step hstep) htrail⟩
    cases status with
    | finished =>
      have hfinished := (Machine.step_eq_finished hstep).1
      rw [hm] at hfinished
      cases hfinished
    | motion piece axis motion =>
      simp only [run_bind]
      cases hmotion : (applyMotion id piece axis motion).run.run m₁ with
      | mk answer m₂ =>
      rcases answer with (e | cause) | _
      · exact .inr ⟨.error e, m₂, rfl, .stumbles hm (.motion _ _ _ _ hstep hmotion)⟩
      · exact .inl ⟨cause, rfl⟩
      · rcases ih m₂ with h | ⟨r, m', h, htrail⟩
        · exact .inl h
        · exact .inr ⟨r, m', h, .proceeds hm (.motion _ _ _ _ hstep hmotion) htrail⟩
    | awaitingMove piece axis => exact .inr ⟨.ok _, m₁, rfl, .suspends hm (.move hstep)⟩
    | awaitingTurn piece axis => exact .inr ⟨.ok _, m₁, rfl, .suspends hm (.turn hstep)⟩
    | sleeping milliseconds => exact .inr ⟨.ok _, m₁, rfl, .suspends hm (.sleep hstep)⟩

theorem resume_cases (id : UnitId) (budget : Nat) (m : Machine World) :
    (∃ cause, ((resume id budget).run.run m).1 = .error (.halt cause)) ∨
      ∃ r m', (resume id budget).run.run m = (r.mapError .fault, m') ∧ Runs id m r m' := by
  rcases resume_trail id budget m with h | ⟨r, m', h, htrail⟩
  · exact .inl h
  · exact .inr ⟨r, m', h, htrail.runs⟩

end World

end Lockstep
