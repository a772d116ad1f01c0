import Mathlib.Data.List.Forall2
import Lockstep.Proofs.Script.Abreast
import Lockstep.Proofs.Script.Requests
/-!
# Zeros below the stack

A stack from which too much is taken gives zeros.  So it makes no difference whether there are zeros
at its bottom: a thread with more of them goes on in the same way, asks the same of the host, and
ends with at most those zeros more (`Machine.zeros_below_go_unnoticed`).  This holds over any number
of runs of the thread, whatever happens between them, as long as nobody looks at the stack then.
-/

namespace Lockstep.Script

variable {σ : Type} {host : Host σ} {unit : UnitId}

/-- Two stacks of which the second one has at most `k` zeros more at its bottom. -/
def Deeper (k : Nat) (l l' : List Int32) : Prop := ∃ j ≤ k, l' = l ++ List.replicate j 0

lemma stackLaw_deeper (k : Nat) : StackLaw (Deeper k) where
  top := by
    rintro l _ ⟨j, -, rfl⟩
    cases l with
    | nil => cases j <;> rfl
    | cons v l => rfl
  pop := by
    rintro l _ ⟨j, hj, rfl⟩
    cases l with
    | nil =>
      -- one of the zeros is taken off, where the other stack has nothing to give
      refine ⟨j - 1, by omega, ?_⟩
      simp
    | cons v l => exact ⟨j, hj, rfl⟩
  push := by
    rintro l _ v ⟨j, hj, rfl⟩
    exact ⟨j, hj, rfl⟩

/-- No host tells a world from itself. -/
lemma Host.impartial_eq (host : Host σ) : host.Impartial Eq where
  random := by
    rintro w _ low high rfl
    cases host.random low high w with
    | error cause => exact .error cause
    | ok p => exact .ok ⟨rfl, rfl⟩
  unit? _ h := h ▸ rfl
  piecePosition? _ _ h := h ▸ rfl
  groundHeight _ _ h := h ▸ rfl
  minUnit h := h ▸ rfl
  maxUnit h := h ▸ rfl
  apply := by
    rintro w _ id e rfl
    cases host.apply id e w with
    | error cause => exact .error cause
    | ok w' => exact .ok rfl

namespace Machine

variable {k : Nat} {m m' : Machine σ}

/-- The machine whose thread has another stack. -/
def withStack (m : Machine σ) (l : List Int32) : Machine σ :=
  { m with thread := { m.thread with stack := l } }

/-- The machine with zeros put below the stack of its thread. -/
def withZeros (m : Machine σ) (k : Nat) : Machine σ :=
  m.withStack (m.thread.stack ++ List.replicate k 0)

/-- Two machines that are the same but for at most `k` zeros below the stack of the second one. -/
abbrev SameButZeros (k : Nat) : Machine σ → Machine σ → Prop := Abreast Eq (Deeper k)

lemma sameButZeros_iff : SameButZeros k m m' ↔ ∃ j ≤ k, m' = m.withZeros j := by
  constructor
  · rintro (@⟨w, _, env, t, _, rfl, j, hj, rfl⟩)
    exact ⟨j, hj, rfl⟩
  · rintro ⟨j, hj, rfl⟩
    exact .mk rfl ⟨j, hj, rfl⟩

/-! ### One step and one run -/

theorem inStep_step : InStep (SameButZeros k) (step host unit) (step host unit) :=
  Routine.step.inStep host.impartial_eq (stackLaw_deeper k)

/-- What an instruction asks depends on the values on top of the stack only. -/
lemma requests_withStack {p : Program} {w : σ} {t : Thread} {l : List Int32} (i : Instruction)
    (h : Deeper k t.stack l) :
    i.requests host unit p w { t with stack := l } = i.requests host unit p w t := by
  have law := stackLaw_deeper k
  have htop := law.top h
  have hsecond := law.top (law.pop h)
  have hfourth := law.top (law.pop (law.pop (law.pop h)))
  have hfifth := law.top (law.pop (law.pop (law.pop (law.pop h))))
  simp only [Instruction.requests, Thread.top, Thread.pop, htop, hsecond, hfourth, hfifth]

/-- The next step of both machines asks the same of the host. -/
lemma SameButZeros.requests_eq (h : SameButZeros k m m') :
    m'.requests host unit = m.requests host unit := by
  have hfetch : Routine host unit (fetch : Exec σ Instruction) := .fetch
  have hi : m'.instruction? = m.instruction? := by
    rw [instruction?, instruction?,
      (hfetch.inStep host.impartial_eq (stackLaw_deeper k) m m' h).1]
  rw [requests, requests, hi]
  obtain @⟨w, _, env, t, l, rfl, hl⟩ := h
  simp only [requests_withStack _ hl]

lemma inStep_run (budget : Nat) :
    InStep (SameButZeros k) (run host unit budget) (run host unit budget) := by
  induction budget with
  | zero => exact .throw _
  | succ budget ih =>
    rw [run]
    refine inStep_step.bind fun status => ?_
    cases status with
    | none => exact ih
    | some status => exact .pure _

lemma SameButZeros.requestsOf_eq (h : SameButZeros k m m') (budget : Nat) :
    requestsOf host unit budget m' = requestsOf host unit budget m := by
  induction budget generalizing m m' with
  | zero => rfl
  | succ budget ih =>
    rw [requestsOf, requestsOf, h.requests_eq]
    have hstep : InStep (SameButZeros k) (step host unit) (step host unit) := inStep_step
    have hnext := hstep m m' h
    revert hnext
    rcases (step host unit).run.run m with ⟨answer, m₁⟩
    rcases (step host unit).run.run m' with ⟨answer', m₁'⟩
    rintro ⟨rfl, hm₁⟩
    rcases answer with failure | _ | status
    · rfl
    · simp only [ih hm₁]
    · rfl

/-! ### Runs one after the other -/

/-- How a run of a thread has ended. -/
structure Ending (σ : Type) where
  /-- Why the thread stopped. -/
  answer : Except Failure Status
  /-- What it asked of the host, in order. -/
  requests : List Request
  /-- The machine that is left. -/
  machine : Machine σ

/-- How a run of a thread ends. -/
def Ending.of (host : Host σ) (unit : UnitId) (budget : Nat) (m : Machine σ) : Ending σ where
  answer := ((run host unit budget).run.run m).1
  requests := requestsOf host unit budget m
  machine := ((run host unit budget).run.run m).2

/-- Two endings that are the same but for at most `k` zeros below the stack of the second one. -/
structure Ending.SameButZeros (k : Nat) (e e' : Ending σ) : Prop where
  answer : e'.answer = e.answer
  requests : e'.requests = e.requests
  machine : ∃ j ≤ k, e'.machine = e.machine.withZeros j

/-- What happens to a thread between two of its runs.  Whoever resumes it knows how the last run has
ended and may have changed everything by then; the stack alone is hidden from him. -/
structure Interlude (σ : Type) where
  /-- The machine in which the thread is resumed, but for the stack. -/
  change : Ending σ → Machine σ
  /-- The budget of the next run. -/
  budget : Nat

/-- The machine in which a thread is resumed; its stack is the one with which it stopped. -/
def Interlude.apply (i : Interlude σ) (e : Ending σ) : Machine σ :=
  (i.change { e with machine := e.machine.withStack [] }).withStack e.machine.thread.stack

/-- The endings of the runs of a thread that is resumed after each of some interludes. -/
def endings (host : Host σ) (unit : UnitId) (budget : Nat) (m : Machine σ) :
    List (Interlude σ) → List (Ending σ)
  | [] => [.of host unit budget m]
  | i :: rest =>
    let e := Ending.of host unit budget m
    e :: endings host unit i.budget (i.apply e) rest

lemma SameButZeros.ending (h : SameButZeros k m m') (budget : Nat) :
    Ending.SameButZeros k (.of host unit budget m) (.of host unit budget m') where
  answer := (inStep_run budget m m' h).1.symm
  requests := h.requestsOf_eq budget
  machine := sameButZeros_iff.1 (inStep_run budget m m' h).2

/-- Nobody sees the zeros between two runs either. -/
lemma Ending.SameButZeros.apply {e e' : Ending σ} (h : e.SameButZeros k e') (i : Interlude σ) :
    Machine.SameButZeros k (i.apply e) (i.apply e') := by
  obtain ⟨hanswer, hrequests, j, hj, hmachine⟩ := h
  refine sameButZeros_iff.2 ⟨j, hj, ?_⟩
  rw [Interlude.apply, hanswer, hrequests, hmachine]
  rfl

/-- The induction is on the interludes; the zeros that are left after a run stand below the stack
in the next. -/
lemma SameButZeros.endings (h : SameButZeros k m m') (budget : Nat) (is : List (Interlude σ)) :
    List.Forall₂ (Ending.SameButZeros k) (endings host unit budget m is)
      (endings host unit budget m' is) := by
  induction is generalizing m m' budget with
  | nil => exact .cons (h.ending budget) .nil
  | cons i rest ih => exact .cons (h.ending budget) (ih ((h.ending budget).apply i) i.budget)

/-- **Zeros below the stack go unnoticed.**  A thread and a copy of it with `k` zeros more below its
stack stop for the same reasons, run by run, however often they are resumed and whatever happens
meanwhile.  They ask the same of the host, in the same order, and this is all that they learn of the
world: whichever other host answers it alike makes the same step.  Each run leaves the same world
and the same script state, and the same thread but for at most `k` zeros below the stack. -/
theorem zeros_below_go_unnoticed (host : Host σ) (unit : UnitId) (k : Nat) (m : Machine σ) :
    (∀ budget is, List.Forall₂ (Ending.SameButZeros k) (endings host unit budget m is)
      (endings host unit budget (m.withZeros k) is)) ∧
    ∀ host', (∀ r ∈ m.requests host unit, r.Agree host host' m.world) →
      (step host unit).run.run m = (step host' unit).run.run m := by
  have h : SameButZeros k m (m.withZeros k) := sameButZeros_iff.2 ⟨k, Nat.le_refl k, rfl⟩
  exact ⟨fun budget is => h.endings budget is, fun host' hagree => step_eq_of_agree hagree⟩

end Machine

end Lockstep.Script
