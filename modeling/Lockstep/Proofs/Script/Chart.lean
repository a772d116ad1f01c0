import Lockstep.Proofs.Script.CallStack
import Lockstep.Proofs.Script.Spelling
import Lockstep.Proofs.World.Resume
/-!
# Charts of programs

A chart marks addresses of a program, such that behind each marked address there is an instruction
with its operands, or nothing, and from there execution can only get to marked addresses
(`Program.Charted`).  Threads begin at functions, and whatever happens to the script state of a
unit, all of them stay on the chart (`Session.onChart`): no thread ever takes an operand for an
opcode.
-/

namespace Lockstep.Script

/-- An instruction after which its thread may go on at its first operand. -/
def Opcode.IsJump (op : Opcode) : Prop := op = .jump ∨ op = .jumpIfZero

/-- A set of addresses that execution does not leave. -/
structure Program.Charted (p : Program) (B : Nat → Prop) : Prop where
  reads : ∀ {a}, B a → p.words.size ≤ a ∨ ∃ op operands, p.Spells a op operands ∧
    B (a + (1 + op.operandCount)) ∧ (op.IsJump → B (operands.getD 0 0).toNat)
  functions : ∀ f ∈ p.functions, B f.address

/-- All functions that a thread has entered go on at marked addresses. -/
def Thread.OnChart (B : Nat → Prop) (t : Thread) : Prop := ∀ f ∈ t.frames, B f.address

/-- All threads that are stored go on at marked addresses. -/
def Environment.OnChart (B : Nat → Prop) (env : Environment) : Prop :=
  ∀ n t, env.threads.get? n = some t → t.OnChart B

variable {B : Nat → Prop} {p : Program} {env env' : Environment} {n : ThreadId} {t : Thread}

namespace Thread

lemma onChart_framesAfter {i : Instruction} (hp : ∀ f ∈ p.functions, B f.address)
    (hjump : i.opcode.IsJump → B i.first.toNat) (ht : t.OnChart B) :
    ∀ f ∈ t.framesAfter p i, B f.address := by
  have head {g : Frame → Frame} (hg : ∀ f, B f.address → B (g f).address) :
      ∀ f ∈ t.frames.modifyHead g, B f.address := by
    intro f hf
    rw [OnChart] at ht
    cases hframes : t.frames with
    | nil => rw [hframes] at hf; cases hf
    | cons first rest =>
      rw [hframes] at ht hf
      rcases List.mem_cons.1 hf with rfl | hf
      · exact hg first (ht first List.mem_cons_self)
      · exact ht f (List.mem_cons_of_mem first hf)
  rw [framesAfter]
  split
  · exact head fun _ _ => hjump (.inl ‹_›)
  · split
    · exact head fun _ _ => hjump (.inr ‹_›)
    · exact ht
  · split
    · rename_i f hf
      intro frame hframe
      rcases List.mem_cons.1 hframe with rfl | hframe
      · exact hp f (List.mem_of_getElem? hf)
      · exact ht frame hframe
    · exact ht
  · exact fun f hf => ht f (List.mem_of_mem_tail hf)
  · exact head fun _ h => h
  · exact head fun _ h => h
  · exact ht

end Thread

namespace Machine

variable {σ : Type} {host : Host σ} {unit : UnitId} {m : Machine σ}

/-- A thread on the chart stays there, and all opcodes that it comes across are known. -/
lemma onChart_step (hp : m.environment.program.Charted B) (ht : m.thread.OnChart B) :
    ((step host unit).run.run m).2.thread.OnChart B ∧
      ∀ {e}, ((step host unit).run.run m).1 = .error e → e.Decoded := by
  cases hframes : m.thread.frames with
  | nil =>
    have hfinished : m.thread.isFinished = true := by rw [Thread.isFinished, hframes]; rfl
    rw [step_of_isFinished hfinished]
    exact ⟨ht, by rintro _ ⟨⟩⟩
  | cons frame rest =>
  have hframe : B frame.address := ht frame (by rw [hframes]; exact List.mem_cons_self)
  rcases hp.reads hframe with hend | ⟨op, operands, hspells, hnext, hjump⟩
  · rw [step_pastEnd hframes (Array.getElem?_eq_none hend)]
    refine ⟨ht, ?_⟩
    rintro _ ⟨⟩
    trivial
  · have hfetch := fetch_of_spells hframes hspells
    have hi : m.instruction? = some ⟨op, operands.getD 0 0, operands.getD 1 0⟩ := by
      rw [instruction?, hfetch]
      rfl
    have hfetched : m.fetched.thread.OnChart B := by
      rw [fetched_eq hi]
      intro f hf
      rw [frames_readOn hframes] at hf
      rcases List.mem_cons.1 hf with rfl | hf
      · exact hnext
      · exact ht f (by rw [hframes]; exact List.mem_cons_of_mem frame hf)
    have hleaves := leaves_execute host unit ⟨op, operands.getD 0 0, operands.getD 1 0⟩ m.fetched
    rw [environment_fetched] at hleaves
    rw [step_of_instruction hi]
    refine ⟨?_, hleaves.decoded⟩
    rw [Thread.OnChart, hleaves.frames]
    exact Thread.onChart_framesAfter hp.functions hjump hfetched

end Machine

/-! ### Sessions -/

/-- What can become of the script state of a unit and of the thread that is running, if one is:
threads are started, killed, taken up, put away and dropped by others, and while a thread runs, the
world changes as it likes. -/
inductive Session {σ : Type} (host : Host σ) (unit : UnitId) (p : Program) :
    Environment → Option Thread → Prop
  /-- Nothing has run. -/
  | new : Session host unit p (.new p) none
  /-- A thread is started. -/
  | start {env env' : Environment} {o : Option Thread} {n : ThreadId} {function mask : UInt32}
    {params : List Int32} : Session host unit p env o →
      env.startThread function params mask = .ok (n, env') → Session host unit p env' o
  /-- A signal is sent from outside. -/
  | signal {env : Environment} {o : Option Thread} (s : UInt32) (sender : Option ThreadId) :
    Session host unit p env o → Session host unit p (env.signal s sender) o
  /-- The mask of a stored thread is set. -/
  | setMask {env : Environment} {o : Option Thread} (n : ThreadId) (mask : UInt32) :
    Session host unit p env o → Session host unit p (env.setMask n mask) o
  /-- A static variable is written. -/
  | setStatic {env env' : Environment} {o : Option Thread} {index : UInt32} {v : Int32} :
    Session host unit p env o → env.setStatic index v = .ok env' → Session host unit p env' o
  /-- A stored thread is killed. -/
  | kill {env : Environment} {o : Option Thread} (n : ThreadId) :
    Session host unit p env o → Session host unit p (env.removeThread n) o
  /-- A stored thread is taken up, and what it waited for does not matter any more. -/
  | resume {env : Environment} {n : ThreadId} {t : Thread} (state : ThreadState) :
    Session host unit p env none → env.threads.get? n = some t →
    Session host unit p (env.removeThread n) (some { t with state := state })
  /-- The running thread goes on by one instruction. -/
  | step {m : Machine σ} : Session host unit p m.environment (some m.thread) →
    Session host unit p ((Machine.step host unit).run.run m).2.environment
      (some ((Machine.step host unit).run.run m).2.thread)
  /-- The running thread is put away, and it is said what it waits for. -/
  | suspend {env : Environment} {t : Thread} (n : ThreadId) (state : ThreadState) :
    Session host unit p env (some t) →
    Session host unit p (env.putThread n { t with state := state }) none
  /-- The running thread is dropped. -/
  | drop {env : Environment} {t : Thread} :
    Session host unit p env (some t) → Session host unit p env none

namespace Session

variable {σ : Type} {host : Host σ} {unit : UnitId} {o : Option Thread}

lemma program_eq (h : Session host unit p env o) : env.program = p := by
  induction h with
  | new => rfl
  | start _ hstart ih => exact (Passed.of_startThread hstart).program.trans ih
  | setStatic _ hset ih => exact (Passed.of_setStatic hset).program.trans ih
  | @step m _ ih => exact (Machine.passed_step host unit m).program.trans ih
  | signal _ _ _ ih | setMask _ _ _ ih | kill _ _ ih | resume _ _ _ ih | suspend _ _ _ ih
  | drop _ ih => exact ih

/-- What holds of threads that have just been started, and goes on to hold as they rest and as they
carry out instructions, holds of all threads.  One case for each thing that can happen; the
induction is on the session. -/
lemma forall_threads {P : Thread → Prop} (hfresh : ∀ {t}, Fresh p t → P t)
    (hrest : ∀ {t} mask state, P t → P { t with mask := mask, state := state })
    (hstep : ∀ {m : Machine σ}, m.environment.program = p → m.thread.isFinished = false →
      P m.thread → P ((Machine.step host unit).run.run m).2.thread)
    (h : Session host unit p env o) :
    (∀ n t, env.threads.get? n = some t → P t) ∧ ∀ t, o = some t → P t := by
  have passed {env env' : Environment} {o : Option Thread} (h : Session host unit p env o)
      (henv : ∀ n t, env.threads.get? n = some t → P t) (hpassed : Passed [] env env') :
      ∀ n t, env'.threads.get? n = some t → P t := by
    intro n t ht
    rcases hpassed.others List.not_mem_nil ht with ht' | ⟨-, -, ht'⟩
    · exact henv n t ht'
    · rw [h.program_eq] at ht'
      exact hfresh ht'
  have removed {env : Environment} (henv : ∀ n t, env.threads.get? n = some t → P t)
      (n : ThreadId) : ∀ k t, (env.removeThread n).threads.get? k = some t → P t := by
    intro k t ht
    rw [Environment.removeThread, SortedTable.get?_erase] at ht
    split at ht
    · cases ht
    · exact henv k t ht
  induction h with
  | new =>
    constructor
    · rintro _ _ ⟨⟩
    · rintro _ ⟨⟩
  | start h hstart ih => exact ⟨passed h ih.1 (.of_startThread hstart), ih.2⟩
  | signal s sender _ ih =>
    exact ⟨fun n t ht => ih.1 n t (SortedTable.get?_eq_some_iff.2
      (List.mem_filter.1 (SortedTable.get?_eq_some_iff.1 ht)).1), ih.2⟩
  | setMask n mask _ ih =>
    refine ⟨fun k t ht => ?_, ih.2⟩
    rw [Environment.setMask, SortedTable.get?_modify] at ht
    split at ht
    · obtain ⟨t', ht', rfl⟩ := Option.map_eq_some_iff.1 ht
      exact hrest mask t'.state (ih.1 k t' ht')
    · exact ih.1 k t ht
  | setStatic h hset ih => exact ⟨passed h ih.1 (.of_setStatic hset), ih.2⟩
  | kill n _ ih => exact ⟨removed ih.1 n, ih.2⟩
  | @resume env n t state _ hget ih =>
    refine ⟨removed ih.1 n, ?_⟩
    rintro _ ⟨⟩
    exact hrest t.mask state (ih.1 n t hget)
  | @step m h ih =>
    refine ⟨passed h ih.1 (Machine.passed_step host unit m), ?_⟩
    rintro _ ⟨⟩
    cases hm : m.thread.isFinished with
    | true =>
      rw [Machine.step_of_isFinished hm]
      exact ih.2 _ rfl
    | false => exact hstep h.program_eq hm (ih.2 _ rfl)
  | @suspend env t n state _ ih =>
    refine ⟨fun k t' ht' => ?_, by rintro _ ⟨⟩⟩
    rw [Environment.putThread, SortedTable.get?_insert] at ht'
    split at ht'
    · cases ht'
      exact hrest t.mask state (ih.2 t rfl)
    · exact ih.1 k t' ht'
  | drop _ ih => exact ⟨ih.1, by rintro _ ⟨⟩⟩

theorem onChart (hp : p.Charted B) (h : Session host unit p env o) :
    env.OnChart B ∧ ∀ t, o = some t → t.OnChart B := by
  refine h.forall_threads (fun ht => ?_) (fun _ _ ht => ht) fun hprogram _ ht =>
    (Machine.onChart_step (by rwa [hprogram]) ht).1
  obtain ⟨f, hf, params, hframes⟩ := ht.frames
  intro frame hframe
  rw [hframes] at hframe
  cases List.mem_singleton.1 hframe
  exact hp.functions f hf

/-- In a session on a chart all opcodes are known. -/
lemma decoded_step (hp : p.Charted B) (h : Session host unit p env (some t)) {world : σ}
    {e : Failure} (he : ((Machine.step host unit).run.run ⟨world, env, t⟩).1 = .error e) :
    e.Decoded :=
  (Machine.onChart_step (by rwa [h.program_eq]) ((h.onChart hp).2 t rfl)).2 he

/-- The thread that is running goes on at a marked address. -/
lemma onChart_address (hp : p.Charted B) (h : Session host unit p env (some t))
    (ht : t.isFinished = false) : B t.address := by
  have hchart := (h.onChart hp).2 t rfl
  rw [Thread.OnChart] at hchart
  rw [Thread.address]
  rw [Thread.isFinished] at ht
  cases hframes : t.frames with
  | nil => rw [hframes] at ht; cases ht
  | cons frame rest => exact hchart frame (by rw [hframes]; exact List.mem_cons_self)

/-- A thread that is run goes on instruction by instruction; the induction is on the budget. -/
lemma run (hp : p.Charted B) (budget : Nat) {m : Machine σ}
    (h : Session host unit p m.environment (some m.thread)) :
    Session host unit p ((Machine.run host unit budget).run.run m).2.environment
        (some ((Machine.run host unit budget).run.run m).2.thread) ∧
      ∀ {e}, ((Machine.run host unit budget).run.run m).1 = .error e → e.Decoded := by
  induction budget generalizing m with
  | zero =>
    refine ⟨h, ?_⟩
    rintro _ ⟨⟩
    trivial
  | succ budget ih =>
    have hstep := h.step
    have hdecoded {e : Failure} (he : ((Machine.step host unit).run.run m).1 = .error e) :
        e.Decoded := h.decoded_step hp he
    rw [Machine.run, run_bind]
    revert hstep hdecoded
    rcases (Machine.step host unit).run.run m with ⟨e | _ | _, m'⟩ <;> intro hstep hdecoded
    · refine ⟨hstep, ?_⟩
      rintro _ ⟨⟩
      exact hdecoded rfl
    · exact ih hstep
    · exact ⟨hstep, by rintro _ ⟨⟩⟩

/-- A stored thread is taken up, run and put away or dropped. -/
lemma resumeStored (hp : p.Charted B) (h : Session host unit p env none) {budget : Nat} {world : σ}
    {answer : Except Failure Status} {m : Machine σ}
    (hresume : Machine.resumeStored host unit budget n world env = some (answer, m)) :
    Session host unit p m.environment none ∧ ∀ {e}, answer = .error e → e.Decoded := by
  obtain ⟨t, ht, hrun⟩ := Option.map_eq_some_iff.1 hresume
  have hsession : Session host unit p (env.removeThread n) (some t) := h.resume t.state ht
  obtain ⟨hafter, hdecoded⟩ := run (m := ⟨world, env.removeThread n, t⟩) hp budget hsession
  revert hrun hafter hdecoded
  rcases (Machine.run host unit budget).run.run ⟨world, env.removeThread n, t⟩ with
    ⟨e | status, m'⟩ <;> intro hrun hafter hdecoded
  · cases hrun
    refine ⟨hafter.drop, ?_⟩
    rintro _ ⟨⟩
    exact hdecoded rfl
  · cases status <;> cases hrun
    · exact ⟨hafter.drop, by rintro _ ⟨⟩⟩
    all_goals exact ⟨hafter.suspend n m'.thread.state, by rintro _ ⟨⟩⟩

end Session

end Lockstep.Script
