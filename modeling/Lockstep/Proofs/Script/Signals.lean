import Lockstep.Proofs.Script.Fault
import Lockstep.Proofs.Script.Threads
/-!
# Signals and other instructions that reach further

To say what becomes of the threads beside the one that runs, one has to know which instruction is
carried out.  `instruction?` is the next one of a machine.  A signal takes away the threads whose
masks it meets, and `Kills` says which; a start adds a thread with the mask of its starter; every
other instruction leaves the stored threads alone.
-/

namespace Lockstep.Script

namespace Machine

variable {σ : Type} {host : Host σ} {unit : UnitId} {m m' : Machine σ} {i : Instruction}
  {n : ThreadId} {t : Thread}

/-! ### Reading an instruction -/

/-- The instruction that a machine carries out next, if its thread is not finished and its next
words are an instruction. -/
def instruction? (m : Machine σ) : Option Instruction :=
  ((fetch : Exec σ Instruction).run.run m).1.toOption

/-- The machine once the words of the next instruction have been read. -/
def fetched (m : Machine σ) : Machine σ := ((fetch : Exec σ Instruction).run.run m).2

/-- A thread has read on in the innermost function. -/
def ReadsOn (t t' : Thread) : Prop :=
  ∃ k, t' = t.modifyFrame fun f => { f with address := f.address + k }

lemma modifyFrame_modifyFrame (t : Thread) (f g : Frame → Frame) :
    (t.modifyFrame f).modifyFrame g = t.modifyFrame (g ∘ f) := by
  rcases t with ⟨name, stack, _ | ⟨frame, rest⟩, mask, result, locals, state⟩ <;> rfl

/-- Two machines of which the second one has read on. -/
def FurtherOn (m m' : Machine σ) : Prop := ReadsOn m.thread m'.thread

instance : IsPreorder (Machine σ) FurtherOn where
  refl m := by
    refine ⟨0, ?_⟩
    rcases m.thread with ⟨name, stack, _ | ⟨frame, rest⟩, mask, result, locals, state⟩ <;> rfl
  trans := by
    rintro m₁ m₂ m₃ ⟨k, hk⟩ ⟨l, hl⟩
    refine ⟨k + l, ?_⟩
    rw [hl, hk, modifyFrame_modifyFrame]
    congr 1
    funext f
    simp [Nat.add_assoc]

lemma furtherOn_nextWord : Respects FurtherOn (nextWord : Exec σ UInt32) := by
  refine Respects.get.bind fun m => ?_
  split
  · exact .throw _
  · split
    · exact .throw _
    · exact Respects.bind (.modify fun m => ⟨1, rfl⟩) fun _ => .pure _

lemma furtherOn_fetch : Respects FurtherOn (fetch : Exec σ Instruction) := by
  refine Respects.get.bind fun m => furtherOn_nextWord.bind fun w => ?_
  split
  · exact .throw _
  · split
    · exact .pure _
    · exact furtherOn_nextWord.bind fun _ => .pure _
    · exact furtherOn_nextWord.bind fun _ => furtherOn_nextWord.bind fun _ => .pure _

@[simp] lemma world_fetched (m : Machine σ) : m.fetched.world = m.world :=
  ((respects_fetch : Inward fetch) m).2.symm

@[simp] lemma environment_fetched (m : Machine σ) : m.fetched.environment = m.environment :=
  ((respects_fetch : Inward fetch) m).1.symm

lemma readsOn_fetched (m : Machine σ) : ReadsOn m.thread m.fetched.thread := furtherOn_fetch m

/-- Reading on changes nothing but where the innermost function goes on. -/
lemma ReadsOn.eq {t' : Thread} (h : ReadsOn t t') :
    t' = { t with frames := t'.frames } ∧ t'.frames.tail = t.frames.tail ∧
      t'.isFinished = t.isFinished := by
  obtain ⟨k, rfl⟩ := h
  rcases t with ⟨name, stack, _ | ⟨frame, rest⟩, mask, result, locals, state⟩ <;>
    exact ⟨rfl, rfl, rfl⟩

lemma stack_fetched (m : Machine σ) : m.fetched.thread.stack = m.thread.stack := by
  rw [(readsOn_fetched m).eq.1]

lemma mask_fetched (m : Machine σ) : m.fetched.thread.mask = m.thread.mask := by
  rw [(readsOn_fetched m).eq.1]

lemma top_fetched (m : Machine σ) : m.fetched.thread.top = m.thread.top := by
  rw [Thread.top, stack_fetched, Thread.top]

lemma fetch_eq_ok (h : m.instruction? = some i) :
    (fetch : Exec σ Instruction).run.run m = (.ok i, m.fetched) := by
  rw [instruction?] at h
  rw [fetched]
  revert h
  rcases (fetch : Exec σ Instruction).run.run m with ⟨_ | j, m₁⟩ <;> intro h <;> cases h
  rfl

/-- A finished thread has no instruction to carry out. -/
lemma unfinished_of_instruction (h : m.instruction? = some i) : m.thread.isFinished = false := by
  rw [Thread.isFinished]
  cases hframes : m.thread.frames with
  | cons frame rest => rfl
  | nil =>
    have hfetch : (fetch : Exec σ Instruction).run.run m = (.error (.fault (.pastEnd 0)), m) := by
      have hword : (nextWord : Exec σ UInt32).run.run m = (.error (.fault (.pastEnd 0)), m) := by
        rw [nextWord, run_get_bind, hframes]
        rfl
      rw [fetch, run_get_bind, run_bind, hword]
    rw [instruction?, hfetch] at h
    cases h

/-- A step carries out the next instruction. -/
lemma step_of_instruction (h : m.instruction? = some i) :
    (step host unit).run.run m = (execute host unit i).run.run m.fetched := by
  rw [run_step, unfinished_of_instruction h, if_neg Bool.false_ne_true, run_bind, fetch_eq_ok h]

/-- A step without an instruction finds the thread finished or its words faulty. -/
lemma step_of_none (host : Host σ) (unit : UnitId) (h : m.instruction? = none) :
    (step host unit).run.run m = (.ok (some .finished), m) ∨
      ∃ e, (fetch : Exec σ Instruction).run.run m = (.error e, m.fetched) ∧
        (step host unit).run.run m = (.error e, m.fetched) := by
  rw [run_step]
  split
  · exact .inl rfl
  · rw [instruction?] at h
    rw [run_bind, fetched]
    revert h
    rcases (fetch : Exec σ Instruction).run.run m with ⟨e | i, m'⟩ <;> intro h
    · exact .inr ⟨e, rfl, rfl⟩
    · cases h

/-- A step without an instruction leaves everything but the thread alone. -/
lemma environment_step_of_none (h : m.instruction? = none) :
    ((step host unit).run.run m).2.environment = m.environment := by
  rcases step_of_none host unit h with hstep | ⟨e, -, hstep⟩
  · rw [hstep]
  · rw [hstep]
    exact environment_fetched m

/-! ### The instructions that matter to other threads -/

/-- The threads whose masks do not meet the signal stay as they are, and no others stay. -/
lemma get?_signal (env : Environment) (s : UInt32) (n : ThreadId) (t : Thread) :
    (env.signal s none).threads.get? n = some t ↔
      env.threads.get? n = some t ∧ t.mask &&& s = 0 := by
  rw [SortedTable.get?_eq_some_iff, SortedTable.get?_eq_some_iff]
  simp [Environment.signal, SortedTable.toList]

/-- A signal is sent to all threads that are stored; the one that runs goes on. -/
lemma step_signal (h : m.instruction? = some i) (hop : i.opcode = .signal) :
    (step host unit).run.run m =
      (.ok none, ⟨m.world, m.environment.signal m.thread.top.toUInt32 none,
        m.fetched.thread.pop⟩) := by
  rw [step_of_instruction h, execute, hop, ← top_fetched, ← environment_fetched, ← world_fetched]
  rfl

/-- A start answers with the script state in which the new thread is stored, or fails. -/
lemma step_start (h : m.instruction? = some i) (hop : i.opcode = .start) :
    (step host unit).run.run m =
      match m.environment.startThread i.first (m.thread.topMany i.second.toNat) m.thread.mask with
      | .ok (_, env) => (.ok none, ⟨m.world, env, m.fetched.thread.dropMany i.second.toNat⟩)
      | .error failure =>
        (.error failure, ⟨m.world, m.environment, m.fetched.thread.dropMany i.second.toNat⟩) := by
  have htop : m.thread.topMany i.second.toNat = m.fetched.thread.topMany i.second.toNat := by
    rw [Thread.topMany, Thread.topMany, stack_fetched]
  rw [step_of_instruction h, execute, hop, htop, ← mask_fetched, ← environment_fetched,
    ← world_fetched]
  show (Machine.start i.first (m.fetched.thread.topMany i.second.toNat) >>= fun _ =>
    pure none : Exec σ (Option Status)).run.run
      { m.fetched with thread := m.fetched.thread.dropMany i.second.toNat } = _
  rw [run_bind]
  have hstart : (Machine.start i.first (m.fetched.thread.topMany i.second.toNat) :
        Exec σ Unit).run.run
      { m.fetched with thread := m.fetched.thread.dropMany i.second.toNat } =
      (match m.fetched.environment.startThread i.first
          (m.fetched.thread.topMany i.second.toNat) m.fetched.thread.mask with
        | .ok (_, env) => set (⟨m.fetched.world, env,
            m.fetched.thread.dropMany i.second.toNat⟩ : Machine σ)
        | .error failure => throw failure : Exec σ PUnit).run.run
      { m.fetched with thread := m.fetched.thread.dropMany i.second.toNat } := rfl
  rw [hstart]
  cases m.fetched.environment.startThread i.first (m.fetched.thread.topMany i.second.toNat)
    m.fetched.thread.mask <;> rfl

/-- A start that does not fail stores a new thread, which has the parameters that were on top of the
stack and the mask of its starter. -/
lemma started_of_step {status : Option Status} (h : m.instruction? = some i)
    (hop : i.opcode = .start) (hstep : (step host unit).run.run m = (.ok status, m')) :
    status = none ∧ ∃ f, m.environment.program.function? i.first = some f ∧
      m'.environment.threads = m.environment.threads.insert ⟨m.environment.nextThread⟩
        (.start f.name f.address (m.thread.topMany i.second.toNat) m.thread.mask) := by
  rw [step_start h hop] at hstep
  split at hstep
  · rename_i k env henv
    obtain ⟨rfl, -, -, f, hf, hthreads⟩ := Passed.startThread_eq_ok henv
    cases hstep
    exact ⟨rfl, f, hf, hthreads⟩
  · cases hstep

/-- A machine is about to send a signal that kills a stored thread. -/
def Kills (m : Machine σ) (n : ThreadId) : Prop :=
  ∃ i t, m.instruction? = some i ∧ i.opcode = .signal ∧ m.environment.threads.get? n = some t ∧
    t.mask &&& m.thread.top.toUInt32 ≠ 0

theorem kills_iff : m.Kills n ↔
    (m.instruction?.any fun i => i.opcode = .signal) = true ∧
      ((m.environment.threads.get? n).any fun t =>
        t.mask &&& m.thread.top.toUInt32 ≠ 0) = true := by
  simp only [Option.any_eq_true, decide_eq_true_eq, Kills]
  constructor
  · rintro ⟨i, t, hi, hop, ht, hmask⟩
    exact ⟨⟨i, hi, hop⟩, t, ht, hmask⟩
  · rintro ⟨⟨i, hi, hop⟩, t, ht, hmask⟩
    exact ⟨i, t, hi, hop, ht, hmask⟩

instance (m : Machine σ) (n : ThreadId) : Decidable (m.Kills n) := decidable_of_iff _ kills_iff.symm

lemma Kills.not_stored (h : m.Kills n) :
    ((step host unit).run.run m).2.environment.threads.get? n = none := by
  obtain ⟨i, t, hi, hop, ht, hmask⟩ := h
  rw [step_signal hi hop]
  cases hget : (m.environment.signal m.thread.top.toUInt32 none).threads.get? n with
  | none => rfl
  | some t' =>
    obtain ⟨ht', hmask'⟩ := (get?_signal ..).1 hget
    rw [ht] at ht'
    cases ht'
    exact absurd hmask' hmask

/-- The stored threads stay the same. -/
def SameThreads (env env' : Environment) : Prop := env'.threads = env.threads

instance : IsPreorder Environment SameThreads where
  refl _ := rfl
  trans _ _ _ h h' := h'.trans h

/-- A relation that says nothing. -/
def Whatever (_ _ : σ) : Prop := True

instance : IsPreorder σ Whatever where
  refl _ := trivial
  trans _ _ _ _ _ := trivial

/-- Whatever is neither a start nor a signal leaves the stored threads alone. -/
lemma lawAt_sameThreads {op : Opcode} (hstart : op ≠ .start) (hsignal : op ≠ .signal) :
    LawAt op host unit SameThreads Whatever where
  start hop := absurd hop hstart
  signal hop := absurd hop hsignal
  static _ := by
    intro env env' index v h
    rw [Environment.setStatic] at h
    split at h
    · cases h
      rfl
    · cases h
  apply _ := trivial
  random _ := trivial

/-- A stored thread stays as it is in every step that does not kill it. -/
lemma get?_step (hn : n.val.toNat < m.environment.nextThread.toNat) (hkills : ¬m.Kills n)
    (ht : m.environment.threads.get? n = some t) :
    ((step host unit).run.run m).2.environment.threads.get? n = some t := by
  cases hi : m.instruction? with
  | none => rwa [environment_step_of_none hi]
  | some i =>
  by_cases hsignal : i.opcode = .signal
  · have hmask : t.mask &&& m.thread.top.toUInt32 = 0 := by
      by_contra hmask
      exact hkills ⟨i, t, hi, hsignal, ht, hmask⟩
    rw [step_signal hi hsignal]
    exact (get?_signal ..).2 ⟨ht, hmask⟩
  by_cases hstart : i.opcode = .start
  · rw [step_start hi hstart]
    split
    · rename_i k env henv
      obtain ⟨rfl, -, -, t', -, hthreads⟩ := Passed.startThread_eq_ok henv
      -- the new thread gets a number that no stored thread has
      have hne : ¬Ranked.rank n = Ranked.rank (⟨m.environment.nextThread⟩ : ThreadId) :=
        Nat.ne_of_lt hn
      rw [hthreads, SortedTable.get?_insert, if_neg hne]
      exact ht
    · exact ht
  · have hlaw : LawAt i.opcode host unit SameThreads Whatever := lawAt_sameThreads hstart hsignal
    have hsame := (hlaw.respects_execute m.fetched).1
    rw [environment_fetched] at hsame
    rw [step_of_instruction hi, hsame]
    exact ht

/-- The five ways are all open to a script, as far as numbers of threads are concerned. -/
lemma law_passed : Law host unit (Passed []) Whatever where
  toEnvironmentLaw := Passed.environmentLaw
  apply _ := trivial
  random _ := trivial

theorem passed_step (host : Host σ) (unit : UnitId) (m : Machine σ) :
    Passed [] m.environment ((step host unit).run.run m).2.environment := by
  have hlaw : Law host unit (Passed []) Whatever := law_passed
  exact (hlaw.respects_step m).1

end Machine

/-! ### While instructions are carried out -/

/-- The numbers of the stored threads have been given out. -/
def Numbered (env : Environment) : Prop :=
  ∀ {n t}, env.threads.get? n = some t → n.val.toNat < env.nextThread.toNat

variable {σ : Type} {env env' env'' : Environment} {l l' : List (Machine σ)} {n : ThreadId}

lemma Passed.numbered (h : Passed [] env env') (henv : Numbered env) : Numbered env' := by
  intro n t ht
  rcases h.others List.not_mem_nil ht with ht' | ⟨-, hlt, -⟩
  · exact Nat.lt_of_lt_of_le (henv ht') h.nextThread
  · exact hlt

/-- A thread that is not there any more does not come back by itself. -/
lemma Passed.absent (h : Passed [] env env') (hn : n.val.toNat < env.nextThread.toNat)
    (hget : env.threads.get? n = none) : env'.threads.get? n = none := by
  cases ht : env'.threads.get? n with
  | none => rfl
  | some t =>
    rcases h.others List.not_mem_nil ht with ht' | ⟨hle, -, -⟩
    · rw [hget] at ht'
      cases ht'
    · omega

/-- What becomes of the stored threads while the machines of a list carry out their instructions one
after the other: those that are not killed stay as they are, those that are killed are gone, and
what is gone does not come back. -/
structure Spared (l : List (Machine σ)) (env env' : Environment) : Prop where
  passed : Passed [] env env'
  absent : ∀ {n m}, n.val.toNat < env.nextThread.toNat → env.threads.get? n = none → m ∈ l →
    m.environment.threads.get? n = none
  kept : ∀ {n t}, env.threads.get? n = some t → (∀ m ∈ l, ¬m.Kills n) →
    env'.threads.get? n = some t
  killed : ∀ {n m}, m ∈ l → m.Kills n →
    n.val.toNat < env'.nextThread.toNat ∧ env'.threads.get? n = none
  later : l.Pairwise fun m m' => ∀ n, m.Kills n → m'.environment.threads.get? n = none
  seen : ∀ {n m}, m ∈ l → (m.environment.threads.get? n).isSome →
    (env'.threads.get? n).isSome ∨ ∃ m' ∈ l, m'.Kills n

namespace Spared

lemma refl (env : Environment) : Spared ([] : List (Machine σ)) env env where
  passed := .refl env
  absent _ _ h := absurd h List.not_mem_nil
  kept h _ := h
  killed h := absurd h List.not_mem_nil
  later := .nil
  seen h := absurd h List.not_mem_nil

lemma append (h : Spared l env env') (h' : Spared l' env' env'') :
    Spared (l ++ l') env env'' where
  passed := trans_of (Passed []) h.passed h'.passed
  absent hn hget hm := by
    rcases List.mem_append.1 hm with hm | hm
    · exact h.absent hn hget hm
    · exact h'.absent (Nat.lt_of_lt_of_le hn h.passed.nextThread) (h.passed.absent hn hget) hm
  kept hget hkills := h'.kept
    (h.kept hget fun m hm => hkills m (List.mem_append_left l' hm))
    fun m hm => hkills m (List.mem_append_right l hm)
  killed hm hkills := by
    rcases List.mem_append.1 hm with hm | hm
    · obtain ⟨hn, hget⟩ := h.killed hm hkills
      exact ⟨Nat.lt_of_lt_of_le hn h'.passed.nextThread, h'.passed.absent hn hget⟩
    · exact h'.killed hm hkills
  later := by
    refine List.pairwise_append.2 ⟨h.later, h'.later, fun m hm m' hm' n hkills => ?_⟩
    obtain ⟨hn, hget⟩ := h.killed hm hkills
    exact h'.absent hn hget hm'
  seen := fun {n m} hm hseen => by
    have first : (env'.threads.get? n).isSome → (env''.threads.get? n).isSome ∨
        ∃ m' ∈ l ++ l', m'.Kills n := fun hsome => by
      obtain ⟨t, ht⟩ := Option.isSome_iff_exists.1 hsome
      by_cases hkills : ∃ m' ∈ l', m'.Kills n
      · obtain ⟨m', hm', hkills⟩ := hkills
        exact .inr ⟨m', List.mem_append_right l hm', hkills⟩
      · rw [h'.kept ht fun m' hm' hk => hkills ⟨m', hm', hk⟩]
        exact .inl rfl
    rcases List.mem_append.1 hm with hm | hm
    · rcases h.seen hm hseen with hsome | ⟨m', hm', hkills⟩
      · exact first hsome
      · exact .inr ⟨m', List.mem_append_left l' hm', hkills⟩
    · rcases h'.seen hm hseen with hsome | ⟨m', hm', hkills⟩
      · exact .inl hsome
      · exact .inr ⟨m', List.mem_append_right l hm', hkills⟩

/-- A single instruction. -/
lemma step (host : Host σ) (unit : UnitId) {m : Machine σ} (hm : Numbered m.environment) :
    Spared [m] m.environment ((Machine.step host unit).run.run m).2.environment where
  passed := Machine.passed_step host unit m
  absent _ hget hmem := by rwa [List.mem_singleton.1 hmem]
  kept ht hkills := Machine.get?_step (hm ht) (hkills m List.mem_cons_self) ht
  killed hmem hkills := by
    rw [List.mem_singleton.1 hmem] at hkills
    obtain ⟨i, t, hi, hop, ht, hmask⟩ := hkills
    exact ⟨Nat.lt_of_lt_of_le (hm ht) (Machine.passed_step host unit m).nextThread,
      Machine.Kills.not_stored ⟨i, t, hi, hop, ht, hmask⟩⟩
  later := List.pairwise_singleton _ m
  seen := fun {n m'} hmem hseen => by
    rw [List.mem_singleton.1 hmem] at hseen
    obtain ⟨t, ht⟩ := Option.isSome_iff_exists.1 hseen
    by_cases hkills : m.Kills n
    · exact .inr ⟨m, List.mem_cons_self, hkills⟩
    · rw [Machine.get?_step (hm ht) hkills ht]
      exact .inl rfl

end Spared

end Lockstep.Script
