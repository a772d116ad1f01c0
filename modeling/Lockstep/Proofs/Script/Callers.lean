import Lockstep.Proofs.Script.CallStack
import Lockstep.Proofs.Script.Spelling
import Lockstep.Proofs.Script.Steadfast
import Lockstep.Proofs.World.Resume
import Lockstep.Script.Recorder
/-!
# Callers and the functions that they call

The stack of values belongs to all functions that a thread has entered, but each of them has a frame
of its own.  An instruction reads and writes the innermost frame only (`Machine.tail_suffix_step`),
so that a caller finds its own variables as it left them when the function that it called returns.
The instructions of a thread need not follow each other at once: in between it may be put away and
taken up again, and the world goes on (`Machine.Passage`).
-/

namespace Lockstep.Script

namespace Thread

variable {t t' : Thread} {d : Nat}

/-- How many functions have been entered and not yet left. -/
def depth (t : Thread) : Nat := t.frames.length

/-- The frames at the bottom, the outermost first. -/
def lowest (t : Thread) (d : Nat) : List Frame := t.frames.reverse.take d

lemma isFinished_iff : t.isFinished = true ↔ t.depth = 0 := by
  rw [isFinished, depth, List.isEmpty_iff, List.length_eq_zero_iff]

lemma isFinished_eq_false_iff : t.isFinished = false ↔ 0 < t.depth := by
  rw [Nat.pos_iff_ne_zero, Ne, ← isFinished_iff, Bool.not_eq_true]

lemma lowest_depth (t : Thread) : t.lowest t.depth = t.frames.reverse := by
  rw [lowest, depth, ← List.length_reverse, List.take_length]

/-- Below the innermost frame all is the same as long as the frames there remain. -/
lemma lowest_eq_of_suffix (h : t.frames.tail <:+ t'.frames) (hd : d < t.depth) :
    t'.lowest d = t.lowest d := by
  obtain ⟨top, htop⟩ := h
  rw [depth] at hd
  rw [lowest, lowest, ← htop]
  cases hframes : t.frames with
  | nil => simp [hframes] at hd
  | cons f rest =>
    rw [hframes, List.length_cons] at hd
    have hrest : d ≤ rest.reverse.length := by
      rw [List.length_reverse]
      omega
    rw [List.tail_cons, List.reverse_append, List.take_append_of_le_length hrest,
      List.reverse_cons, List.take_append_of_le_length hrest]

/-- No instruction touches more than the innermost frame, and none removes another one. -/
lemma tail_suffix_framesAfter (p : Program) (i : Instruction) (t : Thread) :
    t.frames.tail <:+ t.framesAfter p i := by
  have head (f : Frame → Frame) : t.frames.tail <:+ t.frames.modifyHead f := by
    rw [← List.tail_modifyHead (f := f)]
    exact List.tail_suffix _
  rw [framesAfter]
  split
  · exact head _
  · split
    · exact head _
    · exact List.tail_suffix _
  · split
    · exact (List.tail_suffix _).trans (List.suffix_cons ..)
    · exact List.tail_suffix _
  · exact List.suffix_refl _
  · exact head _
  · exact head _
  · exact List.tail_suffix _

/-- Only a return takes a frame off. -/
lemma depth_le_framesAfter (p : Program) {i : Instruction} (hop : i.opcode ≠ .leave) (t : Thread) :
    t.depth ≤ (t.framesAfter p i).length := by
  rw [framesAfter, depth]
  split
  · exact (List.length_modifyHead ..).ge
  · split
    · exact (List.length_modifyHead ..).ge
    · exact Nat.le_refl _
  · split
    · exact Nat.le_succ _
    · exact Nat.le_refl _
  · exact absurd ‹_› hop
  · exact (List.length_modifyHead ..).ge
  · exact (List.length_modifyHead ..).ge
  · exact Nat.le_refl _

end Thread

namespace Machine

variable {σ : Type} {host : Host σ} {unit : UnitId} {m m' : Machine σ} {i : Instruction}
  {t t' : Thread} {l : List (Machine σ)} {d : Nat} {f caller : Frame} {rest : List Frame}

/-! ### One instruction -/

lemma tail_frames_fetched (m : Machine σ) : m.fetched.thread.frames.tail = m.thread.frames.tail :=
  (readsOn_fetched m).eq.2.1

lemma depth_fetched (m : Machine σ) : m.fetched.thread.depth = m.thread.depth := by
  obtain ⟨k, hk⟩ := readsOn_fetched m
  rw [Thread.depth, hk, Thread.frames_modifyFrame, List.length_modifyHead, Thread.depth]

/-- The frames below the innermost one remain. -/
theorem tail_suffix_step (host : Host σ) (unit : UnitId) (m : Machine σ) :
    m.thread.frames.tail <:+ ((step host unit).run.run m).2.thread.frames := by
  cases hi : m.instruction? with
  | some i =>
    rw [frames_step host unit hi, ← tail_frames_fetched]
    exact Thread.tail_suffix_framesAfter ..
  | none =>
    rcases step_of_none host unit hi with hstep | ⟨e, -, hstep⟩
    · rw [hstep]
      exact List.tail_suffix _
    · rw [hstep, ← tail_frames_fetched]
      exact List.tail_suffix _

/-- A machine is about to leave a function, whose frame stands on others. -/
def Returns (m : Machine σ) (f : Frame) (rest : List Frame) : Prop :=
  m.thread.frames = f :: rest ∧ ∃ i, m.instruction? = some i ∧ i.opcode = .leave

/-- A machine is about to call a function that there is, from a frame that stands on others. -/
def Calls (m : Machine σ) (caller : Frame) (rest : List Frame) : Prop :=
  m.thread.frames = caller :: rest ∧ ∃ i f, m.instruction? = some i ∧ i.opcode = .call ∧
    m.environment.program.function? i.first = some f

lemma Returns.step (host : Host σ) (unit : UnitId) (h : m.Returns f rest) :
    ((step host unit).run.run m).1 = .ok none ∧
      ((step host unit).run.run m).2.thread.frames = rest ∧
      ((step host unit).run.run m).2.thread.result = m.thread.top ∧
      ((step host unit).run.run m).2.thread.resultLocals = f.locals := by
  obtain ⟨hframes, i, hi, hop⟩ := h
  have hleave : (Machine.step host unit).run.run m =
      (.ok none, { m.fetched with thread := m.fetched.thread.pop.leave m.fetched.thread.top }) := by
    rw [step_of_instruction hi, execute, hop]
    rfl
  have hfetched : m.fetched.thread.pop.frames =
      { f with address := f.address + (1 + i.opcode.operandCount) } :: rest := by
    rw [fetched_eq hi]
    exact frames_readOn hframes _
  rw [hleave, ← top_fetched m]
  simp only [Thread.leave, hfetched, and_self]

lemma Calls.step (host : Host σ) (unit : UnitId) (h : m.Calls caller rest) :
    ∃ entered, ((step host unit).run.run m).2.thread.frames =
      entered :: { caller with address := caller.address + 3 } :: rest := by
  obtain ⟨hframes, i, f, hi, hop, hf⟩ := h
  have hcount : 1 + i.opcode.operandCount = 3 := by rw [hop]; rfl
  refine ⟨Frame.enter f.address (m.fetched.thread.topMany i.second.toNat), ?_⟩
  rw [frames_step host unit hi, Thread.framesAfter, hop]
  simp only [hf]
  rw [fetched_eq hi, frames_readOn hframes, hcount]

/-- Only a return takes a frame off. -/
lemma exists_returns (h : ((step host unit).run.run m).2.thread.depth < m.thread.depth) :
    ∃ f rest, m.Returns f rest := by
  cases hi : m.instruction? with
  | none =>
    rcases step_of_none host unit hi with hstep | ⟨e, -, hstep⟩
    · rw [hstep] at h
      exact absurd h (Nat.lt_irrefl _)
    · rw [hstep, depth_fetched] at h
      exact absurd h (Nat.lt_irrefl _)
  | some i =>
    by_cases hop : i.opcode = .leave
    · cases hframes : m.thread.frames with
      | nil => simp [Thread.depth, hframes] at h
      | cons f rest => exact ⟨f, rest, hframes, i, hi, hop⟩
    · have hle := Thread.depth_le_framesAfter m.environment.program hop m.fetched.thread
      rw [depth_fetched, ← frames_step host unit hi] at hle
      exact absurd h (Nat.not_lt.2 hle)

/-! ### Many instructions -/

/-- A thread goes from one state to another in which it has carried out an instruction from each of
the machines of a list.  Between its instructions it may rest, and the world and the script state
may become whatever they like. -/
inductive Passage (host : Host σ) (unit : UnitId) : Thread → List (Machine σ) → Thread → Prop
  /-- Nothing happens. -/
  | nil (t : Thread) : Passage host unit t [] t
  /-- An instruction is carried out. -/
  | step {m : Machine σ} {l : List (Machine σ)} {t' : Thread} : m.thread.isFinished = false →
      Passage host unit ((step host unit).run.run m).2.thread l t' →
      Passage host unit m.thread (m :: l) t'
  /-- The thread is put away and taken up again; meanwhile its mask may be set. -/
  | rest {t t' : Thread} {l : List (Machine σ)} (mask : UInt32) (state : ThreadState) :
      Passage host unit { t with mask := mask, state := state } l t' → Passage host unit t l t'

namespace Passage

lemma trans {t'' : Thread} {l' : List (Machine σ)} (h : Passage host unit t l t')
    (h' : Passage host unit t' l' t'') : Passage host unit t (l ++ l') t'' := by
  induction h with
  | nil => exact h'
  | step hm _ ih => exact .step hm (ih h')
  | rest mask state _ ih => exact .rest mask state (ih h')

/-- The induction is on the instructions. -/
lemma lowest_eq (h : Passage host unit t l t') (hl : ∀ m ∈ l, d < m.thread.depth) :
    t'.lowest d = t.lowest d ∧ ∀ m ∈ l, m.thread.lowest d = t.lowest d := by
  induction h with
  | nil => exact ⟨rfl, nofun⟩
  | @step m l t' _ _ ih =>
    have hstep :=
      Thread.lowest_eq_of_suffix (tail_suffix_step host unit m) (hl m List.mem_cons_self)
    have ⟨hlast, hmid⟩ := ih fun m' hm' => hl m' (List.mem_cons_of_mem m hm')
    refine ⟨hlast.trans hstep, fun m' hm' => ?_⟩
    rcases List.mem_cons.1 hm' with rfl | hm'
    · rfl
    · exact (hmid m' hm').trans hstep
  | rest mask state _ ih => exact ih hl

/-- A thread that has carried out nothing has rested at most. -/
lemma of_nil (h : Passage host unit t [] t') :
    ∃ mask state, t' = { t with mask := mask, state := state } := by
  generalize hl : ([] : List (Machine σ)) = l at h
  induction h with
  | nil t => exact ⟨t.mask, t.state, rfl⟩
  | step => cases hl
  | rest mask state _ ih => exact ih hl

/-- After its last instruction a thread has rested at most. -/
lemma of_getLast? (h : Passage host unit t l t') (hm : l.getLast? = some m) :
    ∃ mask state, t' =
      { ((Machine.step host unit).run.run m).2.thread with mask := mask, state := state } := by
  induction h with
  | nil => cases hm
  | @step m₁ l t' _ hrest ih =>
    cases l with
    | nil =>
      cases hm
      exact hrest.of_nil
    | cons m₂ l => exact ih (List.getLast?_cons_cons.symm.trans hm)
  | rest mask state _ ih => exact ih hm

lemma depth_pos (h : Passage host unit t l t') (hm : m ∈ l) : 0 < m.thread.depth := by
  induction h with
  | nil => cases hm
  | step hfirst _ ih =>
    rcases List.mem_cons.1 hm with rfl | hm
    · exact Thread.isFinished_eq_false_iff.1 hfirst
    · exact ih hm
  | rest mask state _ ih => exact ih hm

/-- A thread that is not deeper than `d` carries out nothing as long as it is said to be deeper. -/
lemma eq_nil (h : Passage host unit t l t') (ht : t.depth ≤ d)
    (hl : ∀ m ∈ l, d < m.thread.depth) : l = [] := by
  induction h with
  | nil => rfl
  | @step m _ _ _ _ _ => exact absurd (hl m List.mem_cons_self) (Nat.not_lt.2 ht)
  | rest mask state _ ih => exact ih ht hl

/-- As long as a thread is deeper than `d` it stays so, until it returns from the frame above. -/
lemma deeper_or_returns (h : Passage host unit t l t') (ht : d < t.depth)
    (hl : ∀ m ∈ l, d < m.thread.depth) :
    d < t'.depth ∨ ∃ m f rest, l.getLast? = some m ∧ m.Returns f rest ∧ rest.length = d := by
  induction h with
  | nil => exact .inl ht
  | @step m l t' _ hrest ih =>
    have hl' : ∀ m ∈ l, d < m.thread.depth := fun m' hm' => hl m' (List.mem_cons_of_mem m hm')
    by_cases hdeep : d < ((Machine.step host unit).run.run m).2.thread.depth
    · rcases ih hdeep hl' with h | ⟨m', f, rest, hm', hreturns⟩
      · exact .inl h
      · refine .inr ⟨m', f, rest, ?_, hreturns⟩
        rw [List.getLast?_cons, hm', Option.getD_some]
    · cases hrest.eq_nil (Nat.le_of_not_lt hdeep) hl'
      obtain ⟨f, rest, hreturns⟩ := exists_returns (Nat.lt_of_le_of_lt (Nat.le_of_not_lt hdeep) ht)
      have hafter : rest.length ≤ d := by
        rw [← (hreturns.step host unit).2.1]
        exact Nat.le_of_not_lt hdeep
      rw [Thread.depth, hreturns.1, List.length_cons] at ht
      exact .inr ⟨m, f, rest, rfl, hreturns, by omega⟩
  | rest mask state _ ih => exact ih ht hl

/-- A thread is finished just if the last thing it has done was to return from its last frame. -/
lemma isFinished_iff (h : Passage host unit t l t') (ht : t.isFinished = false) :
    t'.isFinished = true ↔ ∃ m f, l.getLast? = some m ∧ m.Returns f [] := by
  constructor
  · intro hfinished
    have hl : ∀ m ∈ l, 0 < m.thread.depth := fun m hm => h.depth_pos hm
    rcases h.deeper_or_returns (Thread.isFinished_eq_false_iff.1 ht) hl with
      hdeep | ⟨m, f, rest, hm, hreturns, hrest⟩
    · exact absurd (Thread.isFinished_iff.1 hfinished) (Nat.pos_iff_ne_zero.1 hdeep)
    · cases List.eq_nil_of_length_eq_zero hrest
      exact ⟨m, f, hm, hreturns⟩
  · rintro ⟨m, f, hm, hreturns⟩
    obtain ⟨mask, state, rfl⟩ := h.of_getLast? hm
    rw [Thread.isFinished, (hreturns.step host unit).2.1]
    rfl

/-- When a function that was called has been left, its caller goes on behind the call. -/
lemma frames_eq_of_calls (hcalls : m.Calls caller rest)
    (h : Passage host unit ((Machine.step host unit).run.run m).2.thread l t')
    (hl : ∀ m' ∈ l, rest.length + 1 < m'.thread.depth) (ht' : t'.depth = rest.length + 1) :
    t'.frames = { caller with address := caller.address + 3 } :: rest := by
  obtain ⟨entered, hframes⟩ := hcalls.step host unit
  have hlowest := (h.lowest_eq hl).1
  rw [← ht', Thread.lowest_depth, ht', Thread.lowest, hframes, List.reverse_cons,
    List.take_left' (by simp)] at hlowest
  exact List.reverse_inj.1 hlowest

end Passage

/-! ### Threads that are run -/

/-- A thread that stops by itself, but not because it is finished, has functions left to leave. -/
lemma unfinished_of_stops {status : Status} (hm : m.thread.isFinished = false)
    (h : (step host unit).run.run m = (.ok (some status), m')) :
    status ≠ .finished ∧ m'.thread.isFinished = false := by
  constructor
  · rintro rfl
    rw [(step_eq_finished h).1] at hm
    cases hm
  · cases hm' : m'.thread.isFinished with
    | false => rfl
    | true =>
      have hdepth : ((step host unit).run.run m).2.thread.depth < m.thread.depth := by
        rw [h, Thread.isFinished_iff.1 hm']
        exact Thread.isFinished_eq_false_iff.1 hm
      obtain ⟨f, rest, hreturns⟩ := exists_returns hdepth
      have hnone := (hreturns.step host unit).1
      rw [h] at hnone
      cases hnone

/-- Whoever runs a thread takes it along a passage; the induction is on the budget. -/
lemma exists_passage_run (host : Host σ) (unit : UnitId) (budget : Nat) (m : Machine σ) :
    (∃ l, Passage host unit m.thread l ((run host unit budget).run.run m).2.thread) ∧
      ∀ {status}, ((run host unit budget).run.run m).1 = .ok status →
        (status = .finished ↔
          ((run host unit budget).run.run m).2.thread.isFinished = true) := by
  induction budget generalizing m with
  | zero => exact ⟨⟨[], .nil _⟩, by rintro _ ⟨⟩⟩
  | succ budget ih =>
    rw [run, run_bind]
    cases hm : m.thread.isFinished with
    | true =>
      rw [step_of_isFinished hm]
      refine ⟨⟨[], .nil _⟩, ?_⟩
      rintro status ⟨⟩
      exact iff_of_true rfl hm
    | false =>
    cases hstep : (step host unit).run.run m with
    | mk answer m₁ =>
    have hpassage {l t'} (h : Passage host unit m₁.thread l t') :
        Passage host unit m.thread (m :: l) t' := .step hm (by rwa [hstep])
    rcases answer with failure | _ | status
    · exact ⟨⟨[m], hpassage (.nil _)⟩, by rintro _ ⟨⟩⟩
    · obtain ⟨⟨l, hl⟩, hanswer⟩ := ih m₁
      exact ⟨⟨m :: l, hpassage hl⟩, hanswer⟩
    · obtain ⟨hstatus, hm₁⟩ := unfinished_of_stops hm hstep
      refine ⟨⟨[m], hpassage (.nil _)⟩, ?_⟩
      rintro status ⟨⟩
      exact iff_of_false hstatus (Bool.eq_false_iff.1 hm₁)

/-- The frames below the innermost one are protected: while a thread stays deeper than `d`, its
lowest `d` frames remain as they are; when a function that was called has been left, its caller goes
on behind the call with its own variables; a thread is finished exactly when it has returned from
its last frame, and then it has the result and the variables of that return.  Whoever runs a thread
takes it along such a passage, and answers that it is finished exactly when it is. -/
theorem callers_are_protected (host : Host σ) (unit : UnitId) :
    (∀ {t t' l d}, Passage host unit t l t' → (∀ m ∈ l, d < m.thread.depth) →
      t'.lowest d = t.lowest d ∧ ∀ m ∈ l, m.thread.lowest d = t.lowest d) ∧
    (∀ {m caller rest l t'}, m.Calls caller rest →
      Passage host unit ((step host unit).run.run m).2.thread l t' →
      (∀ m' ∈ l, rest.length + 1 < m'.thread.depth) → t'.depth = rest.length + 1 →
      t'.frames = { caller with address := caller.address + 3 } :: rest) ∧
    (∀ {t t' l}, Passage host unit t l t' → t.isFinished = false →
      (t'.isFinished = true ↔ ∃ m f, l.getLast? = some m ∧ m.Returns f []) ∧
      ∀ {m f}, l.getLast? = some m → m.Returns f [] →
        t'.result = m.thread.top ∧ t'.resultLocals = f.locals) ∧
    ∀ budget m, (∃ l, Passage host unit m.thread l ((run host unit budget).run.run m).2.thread) ∧
      ∀ {status}, ((run host unit budget).run.run m).1 = .ok status →
        (status = .finished ↔
          ((run host unit budget).run.run m).2.thread.isFinished = true) := by
  refine ⟨fun h hl => h.lowest_eq hl, fun hcalls h hl ht' => h.frames_eq_of_calls hcalls hl ht',
    fun h ht => ⟨h.isFinished_iff ht, fun hm hreturns => ?_⟩, exists_passage_run host unit⟩
  obtain ⟨mask, state, rfl⟩ := h.of_getLast? hm
  exact (hreturns.step host unit).2.2

namespace Sample

/-- A script that sets a variable, calls a function with a parameter, and returns the variable. -/
def calling : Program where
  words := #[Opcode.word .createLocal, Opcode.word .pushConstant, 7, Opcode.word .popLocal, 0,
    Opcode.word .pushConstant, 9, Opcode.word .call, 1, 1, Opcode.word .pushLocal, 0,
    Opcode.word .leave, Opcode.word .createLocal, Opcode.word .pushLocal, 0, Opcode.word .leave]
  functions := [⟨"Main", 0⟩, ⟨"Sub", 13⟩]
  pieces := []
  staticCount := 0

/-- The machine that runs the script, after a number of steps. -/
def afterSteps : Nat → Machine Recorder
  | 0 => ⟨.new 0, .new calling, .start "Main" 0 [] 0⟩
  | n + 1 => ((step Recorder.host ⟨0⟩).run.run (afterSteps n)).2

end Sample

/-- The caller goes on behind the call, and the thread ends with the result of the caller. -/
theorem callers_are_protected_calling :
    (Sample.afterSteps 4).Calls ⟨7, [7], 1⟩ [] ∧
      (Sample.afterSteps 8).thread.frames = [⟨10, [7], 1⟩] ∧
      (Sample.afterSteps 9).Returns ⟨12, [7], 1⟩ [] ∧
      (Sample.afterSteps 10).thread.result = 7 ∧
      (Sample.afterSteps 10).thread.resultLocals = [7] := by
  have hcalls : (Sample.afterSteps 4).Calls ⟨7, [7], 1⟩ [] :=
    ⟨by decide +kernel, ⟨.call, 1, 1⟩, ⟨"Sub", 13⟩, by decide +kernel, rfl, rfl⟩
  have hreturns : (Sample.afterSteps 9).Returns ⟨12, [7], 1⟩ [] :=
    ⟨by decide +kernel, ⟨.leave, 0, 0⟩, by decide +kernel, rfl⟩
  have hcalled : Passage Recorder.host ⟨0⟩ (Sample.afterSteps 5).thread
      [Sample.afterSteps 5, Sample.afterSteps 6, Sample.afterSteps 7]
      (Sample.afterSteps 8).thread :=
    .step (by decide +kernel) (.step (by decide +kernel) (.step (by decide +kernel) (.nil _)))
  have hlast : Passage Recorder.host ⟨0⟩ (Sample.afterSteps 8).thread
      [Sample.afterSteps 8, Sample.afterSteps 9] (Sample.afterSteps 10).thread :=
    .step (by decide +kernel) (.step (by decide +kernel) (.nil _))
  obtain ⟨-, hreturn, hfinish, -⟩ := callers_are_protected Recorder.host ⟨0⟩
  obtain ⟨-, hkept⟩ := hfinish hlast (by decide +kernel)
  exact ⟨hcalls, hreturn hcalls hcalled (by decide +kernel) (by decide +kernel), hreturns,
    (hkept rfl hreturns).1, (hkept rfl hreturns).2⟩

end Machine

end Lockstep.Script
