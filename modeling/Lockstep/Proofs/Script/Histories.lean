import Lockstep.Proofs.Script.Abreast
import Lockstep.Proofs.Script.Callers
import Lockstep.Proofs.Script.Chart
/-!
# What functions have carried out

A history says what a function was entered with and what it has carried out since.  From that follow
its local variables (`History.Describes`): there are as many as it has parameters or as it has
declared, whichever are more, and each holds what was popped into it last, or its parameter, or
zero.  Parameters and declared variables share their slots, but a declaration adds a slot only
behind all the others.  Each step of a thread keeps this true (`Machine.describes_step`), and so
does every passage (`Machine.Passage.describes`), through calls, loops and faults.
-/

namespace Lockstep.Script

lemma Frame.locals_declare (f : Frame) : f.declare.locals =
    if f.declared = f.locals.length then f.locals ++ [0] else f.locals := rfl

/-- A declaration leaves all variables that there are as they are. -/
lemma Frame.locals_prefix_declare (f : Frame) : f.locals <+: f.declare.locals := by
  rw [locals_declare]
  split
  · exact List.prefix_append ..
  · exact List.prefix_refl _

/-- An instruction that a function has carried out. -/
structure Act where
  /-- What has been carried out. -/
  instruction : Instruction
  /-- The value that was on top of the stack. -/
  top : Int32
deriving DecidableEq, Inhabited

/-- A local variable has been declared. -/
def Act.Declares (act : Act) : Prop := act.instruction.opcode = .createLocal

/-- The value from the top of the stack has been popped into a local variable. -/
def Act.Stores (act : Act) (i : Nat) : Prop :=
  act.instruction.opcode = .popLocal ∧ act.instruction.first.toNat = i

instance (act : Act) : Decidable act.Declares := inferInstanceAs (Decidable (_ = _))

instance (act : Act) (i : Nat) : Decidable (act.Stores i) := inferInstanceAs (Decidable (_ ∧ _))

lemma Act.Declares.not_stores {act : Act} (h : act.Declares) (i : Nat) : ¬act.Stores i :=
  fun hstores => by cases h.symm.trans hstores.1

/-- What a function was entered with and what it has carried out since. -/
structure History where
  /-- The parameters. -/
  params : List Int32
  /-- What has been carried out, the latest first. -/
  acts : List Act
deriving DecidableEq, Inhabited

namespace History

/-- The history of a function that has just been entered. -/
def enter (params : List Int32) : History := ⟨params, []⟩

/-- The history once something more has been carried out. -/
def add (a : History) (act : Act) : History := { a with acts := act :: a.acts }

/-- How often a local variable has been declared. -/
def declarations (a : History) : Nat := a.acts.countP fun act => act.Declares

/-- The last value that has been popped into a local variable, if one has. -/
def lastStored? (a : History) (i : Nat) : Option Int32 :=
  (a.acts.find? fun act => act.Stores i).map Act.top

/-- What a local variable holds: the last value that has been popped into it, else the parameter,
else zero. -/
def value (a : History) (i : Nat) : Int32 := (a.lastStored? i).getD (a.params.getD i 0)

variable {a : History} {act : Act} {f : Frame} {i : Nat}

lemma declarations_add (a : History) (act : Act) :
    (a.add act).declarations = a.declarations + if act.Declares then 1 else 0 := by
  simp [declarations, add, List.countP_cons]

lemma lastStored?_add (a : History) (act : Act) (i : Nat) :
    (a.add act).lastStored? i = if act.Stores i then some act.top else a.lastStored? i := by
  rw [lastStored?, add, List.find?_cons]
  by_cases h : act.Stores i
  · simp [h]
  · simp [h, lastStored?]

lemma value_add (a : History) (act : Act) (i : Nat) :
    (a.add act).value i = if act.Stores i then act.top else a.value i := by
  rw [value, lastStored?_add]
  split
  · rfl
  · rfl

/-- The local variables of a frame are those that follow from its history. -/
structure Describes (a : History) (f : Frame) : Prop where
  declared : f.declared = a.declarations
  length : f.locals.length = max a.params.length a.declarations
  value : ∀ i < f.locals.length, f.locals[i]? = some (a.value i)
  stored : ∀ i, (a.lastStored? i).isSome → i < f.locals.length

lemma describes_enter (address : Nat) (params : List Int32) :
    (enter params).Describes (.enter address params) where
  declared := rfl
  length := (Nat.max_zero params.length).symm
  value i hi := by
    have hi : i < params.length := hi
    simp [enter, Frame.enter, History.value, lastStored?, hi]
  stored _ h := by cases h

namespace Describes

/-- It does not matter where the function goes on. -/
lemma goOn (h : a.Describes f) (address : Nat) : a.Describes { f with address := address } :=
  ⟨h.declared, h.length, h.value, h.stored⟩

/-- Whatever neither declares nor stores is just added to the history. -/
lemma add (h : a.Describes f) (hdeclares : ¬act.Declares) (hstores : ∀ i, ¬act.Stores i) :
    (a.add act).Describes f where
  declared := by rw [declarations_add, if_neg hdeclares, h.declared, Nat.add_zero]
  length := by rw [declarations_add, if_neg hdeclares, h.length, Nat.add_zero]; rfl
  value i hi := by rw [value_add, if_neg (hstores i), h.value i hi]
  stored i hi := by
    rw [lastStored?_add, if_neg (hstores i)] at hi
    exact h.stored i hi

lemma counted (h : a.Describes f) : f.Counted := by
  rw [Frame.Counted, h.declared, h.length]
  exact Nat.le_max_right ..

/-- Behind the last variable nothing has been stored, and there is no parameter. -/
lemma value_length (h : a.Describes f) : a.value f.locals.length = 0 := by
  have hnone : a.lastStored? f.locals.length = none := by
    by_contra hsome
    exact absurd (h.stored _ (Option.isSome_iff_ne_none.2 hsome)) (Nat.lt_irrefl _)
  have hparams : a.params.length ≤ f.locals.length := by
    rw [h.length]
    exact Nat.le_max_left ..
  rw [History.value, hnone, Option.getD_none, List.getD_eq_getElem?_getD,
    List.getElem?_eq_none hparams, Option.getD_none]

/-- A declaration is a new variable only if all that there are have been declared. -/
lemma declare (h : a.Describes f) (hact : act.Declares) : (a.add act).Describes f.declare where
  declared := by
    rw [declarations_add, if_pos hact, ← h.declared]
    rfl
  length := by
    have hdeclared := h.declared
    have hlength := h.length
    show f.declare.locals.length = max a.params.length (a.add act).declarations
    rw [declarations_add, if_pos hact, Frame.locals_declare]
    split
    · rw [List.length_append, List.length_singleton]
      omega
    · omega
  value i hi := by
    rw [value_add, if_neg (hact.not_stores i)]
    rw [Frame.locals_declare] at hi ⊢
    split at hi
    · rw [if_pos ‹_›]
      rw [List.length_append, List.length_singleton] at hi
      rcases Nat.lt_succ_iff_lt_or_eq.1 hi with hlt | rfl
      · rw [List.getElem?_append_left hlt, h.value i hlt]
      · rw [List.getElem?_concat_length, h.value_length]
    · rw [if_neg ‹_›, h.value i hi]
  stored i hi := by
    rw [lastStored?_add, if_neg (hact.not_stores i)] at hi
    exact Nat.lt_of_lt_of_le (h.stored i hi) f.locals_prefix_declare.length_le

/-- A value is stored in a variable that there is. -/
lemma store (h : a.Describes f) (hact : act.Stores i) (hi : i < f.locals.length) :
    (a.add act).Describes { f with locals := f.locals.set i act.top } := by
  have hdeclares : ¬act.Declares := fun hdeclares => hdeclares.not_stores i hact
  have hstores (k : Nat) : act.Stores k ↔ i = k :=
    ⟨fun hk => hact.2.symm.trans hk.2, fun hk => hk ▸ hact⟩
  exact
    { declared := by rw [declarations_add, if_neg hdeclares, Nat.add_zero, ← h.declared]
      length := by
        rw [declarations_add, if_neg hdeclares, Nat.add_zero, List.length_set, h.length]
        rfl
      value := fun k hk => by
        rw [List.length_set] at hk
        rw [value_add, List.getElem?_set]
        simp only [hstores]
        split
        · rfl
        · exact h.value k hk
      stored := fun k hk => by
        rw [List.length_set]
        rw [lastStored?_add] at hk
        simp only [hstores] at hk
        split at hk
        · omega
        · exact h.stored k hk }

end Describes

end History

open History (Describes)

/-! ### One instruction -/

/-- The values that come off the stack one after the other. -/
def Thread.popped : Thread → Nat → List Int32
  | _, 0 => []
  | t, n + 1 => t.top :: t.pop.popped n

/-- The histories of the functions that a thread has entered and not yet left, once the innermost
has carried out an instruction. -/
def Thread.historiesAfter (i : Instruction) (t : Thread) (l : List History) : List History :=
  match i.opcode with
  | .call => .enter (t.popped i.second.toNat) :: l.modifyHead (·.add ⟨i, t.top⟩)
  | .leave => l.tail
  | _ => l.modifyHead (·.add ⟨i, t.top⟩)

namespace Thread

variable {t : Thread} {l : List History} {p : Program} {i : Instruction}

lemma topMany_eq_popped (t : Thread) (n : Nat) : t.topMany n = t.popped n := by
  induction n generalizing t with
  | zero => simp [topMany, popped]
  | succ n ih => rw [StackLaw.topMany_succ, popped, ih]

lemma popped_congr {t' : Thread} (h : t'.stack = t.stack) (n : Nat) :
    t'.popped n = t.popped n := by
  rw [← topMany_eq_popped, ← topMany_eq_popped, topMany, topMany, h]

/-- What is done to the innermost frame may be done to its history. -/
lemma describes_modifyHead {g : History → History} {k : Frame → Frame} {fs : List Frame}
    (h : List.Forall₂ Describes l fs)
    (hhead : ∀ a, ∀ f ∈ fs.head?, a.Describes f → (g a).Describes (k f)) :
    List.Forall₂ Describes (l.modifyHead g) (fs.modifyHead k) := by
  cases h with
  | nil => exact .nil
  | cons hfirst hrest => exact .cons (hhead _ _ rfl hfirst) hrest

lemma describes_tail {fs : List Frame} (h : List.Forall₂ Describes l fs) :
    List.Forall₂ Describes l.tail fs.tail := by
  cases h with
  | nil => exact .nil
  | cons _ hrest => exact hrest

/-- An instruction that is carried out is added to the history of the innermost function. -/
lemma describes_framesAfter (h : List.Forall₂ Describes l t.frames)
    (hcall : i.opcode = .call → p.function? i.first ≠ none)
    (hstore : i.opcode = .popLocal → ∀ f ∈ t.frames.head?, i.first.toNat < f.locals.length) :
    List.Forall₂ Describes (t.historiesAfter i l) (t.framesAfter p i) := by
  have other {k : Frame → Frame} (hdeclares : i.opcode ≠ .createLocal)
      (hstores : i.opcode ≠ .popLocal)
      (hk : ∀ (a : History) f, a.Describes f → a.Describes (k f)) :
      List.Forall₂ Describes (l.modifyHead (·.add ⟨i, t.top⟩)) (t.frames.modifyHead k) :=
    describes_modifyHead h fun a f _ ha => hk _ f (ha.add hdeclares fun _ hs => hstores hs.1)
  have same (hdeclares : i.opcode ≠ .createLocal) (hstores : i.opcode ≠ .popLocal) :
      List.Forall₂ Describes (l.modifyHead (·.add ⟨i, t.top⟩)) t.frames := by
    have := other (k := id) hdeclares hstores fun a f ha => ha
    rwa [List.modifyHead_id, id] at this
  obtain ⟨op, first, second⟩ := i
  cases op with
  | jump => exact other (by rintro ⟨⟩) (by rintro ⟨⟩) fun a f ha => ha.goOn _
  | jumpIfZero =>
    simp only [framesAfter]
    split
    · exact other (by rintro ⟨⟩) (by rintro ⟨⟩) fun a f ha => ha.goOn _
    · exact same (by rintro ⟨⟩) (by rintro ⟨⟩)
  | call =>
    simp only [framesAfter]
    cases hf : p.function? first with
    | none => exact absurd hf (hcall rfl)
    | some f =>
      rw [topMany_eq_popped]
      exact .cons (History.describes_enter _ _) (same (by rintro ⟨⟩) (by rintro ⟨⟩))
  | leave => exact describes_tail h
  | createLocal => exact describes_modifyHead h fun a f _ ha => ha.declare rfl
  | popLocal =>
    exact describes_modifyHead h fun a f hf ha => ha.store ⟨rfl, rfl⟩ (hstore rfl f hf)
  | _ => exact same (by rintro ⟨⟩) (by rintro ⟨⟩)

/-- An instruction that fails leaves the variables as they were. -/
lemma describes_framesAfter_of_fault (h : List.Forall₂ Describes l t.frames)
    (hleave : i.opcode ≠ .leave) (hdeclare : i.opcode ≠ .createLocal)
    (hcall : i.opcode = .call → p.function? i.first = none)
    (hstore : i.opcode = .popLocal → ∀ f ∈ t.frames.head?, f.locals.length ≤ i.first.toNat) :
    List.Forall₂ Describes l (t.framesAfter p i) := by
  have head {k : Frame → Frame} (hk : ∀ (a : History), ∀ f ∈ t.frames.head?, a.Describes f →
      a.Describes (k f)) : List.Forall₂ Describes l (t.frames.modifyHead k) := by
    have := describes_modifyHead (g := id) h hk
    rwa [List.modifyHead_id, id] at this
  obtain ⟨op, first, second⟩ := i
  cases op with
  | jump => exact head fun a f _ ha => ha.goOn _
  | jumpIfZero =>
    simp only [framesAfter]
    split
    · exact head fun a f _ ha => ha.goOn _
    · exact h
  | call =>
    simp only [framesAfter, hcall rfl]
    exact h
  | leave => exact absurd rfl hleave
  | createLocal => exact absurd rfl hdeclare
  | popLocal =>
    refine head fun a f hf ha => ?_
    rw [List.set_eq_of_length_le (hstore rfl f hf)]
    exact ha
  | _ => exact h

end Thread

namespace Machine

variable {σ : Type} {host : Host σ} {unit : UnitId} {m : Machine σ} {i : Instruction}
  {l : List History} {ms : List (Machine σ)} {t t' : Thread}

lemma step_createLocal (hi : m.instruction? = some i) (hop : i.opcode = .createLocal) :
    (step host unit).run.run m =
      (.ok none, { m.fetched with thread := m.fetched.thread.modifyFrame Frame.declare }) := by
  rw [step_of_instruction hi, execute, hop]
  rfl

/-- A declaration leaves the variables that there are as they are. -/
lemma exists_frames_step_createLocal {f : Frame} {rest : List Frame} (host : Host σ)
    (unit : UnitId) (hi : m.instruction? = some i) (hop : i.opcode = .createLocal)
    (hframes : m.thread.frames = f :: rest) :
    ∃ f', ((step host unit).run.run m).2.thread.frames = f' :: rest ∧ f.locals <+: f'.locals := by
  let g : Frame := { f with address := f.address + (1 + i.opcode.operandCount) }
  refine ⟨g.declare, ?_, g.locals_prefix_declare⟩
  rw [step_createLocal hi hop, fetched_eq hi]
  show ((m.readOn (1 + i.opcode.operandCount)).thread.modifyFrame Frame.declare).frames = _
  rw [Thread.frames_modifyFrame, frames_readOn hframes]
  rfl

lemma step_leave (hi : m.instruction? = some i) (hop : i.opcode = .leave) :
    (step host unit).run.run m =
      (.ok none, { m.fetched with thread := m.fetched.thread.pop.leave m.fetched.thread.top }) := by
  rw [step_of_instruction hi, execute, hop]
  rfl

/-- A call fails just if there is no such function. -/
lemma step_call (hi : m.instruction? = some i) (hop : i.opcode = .call) :
    ((step host unit).run.run m).1 = match m.environment.program.function? i.first with
      | some _ => .ok none
      | none => .error (.fault (.unknownFunction i.first)) := by
  have hcall : execute host unit i =
      popMany i.second.toNat >>= fun params => call i.first params >>= fun _ => pure none := by
    rw [execute, hop]
  rw [step_of_instruction hi, hcall, ← environment_fetched]
  show ((call i.first (m.fetched.thread.topMany i.second.toNat) >>= fun _ => pure none :
    Exec σ (Option Status)).run.run
      { m.fetched with thread := m.fetched.thread.dropMany i.second.toNat }).1 = _
  rw [run_bind, call, run_get_bind]
  cases m.fetched.environment.program.function? i.first <;> rfl

/-- A value is popped into a local variable just if there is one with that number. -/
lemma step_popLocal {f : Frame} {rest : List Frame} (hi : m.instruction? = some i)
    (hop : i.opcode = .popLocal) (hframes : m.fetched.thread.frames = f :: rest) :
    ((step host unit).run.run m).1 =
      if i.first.toNat < f.locals.length then .ok none
      else .error (.fault (.noLocal i.first f.locals.length)) := by
  have hstore : execute host unit i =
      pop >>= fun v => setLocal i.first v >>= fun _ => pure none := by
    rw [execute, hop]
  rw [step_of_instruction hi, hstore]
  show ((setLocal i.first m.fetched.thread.top >>= fun _ => pure none :
    Exec σ (Option Status)).run.run { m.fetched with thread := m.fetched.thread.pop }).1 = _
  have hpopped : m.fetched.thread.pop.frames = f :: rest := hframes
  rw [run_bind, setLocal, run_get_bind]
  simp only [hpopped]
  by_cases hlt : i.first.toNat < f.locals.length
  · rw [if_pos hlt, if_pos hlt]
    rfl
  · rw [if_neg hlt, if_neg hlt]
    rfl

/-- The histories of the functions that the thread has entered and not yet left, after a step.  An
instruction that fails has not been carried out. -/
def historiesAfter (host : Host σ) (unit : UnitId) (m : Machine σ) (l : List History) :
    List History :=
  match ((step host unit).run.run m).1, m.instruction? with
  | .ok _, some i => m.thread.historiesAfter i l
  | _, _ => l

/-- The histories of the functions that a thread has entered and not yet left, after some steps. -/
def historiesAlong (host : Host σ) (unit : UnitId) (l : List History) (ms : List (Machine σ)) :
    List History :=
  ms.foldl (fun l m => m.historiesAfter host unit l) l

/-- Reading the words of an instruction changes no variables. -/
lemma describes_fetched (h : List.Forall₂ Describes l m.thread.frames) :
    List.Forall₂ Describes l m.fetched.thread.frames := by
  obtain ⟨k, hk⟩ := readsOn_fetched m
  have hread := Thread.describes_modifyHead (g := id)
    (k := fun f => { f with address := f.address + k }) h fun a f _ ha => ha.goOn _
  rw [hk, Thread.frames_modifyFrame]
  rwa [List.modifyHead_id, id] at hread

/-- The histories go on as the thread does. -/
theorem describes_step (host : Host σ) (unit : UnitId)
    (h : List.Forall₂ Describes l m.thread.frames) :
    List.Forall₂ Describes (m.historiesAfter host unit l)
      ((step host unit).run.run m).2.thread.frames := by
  have hfetched := describes_fetched h
  cases hi : m.instruction? with
  | none =>
    have hsame : m.historiesAfter host unit l = l := by
      rw [historiesAfter, hi]
      split <;> trivial
    rw [hsame]
    rcases step_of_none host unit hi with hstep | ⟨e, -, hstep⟩
    · rwa [hstep]
    · rwa [hstep]
  | some i =>
  have hthread : m.thread.historiesAfter i l = m.fetched.thread.historiesAfter i l := by
    simp only [Thread.historiesAfter, top_fetched, Thread.popped_congr (stack_fetched m)]
  have hframe : ∀ f ∈ m.fetched.thread.frames.head?, i.opcode = .popLocal →
      ((step host unit).run.run m).1 =
        if i.first.toNat < f.locals.length then .ok none
        else .error (.fault (.noLocal i.first f.locals.length)) := by
    intro f hf hop
    obtain ⟨rest, hrest⟩ := List.head?_eq_some_iff.1 hf
    exact step_popLocal hi hop hrest
  rw [frames_step host unit hi]
  cases hanswer : ((step host unit).run.run m).1 with
  | error e =>
    have hsame : m.historiesAfter host unit l = l := by
      rw [historiesAfter, hanswer]
    rw [hsame]
    refine Thread.describes_framesAfter_of_fault hfetched (fun hop => ?_) (fun hop => ?_)
      (fun hop => ?_) fun hop f hf => ?_
    · rw [step_leave hi hop] at hanswer
      cases hanswer
    · rw [step_createLocal hi hop] at hanswer
      cases hanswer
    · rw [step_call hi hop] at hanswer
      split at hanswer
      · cases hanswer
      · assumption
    · rw [hframe f hf hop] at hanswer
      split at hanswer
      · cases hanswer
      · exact Nat.le_of_not_lt ‹_›
  | ok status =>
    have hmore : m.historiesAfter host unit l = m.fetched.thread.historiesAfter i l := by
      rw [← hthread, historiesAfter, hanswer, hi]
    rw [hmore]
    refine Thread.describes_framesAfter hfetched (fun hop hnone => ?_) fun hop f hf => ?_
    · rw [step_call hi hop, hnone] at hanswer
      cases hanswer
    · rw [hframe f hf hop] at hanswer
      split at hanswer
      · assumption
      · cases hanswer

/-! ### Many instructions -/

/-- The induction is on the instructions. -/
theorem Passage.describes (h : Passage host unit t ms t')
    (ht : List.Forall₂ Describes l t.frames) :
    List.Forall₂ Describes (historiesAlong host unit l ms) t'.frames := by
  induction h generalizing l with
  | nil => exact ht
  | step _ _ ih => exact ih (describes_step host unit ht)
  | rest _ _ _ ih => exact ih ht

/-- A thread that has just been started has a history to begin with. -/
lemma Passage.describes_of_enter {address : Nat} {params : List Int32}
    (hframes : t.frames = [.enter address params]) (h : Passage host unit t ms t') :
    List.Forall₂ Describes (historiesAlong host unit [.enter params] ms) t'.frames := by
  refine h.describes ?_
  rw [hframes]
  exact .cons (History.describes_enter address params) .nil

end Machine

/-- A frame has no fewer variables than have been declared in it. -/
lemma Thread.counted_of_describes {l : List History} {t : Thread}
    (h : List.Forall₂ Describes l t.frames) : t.Counted := by
  rw [Counted]
  generalize t.frames = frames at h
  induction h with
  | nil => exact List.forall_mem_nil _
  | cons hfirst _ ih => exact List.forall_mem_cons.2 ⟨hfirst.counted, ih⟩

/-- All threads of a session have come by passages from threads that had just been started. -/
lemma Session.exists_passage {σ : Type} {host : Host σ} {unit : UnitId} {p : Program}
    {env : Environment} {o : Option Thread} (h : Session host unit p env o) :
    (∀ n t, env.threads.get? n = some t → ∃ t₀ ms, Fresh p t₀ ∧ Machine.Passage host unit t₀ ms t) ∧
      ∀ t, o = some t → ∃ t₀ ms, Fresh p t₀ ∧ Machine.Passage host unit t₀ ms t := by
  refine h.forall_threads (fun {t} ht => ⟨t, [], ht, .nil t⟩) ?_ ?_
  · rintro t mask state ⟨t₀, ms, hfresh, hpassage⟩
    exact ⟨t₀, _, hfresh, hpassage.trans (.rest mask state (.nil _))⟩
  · rintro m - hm ⟨t₀, ms, hfresh, hpassage⟩
    exact ⟨t₀, _, hfresh, hpassage.trans (.step hm (.nil _))⟩

end Lockstep.Script
