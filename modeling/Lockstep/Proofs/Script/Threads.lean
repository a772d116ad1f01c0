import Lockstep.Proofs.Script.Frame
/-!
# The threads beside the one that runs

While threads run, the other threads of the unit can be started and killed, but nothing else can
happen to them.  `Passed` says what may have become of the stored threads after some of them ran,
and `Tidy` what the stored threads tell of those that have run: a thread that is ready has not run
yet and is as it was started.
-/

namespace Lockstep.Script

open Ranked (rank)

/-- A thread that was started at a function and has not run: its stack is empty, and it is about to
enter the function, of which it has declared no local variable. -/
structure Fresh (p : Program) (t : Thread) : Prop where
  state : t.state = .ready
  stack : t.stack = []
  frames : ∃ f ∈ p.functions, ∃ params, t.frames = [⟨f.address, params, 0⟩]

/-- What becomes of the script state of a unit while the threads of a list run, each for a time.
Those that are stored again have to wait; of all the others, those that are stored are as they were,
or they have been started meanwhile. -/
structure Passed (ran : List ThreadId) (env env' : Environment) : Prop where
  program : env'.program = env.program
  nextThread : env.nextThread.toNat ≤ env'.nextThread.toNat
  waiting : ∀ {n t}, n ∈ ran → env'.threads.get? n = some t → t.state ≠ .ready
  others : ∀ {n t}, n ∉ ran → env'.threads.get? n = some t →
    env.threads.get? n = some t ∨
      (env.nextThread.toNat ≤ n.val.toNat ∧ n.val.toNat < env'.nextThread.toNat ∧
        Fresh env.program t)

namespace Passed

variable {ran ran' : List ThreadId} {env env' env'' : Environment} {n : ThreadId} {t : Thread}

lemma of_threads (hprogram : env'.program = env.program)
    (hnext : env'.nextThread = env.nextThread)
    (hthreads : ∀ {n t}, env'.threads.get? n = some t → env.threads.get? n = some t) :
    Passed [] env env' where
  program := hprogram
  nextThread := Nat.le_of_eq (congrArg UInt32.toNat hnext.symm)
  waiting h := absurd h List.not_mem_nil
  others _ h := .inl (hthreads h)

lemma refl (env : Environment) : Passed [] env env := .of_threads rfl rfl id

/-- Threads that were stored before the first of two rounds are not started anew in the second. -/
lemma append (hran : ∀ n ∈ ran, n.val.toNat < env.nextThread.toNat) (h : Passed ran env env')
    (h' : Passed ran' env' env'') : Passed (ran ++ ran') env env'' where
  program := h'.program.trans h.program
  nextThread := Nat.le_trans h.nextThread h'.nextThread
  waiting := fun {n t} hn ht => by
    by_cases hn' : n ∈ ran'
    · exact h'.waiting hn' ht
    · -- it ran in the first round only, and its number is too small to be given out again
      have hmem : n ∈ ran := (List.mem_append.1 hn).resolve_right hn'
      rcases h'.others hn' ht with ht' | ⟨hle, -, -⟩
      · exact h.waiting hmem ht'
      · have := hran n hmem
        have := h.nextThread
        omega
  others := fun {n t} hn ht => by
    rw [List.mem_append, not_or] at hn
    rcases h'.others hn.2 ht with ht' | ⟨hle, hlt, hfresh⟩
    · rcases h.others hn.1 ht' with ht'' | ⟨hle, hlt, hfresh⟩
      · exact .inl ht''
      · exact .inr ⟨hle, Nat.lt_of_lt_of_le hlt h'.nextThread, hfresh⟩
    · exact .inr ⟨Nat.le_trans h.nextThread hle, hlt, h.program ▸ hfresh⟩

instance : IsPreorder Environment (Passed []) where
  refl := refl
  trans _ _ _ h h' := h.append (fun _ hn => absurd hn List.not_mem_nil) h'

/-! ### What a script does to the other threads -/

lemma fresh_start {p : Program} {f : Function} {index : UInt32} (h : p.function? index = some f)
    (params : List Int32) (mask : UInt32) : Fresh p (.start f.name f.address params mask) :=
  ⟨rfl, rfl, f, List.mem_of_getElem? h, params, rfl⟩

lemma startThread_eq_ok {function : UInt32} {params : List Int32} {mask : UInt32}
    (h : env.startThread function params mask = .ok (n, env')) :
    n = ⟨env.nextThread⟩ ∧ env'.nextThread.toNat = env.nextThread.toNat + 1 ∧
      env'.program = env.program ∧ ∃ f, env.program.function? function = some f ∧
        env'.threads = env.threads.insert n (.start f.name f.address params mask) := by
  rw [Environment.startThread] at h
  split at h
  · cases h
  · rename_i f hf
    split at h
    · cases h
    · rename_i next hnext
      cases h
      exact ⟨rfl, Overflow.successor_eq_ok hnext, rfl, f, hf, rfl⟩

lemma of_startThread {function : UInt32} {params : List Int32} {mask : UInt32}
    (h : env.startThread function params mask = .ok (n, env')) : Passed [] env env' := by
  obtain ⟨rfl, hnext, hprogram, f, hf, hthreads⟩ := startThread_eq_ok h
  refine ⟨hprogram, by omega, fun hn => absurd hn List.not_mem_nil, fun {n t'} _ ht => ?_⟩
  rw [hthreads, SortedTable.get?_insert] at ht
  split at ht
  · rename_i hn
    cases Ranked.rank_eq_iff.1 hn
    cases ht
    exact .inr ⟨Nat.le_refl _, hnext ▸ Nat.lt_succ_self _, fresh_start hf params mask⟩
  · exact .inl ht

/-- A thread that is started by the name of its function gets the next number. -/
lemma startNamed_eq_some {name : String} {params : List Int32}
    (h : env.startNamed name params = .ok (some n, env')) :
    n = ⟨env.nextThread⟩ ∧ env'.nextThread.toNat = env.nextThread.toNat + 1 ∧
      ∃ t, Fresh env.program t ∧ env'.threads = env.threads.insert n t ∧ Passed [] env env' := by
  rw [Environment.startNamed] at h
  split at h
  · cases h
  · rename_i function _
    cases hs : env.startThread function params 0 with
    | error failure => rw [hs] at h; cases h
    | ok p =>
      rw [hs] at h
      cases h
      obtain ⟨hid, hnext, -, f, hf, hthreads⟩ := startThread_eq_ok hs
      exact ⟨hid, hnext, _, fresh_start hf params 0, hthreads, of_startThread hs⟩

/-- Nothing is started if there is no such function. -/
lemma startNamed_eq_none {name : String} {params : List Int32}
    (h : env.startNamed name params = .ok (none, env')) : env' = env := by
  rw [Environment.startNamed] at h
  split at h
  · cases h
    rfl
  · rename_i function _
    cases hs : env.startThread function params 0 with
    | error failure => rw [hs] at h; cases h
    | ok p => rw [hs] at h; cases h

/-- A thread that is started by the name of its function is stored. -/
lemma of_startNamed {name : String} {params : List Int32} {o : Option ThreadId}
    (h : env.startNamed name params = .ok (o, env')) :
    Passed [] env env' ∧ ∀ n, o = some n →
      n.val.toNat < env'.nextThread.toNat ∧ ∃ t, env'.threads.get? n = some t := by
  cases o with
  | none =>
    cases startNamed_eq_none h
    exact ⟨refl env, nofun⟩
  | some k =>
    obtain ⟨hid, hnext, t, -, hthreads, hpassed⟩ := startNamed_eq_some h
    refine ⟨hpassed, fun n hn => ?_⟩
    cases hn
    refine ⟨by rw [hid]; exact hnext ▸ Nat.lt_succ_self _, t, ?_⟩
    rw [hthreads, SortedTable.get?_insert, if_pos rfl]

lemma of_signal (env : Environment) (signal : UInt32) : Passed [] env (env.signal signal none) :=
  .of_threads rfl rfl fun h =>
    SortedTable.get?_eq_some_iff.2 (List.mem_filter.1 (SortedTable.get?_eq_some_iff.1 h)).1

lemma of_setStatic {index : UInt32} {v : Int32} (h : env.setStatic index v = .ok env') :
    Passed [] env env' := by
  rw [Environment.setStatic] at h
  split at h
  · cases h
    exact .of_threads rfl rfl id
  · cases h

/-- Whatever words a thread runs, it does no more to other threads than to start and kill them. -/
lemma environmentLaw : Machine.EnvironmentLaw (Passed []) where
  start := of_startThread
  signal := of_signal
  static := of_setStatic

/-! ### Taking a thread out and putting it back -/

lemma of_removeThread (env : Environment) (n : ThreadId) :
    Passed [] env (env.removeThread n) := by
  refine .of_threads rfl rfl fun h => ?_
  rw [Environment.removeThread, SortedTable.get?_erase] at h
  split at h
  · cases h
  · exact h

/-- A thread that was taken out does not come back by itself. -/
lemma not_stored (hn : n.val.toNat < env.nextThread.toNat)
    (h : Passed [] (env.removeThread n) env') : env'.threads.get? n = none := by
  cases ht : env'.threads.get? n with
  | none => rfl
  | some t =>
    rcases h.others List.not_mem_nil ht with ht' | ⟨hle, -, -⟩
    · rw [Environment.removeThread, SortedTable.get?_erase, if_pos rfl] at ht'
      cases ht'
    · exact absurd hn (Nat.not_lt.2 hle)

/-- A thread was taken out, ran, and is gone. -/
lemma run (hn : n.val.toNat < env.nextThread.toNat) (h : Passed [] (env.removeThread n) env') :
    Passed [n] env env' := by
  have h' := trans_of (Passed []) (of_removeThread env n) h
  refine ⟨h'.program, h'.nextThread, fun hmem ht => ?_, fun _ ht => h'.others List.not_mem_nil ht⟩
  rw [List.mem_singleton.1 hmem, not_stored hn h] at ht
  cases ht

/-- A thread was taken out, ran, and was put back to wait. -/
lemma run_putThread (hn : n.val.toNat < env.nextThread.toNat)
    (h : Passed [] (env.removeThread n) env') (ht : t.state ≠ .ready) :
    Passed [n] env (env'.putThread n t) := by
  have h' := run hn h
  refine ⟨h'.program, h'.nextThread, fun hmem hget => ?_, fun hmem hget => ?_⟩
  · rw [List.mem_singleton.1 hmem, Environment.putThread, SortedTable.get?_insert, if_pos rfl]
      at hget
    cases hget
    exact ht
  · have hne := mt Ranked.rank_eq_iff.1 (mt List.mem_singleton.2 hmem)
    rw [Environment.putThread, SortedTable.get?_insert, if_neg hne] at hget
    exact h'.others hmem hget

lemma putThread_removeThread (h : env.threads.get? n = some t) :
    (env.removeThread n).putThread n t = env := by
  show { env with threads := (env.threads.erase n).insert n t } = env
  have : (env.threads.erase n).insert n t = env.threads := SortedTable.ext fun k => by
    rw [SortedTable.get?_insert, SortedTable.get?_erase]
    split
    · rename_i hk
      cases Ranked.rank_eq_iff.1 hk
      exact h.symm
    · rfl
  rw [this]

end Passed

/-! ### The program and the variables -/

/-- The program stays the same, and so does the number of static variables. -/
structure Lasting (env env' : Environment) : Prop where
  program : env'.program = env.program
  statics : env'.statics.length = env.statics.length

namespace Lasting

variable {env env' : Environment}

instance : IsPreorder Environment Lasting where
  refl _ := ⟨rfl, rfl⟩
  trans _ _ _ h h' := ⟨h'.program.trans h.program, h'.statics.trans h.statics⟩

lemma removeThread (env : Environment) (n : ThreadId) : Lasting env (env.removeThread n) :=
  ⟨rfl, rfl⟩

lemma putThread (env : Environment) (n : ThreadId) (t : Thread) :
    Lasting env (env.putThread n t) :=
  ⟨rfl, rfl⟩

lemma of_startThread {function : UInt32} {params : List Int32} {mask : UInt32} {n : ThreadId}
    (h : env.startThread function params mask = .ok (n, env')) : Lasting env env' := by
  rw [Environment.startThread] at h
  split at h
  · cases h
  · split at h
    · cases h
    · cases h
      exact ⟨rfl, rfl⟩

lemma of_startNamed {name : String} {params : List Int32} {o : Option ThreadId}
    (h : env.startNamed name params = .ok (o, env')) : Lasting env env' := by
  rw [Environment.startNamed] at h
  split at h
  · cases h
    exact refl_of Lasting env
  · rename_i function _
    cases hs : env.startThread function params 0 with
    | error failure => rw [hs] at h; cases h
    | ok p =>
      rw [hs] at h
      cases h
      exact of_startThread hs

lemma of_setStatic {index : UInt32} {v : Int32} (h : env.setStatic index v = .ok env') :
    Lasting env env' := by
  rw [Environment.setStatic] at h
  split at h
  · cases h
    exact ⟨rfl, List.length_set⟩
  · cases h

lemma environmentLaw : Machine.EnvironmentLaw Lasting where
  start := of_startThread
  signal _ _ := ⟨rfl, rfl⟩
  static := of_setStatic

end Lasting

/-! ### What the stored threads tell -/

/-- The numbers that have been given out are less than the next one; of the stored threads exactly
those that have not run are ready, and they are as they were started. -/
structure Tidy (executed : ThreadId → Prop) (env : Environment) : Prop where
  number : ∀ {n}, executed n → n.val.toNat < env.nextThread.toNat
  stored : ∀ {n t}, env.threads.get? n = some t → n.val.toNat < env.nextThread.toNat
  ready : ∀ {n t}, env.threads.get? n = some t → (t.state = .ready ↔ ¬executed n)
  fresh : ∀ {n t}, env.threads.get? n = some t → t.state = .ready → Fresh env.program t

namespace Tidy

variable {executed : ThreadId → Prop} {ran : List ThreadId} {env env' : Environment}

lemma new (p : Program) (h : ∀ n, ¬executed n) : Tidy executed (.new p) where
  number hn := absurd hn (h _)
  stored := nofun
  ready := nofun
  fresh := nofun

lemma keys (h : Tidy executed env) :
    ∀ n ∈ env.threads.keys, n.val.toNat < env.nextThread.toNat := fun n hn => by
  obtain ⟨⟨k, t⟩, hmem, rfl⟩ := List.mem_map.1 hn
  exact h.stored (SortedTable.get?_eq_some_iff.2 hmem)

/-- Only the threads that run while others are started and killed count as executed from then on. -/
lemma passed (hran : ∀ n ∈ ran, n.val.toNat < env.nextThread.toNat) (h : Passed ran env env')
    (henv : Tidy executed env) : Tidy (fun n => executed n ∨ n ∈ ran) env' where
  number := fun {n} hn => Nat.lt_of_lt_of_le (hn.elim henv.number (hran n)) h.nextThread
  stored := fun {n t} ht => by
    by_cases hn : n ∈ ran
    · exact Nat.lt_of_lt_of_le (hran n hn) h.nextThread
    · rcases h.others hn ht with ht' | ⟨-, hlt, -⟩
      · exact Nat.lt_of_lt_of_le (henv.stored ht') h.nextThread
      · exact hlt
  ready := fun {n t} ht => by
    by_cases hn : n ∈ ran
    · simp [hn, h.waiting hn ht]
    · rcases h.others hn ht with ht' | ⟨hle, -, hfresh⟩
      · simpa [hn] using henv.ready ht'
      · -- a number that had not been given out yet is not in the record
        have hnew : ¬executed n := fun hx => absurd (henv.number hx) (Nat.not_lt.2 hle)
        simp [hn, hnew, hfresh.state]
  fresh := fun {n t} ht hready => by
    by_cases hn : n ∈ ran
    · exact absurd hready (h.waiting hn ht)
    · rw [h.program]
      rcases h.others hn ht with ht' | ⟨-, -, hfresh⟩
      · exact henv.fresh ht' hready
      · exact hfresh

end Tidy

end Lockstep.Script
