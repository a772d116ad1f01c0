import Lockstep.Proofs.World.Lineage
/-!
# Script states stay whole

While the scripts of a unit run, the script state is out of the unit, and the thread that runs is
out of the script state.  Both are put back, whatever the thread does: a thread is put back where no
other one has taken its place meanwhile, and a thread that was started for an answer is not put back
at all.  With the origins of the units this gives what can be relied on in every battle, which is
`script_states_stay_whole`.
-/

namespace Lockstep.World

open Script (Environment Machine Passed Thread Tidy)

/-! ### Taking a thread out and putting it back -/

/-- Resumes a thread that has been taken out: the script state that it leaves, and the thread if it
has to wait. -/
def resumeTakenOut (budget : Nat) (id : UnitId) (n : ThreadId) (t : Thread) (env : Environment) :
    Action (Environment × Option Thread) := do
  let w ← get
  match (resume id budget).run.run ⟨w, env, { t with state := .ready }⟩ with
  | (.ok none, m) =>
    set m.world
    return (m.environment, none)
  | (.ok (some state), m) =>
    set m.world
    return (m.environment, some { m.thread with state := state })
  | (.error (.fault error), m) =>
    set (m.world.note (.threadFaulted id n t.name error))
    return (m.environment, none)
  | (.error (.halt cause), m) =>
    set m.world
    throw (.halt cause)

/-- The visit of a thread up to the point at which the thread is put back: the script state at that
point, and the thread if it is put back. -/
def takeOut (budget : Nat) (id : UnitId) (env : Environment) (n : ThreadId) :
    Action (Environment × Option Thread) := do
  match env.threads.get? n with
  | none => return (env, none)
  | some t =>
    let rest := env.removeThread n
    match (← get).readiness id env.program t.state with
    | .waiting => return (rest, some t)
    | .faulty error =>
      modify (·.note (.threadFaulted id n t.name error))
      return (rest, none)
    | .ready => resumeTakenOut budget id n t rest
    | .missing piece =>
      modify (·.note (.awaitsMissingPiece id piece))
      resumeTakenOut budget id n t rest

/-- Puts a thread back, if there is one to be put back. -/
def putBack (n : ThreadId) : Environment × Option Thread → Environment
  | (env, none) => env
  | (env, some t) => env.putThread n t

variable {s : Setup} {past : List Step} {w w' : World} {id : UnitId} {budget : Nat}
  {env env' : Environment} {n : ThreadId} {t : Thread}

lemma resumeThread_on (budget : Nat) (id : UnitId) (n : ThreadId) (t : Thread)
    (env : Environment) (w : World) :
    (resumeThread budget id n t env).on w =
      (((resumeTakenOut budget id n t env).on w).1.map (putBack n),
        ((resumeTakenOut budget id n t env).on w).2) := by
  simp only [resumeThread, resumeTakenOut, Action.on_get_bind]
  rcases (resume id budget).run.run ⟨w, env, { t with state := .ready }⟩ with
    ⟨(error | cause) | (_ | state), m⟩ <;> rfl

/-- A visit is taking a thread out and putting it back. -/
lemma visitThread_on (budget : Nat) (id : UnitId) (env : Environment) (n : ThreadId) (w : World) :
    (visitThread budget id env n).on w =
      (((takeOut budget id env n).on w).1.map (putBack n),
        ((takeOut budget id env n).on w).2) := by
  rw [visitThread, takeOut]
  cases env.threads.get? n with
  | none => rfl
  | some t =>
  simp only [Action.on_get_bind]
  cases w.readiness id env.program t.state with
  | waiting => rfl
  | faulty error => rfl
  | ready => exact resumeThread_on ..
  | missing piece => exact resumeThread_on ..

/-- A thread that is to be put back has not been replaced meanwhile: the numbers of the threads that
are started are new ones. -/
lemma not_stored_of_takeOut (hn : n.val.toNat < env.nextThread.toNat)
    (h : (takeOut budget id env n).on w = (.ok (env', some t), w')) :
    env'.threads.get? n = none := by
  have removed : (env.removeThread n).threads.get? n = none := by
    rw [Environment.removeThread, SortedTable.get?_erase, if_pos rfl]
  have resumed : ∀ {t₀ w₀}, (resumeTakenOut budget id n t₀ (env.removeThread n)).on w₀ =
      (.ok (env', some t), w') → env'.threads.get? n = none := by
    intro t₀ w₀ h
    simp only [resumeTakenOut, Action.on_get_bind] at h
    have hpassed := ((scriptLaw_scripted id).respects_resume Passed.environmentLaw budget
      ⟨w₀, env.removeThread n, { t₀ with state := .ready }⟩).1
    revert h hpassed
    rcases (resume id budget).run.run ⟨w₀, env.removeThread n, { t₀ with state := .ready }⟩ with
      ⟨(error | cause) | (_ | state), m⟩ <;> intro h hpassed <;> cases h
    exact Passed.not_stored hn hpassed
  rw [takeOut] at h
  cases ht : env.threads.get? n with
  | none => rw [ht] at h; cases h
  | some t₀ =>
  simp only [ht, Action.on_get_bind] at h
  cases hr : w.readiness id env.program t₀.state with
  | waiting =>
    rw [hr] at h
    cases h
    exact removed
  | faulty error => rw [hr] at h; cases h
  | ready => rw [hr] at h; exact resumed h
  | missing piece => rw [hr] at h; exact resumed h

/-! ### All visits of a run -/

/-- The visits to the threads of a list one after the other, each with the world and the script
state that it begins from. -/
def visitsOf (budget : Nat) (id : UnitId) :
    List ThreadId → World → Environment → List (ThreadId × World × Environment)
  | [], _, _ => []
  | n :: rest, w, env => (n, w, env) ::
      match (visitThread budget id env n).on w with
      | (.ok env', w') => visitsOf budget id rest w' env'
      | (.error _, _) => []

/-- The visits to the threads of a unit when its scripts run. -/
def unitVisits (budget : Nat) (id : UnitId) (w : World) :
    List (ThreadId × World × Environment) :=
  match (w.units.get? id).bind UnitState.environment with
  | none => []
  | some env => visitsOf budget id env.threads.keys (w.detachEnvironment id) env

/-- The number of a thread has been given out when the thread is visited; the induction is on the
threads. -/
lemma lt_nextThread_of_mem_visitsOf {threads : List ThreadId} {w₁ : World} {env₁ : Environment}
    (hthreads : ∀ k ∈ threads, k.val.toNat < env.nextThread.toNat)
    (h : (n, w₁, env₁) ∈ visitsOf budget id threads w env) :
    n.val.toNat < env₁.nextThread.toNat := by
  induction threads generalizing w env with
  | nil => cases h
  | cons k rest ih =>
    rw [visitsOf] at h
    have hk := hthreads k List.mem_cons_self
    rcases List.mem_cons.1 h with h | h
    · cases h
      exact hk
    rcases visitThread_cases id budget hk w with ⟨cause, hcause⟩ | ⟨w', env', hon, -, hpassed⟩
    · revert hcause h
      rcases (visitThread budget id env k).on w with ⟨_ | _, _⟩ <;> intro h hcause
      · cases h
      · cases hcause
    · rw [hon] at h
      refine ih (fun k' hk' => ?_) h
      exact Nat.lt_of_lt_of_le (hthreads k' (List.mem_cons_of_mem k hk')) hpassed.nextThread

/-! ### The state of the scripts -/

/-- The script state of a unit has the program that the type of the unit had been given when the
unit was created, with all its static variables, and the numbers of its threads have been given
out. -/
structure Whole (d : Definitions) (past : List Step) (id : UnitId) (env : Environment) : Prop where
  created : ∃ st ∈ past, ∃ name, st.Creates id name
  program : ∀ st ∈ past, ∀ name, st.Creates id name → d.script name = .ok env.program
  statics : env.statics.length = env.program.staticCount
  stored : ∀ n t, env.threads.get? n = some t → n.val < env.nextThread

/-- In every battle, whatever the scripts are, every unit has its script state, and the script state
is whole.  A thread that was visited is put back only where no thread has its number.  A function
that is run at once leaves the script state in the unit and does not leave its thread there, whether
or not there is such a function, and however it ends. -/
theorem script_states_stay_whole (h : Run s past w) :
    (∀ {id u}, w.units.get? id = some u →
      ∃ env, u.environment = some env ∧ Whole s.definitions past id env) ∧
    (∀ {w₀ w₁ w₂ id budget n env₁ env₂ t}, Moment w w₀ →
      (n, w₁, env₁) ∈ unitVisits budget id w₀ →
      (takeOut budget id env₁ n).on w₁ = (.ok (env₂, some t), w₂) →
      (visitThread budget id env₁ n).on w₁ = (.ok (env₂.putThread n t), w₂) ∧
        env₂.threads.get? n = none) ∧
    ∀ {w₀ w' id u budget function params answer}, Moment w w₀ → w₀.units.get? id = some u →
      (runQuery budget id function params).on w₀ = (answer, w') →
      (∀ cause, answer ≠ .error (.halt cause)) →
      (∃ locals, answer = .ok locals) ∧ ∃ u' env', w'.units.get? id = some u' ∧
        u'.environment = some env' ∧
        ∀ n ∈ queryExecutions id function params w₀, env'.threads.get? n = none := by
  refine ⟨?_, ?_, ?_⟩
  · intro id u hu
    obtain ⟨env, henv, hstatics, hprogram⟩ := h.founded.script hu
    obtain ⟨env₁, henv₁, htidy⟩ := h.scheduled.environment hu
    rw [henv] at henv₁
    cases henv₁
    exact ⟨env, henv, h.founded.origin hu, hprogram, hstatics, fun n t ht =>
      UInt32.lt_iff_toNat_lt.2 (htidy.stored ht)⟩
  · intro w₀ w₁ w₂ id budget n env₁ env₂ t hmoment hvisit hout
    have hn : n.val.toNat < env₁.nextThread.toNat := by
      rw [unitVisits] at hvisit
      cases hu : w₀.units.get? id with
      | none => simp [hu] at hvisit
      | some u =>
        obtain ⟨env, henv, hstored⟩ := hmoment.environment h.scheduled hu
        rw [hu, Option.bind_some, henv] at hvisit
        exact lt_nextThread_of_mem_visitsOf hstored hvisit
    refine ⟨?_, not_stored_of_takeOut hn hout⟩
    rw [visitThread_on, hout]
    rfl
  · intro w₀ w' id u budget function params answer hmoment hu hon hanswer
    obtain ⟨env, henv, -⟩ := hmoment.environment h.scheduled hu
    rcases runQuery_cases budget function params hu henv with
      ⟨cause, hcause⟩ | ⟨w₁, locals, env₁, env', hon', hquery, hattached⟩
    · rw [hon] at hcause
      exact absurd hcause (hanswer cause)
    · rw [hon] at hon'
      cases hon'
      refine ⟨⟨locals, rfl⟩, ?_⟩
      have hattach := hattached.environments id
      rw [if_pos rfl, hu, Option.map_some] at hattach
      obtain ⟨u', hu', henv'⟩ := Option.map_eq_some_iff.1 hattach
      exact ⟨u', env', hu', henv', hquery.gone⟩

/-- A tank with a thread that sleeps and one that has not run: the latter is taken out, falls asleep
and is put back; a function that falls asleep has no answer and leaves nothing behind. -/
theorem script_states_stay_whole_asleep :
    let b := Sample.battle Sample.asleep
    Run Sample.setup b.1 b.2 ∧ ∃ u env, b.2.units.get? ⟨1⟩ = some u ∧ u.environment = some env ∧
      Whole Sample.definitions b.1 ⟨1⟩ env ∧
      (∃ w₁ w₂ env₁ t, ∃ env₂ : Environment, (⟨1⟩, w₁, env₁) ∈ unitVisits 9 ⟨1⟩ b.2 ∧
        (visitThread 9 ⟨1⟩ env₁ ⟨1⟩).on w₁ = (.ok (env₂.putThread ⟨1⟩ t), w₂) ∧
        env₂.threads.get? ⟨1⟩ = none) ∧
      queryExecutions ⟨1⟩ "create" [] b.2 = [⟨2⟩] ∧
      ∃ w' u', ∃ env' : Environment, (runQuery 9 ⟨1⟩ "create" []).on b.2 = (.ok none, w') ∧
        w'.units.get? ⟨1⟩ = some u' ∧ u'.environment = some env' ∧
        env'.threads.get? ⟨2⟩ = none := by
  obtain ⟨hcomplete, hunit, hvisit, hran, hanswer⟩ :
      Operation.AllComplete Sample.asleep Sample.start ∧
      ((Sample.battle Sample.asleep).2.units.get? ⟨1⟩).isSome = true ∧
      (∃ v ∈ unitVisits 9 ⟨1⟩ (Sample.battle Sample.asleep).2, v.1 = ⟨1⟩ ∧
        (((takeOut 9 ⟨1⟩ v.2.2 ⟨1⟩).on v.2.1).1.toOption.bind Prod.snd).isSome = true) ∧
      queryExecutions ⟨1⟩ "create" [] (Sample.battle Sample.asleep).2 = [⟨2⟩] ∧
      ((runQuery 9 ⟨1⟩ "create" []).on (Sample.battle Sample.asleep).2).1 = .ok none := by
    decide +kernel
  have hrun := Sample.run_battle hcomplete
  obtain ⟨u, hu⟩ := Option.isSome_iff_exists.1 hunit
  obtain ⟨hwhole, hvisits, hquery⟩ := script_states_stay_whole hrun
  obtain ⟨env, henv, hwhole⟩ := hwhole hu
  obtain ⟨⟨n, w₁, env₁⟩, hmem, rfl, hback⟩ := hvisit
  obtain ⟨env₂, t, w₂, hout⟩ : ∃ env₂ t w₂,
      (takeOut 9 ⟨1⟩ env₁ ⟨1⟩).on w₁ = (.ok (env₂, some t), w₂) := by
    revert hback
    rcases (takeOut 9 ⟨1⟩ env₁ ⟨1⟩).on w₁ with ⟨_ | ⟨env₂, _ | t⟩, w₂⟩ <;> intro hback
    · cases hback
    · cases hback
    · exact ⟨env₂, t, w₂, rfl⟩
  obtain ⟨w', hon⟩ : ∃ w', (runQuery 9 ⟨1⟩ "create" []).on (Sample.battle Sample.asleep).2 =
      (.ok none, w') := ⟨_, Prod.ext hanswer rfl⟩
  obtain ⟨-, u', env', hu', henv', hgone⟩ := hquery .between hu hon nofun
  refine ⟨hrun, u, env, hu, henv, hwhole, ?_, hran, ?_⟩
  · exact ⟨w₁, w₂, env₁, t, env₂, hmem, hvisits .between hmem hout⟩
  · exact ⟨w', u', env', hon, hu', henv', hgone _ (by rw [hran]; exact .head _)⟩

end Lockstep.World
