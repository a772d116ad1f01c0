import Lockstep.Proofs.Script.Threads
import Lockstep.Proofs.World.Resume
/-!
# The visits to the threads of a unit

When the scripts of a unit run, the threads that are stored at that time are visited one after the
other.  A visit executes the thread or it does not; `Visit` says what either comes to, and `Visits`
what all of them come to.  `unitExecutions` are the threads that are executed.  A function that is
run at once is a thread of its own, which is not visited and not stored.
-/

namespace Lockstep.World

open Script (Environment Lasting Machine Passed Program Thread ThreadState)

/-- A thread can go on: it waits for nothing, or for something that does not exist. -/
def Readiness.goesOn : Readiness → Bool
  | ready => true
  | waiting => false
  | missing _ => true
  | faulty _ => false

/-- Whether a thread is executed when it is visited. -/
def executes (w : World) (id : UnitId) (env : Environment) (n : ThreadId) : Bool :=
  (env.threads.get? n).any fun t => (w.readiness id env.program t.state).goesOn

/-- The threads of a list that are executed when they are visited one after the other. -/
def executedOf (budget : Nat) (id : UnitId) : List ThreadId → World → Environment → List ThreadId
  | [], _, _ => []
  | n :: rest, w, env =>
    [n].filter (w.executes id env) ++
      match (visitThread budget id env n).on w with
      | (.ok env', w') => executedOf budget id rest w' env'
      | (.error _, _) => []

/-- The threads that are executed when the scripts of a unit run. -/
def unitExecutions (budget : Nat) (id : UnitId) (w : World) : List ThreadId :=
  match (w.units.get? id).bind UnitState.environment with
  | none => []
  | some env => executedOf budget id env.threads.keys (w.detachEnvironment id) env

/-- The piece that a thread waits for, and what it waits for to end. -/
inductive Awaits : ThreadState → UInt32 → (Piece → Bool) → Prop
  | move {piece axis} : Awaits (.awaitingMove piece axis) piece fun q => q.isMoving axis
  | turn {piece axis} : Awaits (.awaitingTurn piece axis) piece fun q => q.isTurning axis

/-- When a thread can go on, when it has to wait, and when what it waits for does not exist. -/
inductive HasReadiness (w : World) (id : UnitId) (p : Program) : ThreadState → Readiness → Prop
  | ready : HasReadiness w id p .ready .ready
  | awake {wakeAt} : wakeAt ≤ w.time → HasReadiness w id p (.sleeping wakeAt) .ready
  | asleep {wakeAt} : w.time < wakeAt → HasReadiness w id p (.sleeping wakeAt) .waiting
  | still {state piece isBusy name u q} : Awaits state piece isBusy →
      p.pieceName? piece = some name → w.units.get? id = some u → u.piece? name = some q →
      isBusy q = false → HasReadiness w id p state .ready
  | busy {state piece isBusy name u q} : Awaits state piece isBusy →
      p.pieceName? piece = some name → w.units.get? id = some u → u.piece? name = some q →
      isBusy q = true → HasReadiness w id p state .waiting
  | missing {state piece isBusy name} : Awaits state piece isBusy →
      p.pieceName? piece = some name → (∀ u, w.units.get? id = some u → u.piece? name = none) →
      HasReadiness w id p state (.missing name)
  | faulty {state piece isBusy} : Awaits state piece isBusy → p.pieceName? piece = none →
      HasReadiness w id p state (.faulty (.unknownPiece piece))

/-- A thread that is executed is taken out and runs from this machine; that it waits for a piece
that its unit does not have is noted before. -/
inductive Awake (w : World) (id : UnitId) (env : Environment) (n : ThreadId) (t : Thread) :
    Machine World → Prop
  | ready : HasReadiness w id env.program t.state .ready →
      Awake w id env n t ⟨w, env.removeThread n, { t with state := .ready }⟩
  | missing {piece : String} : HasReadiness w id env.program t.state (.missing piece) →
      Awake w id env n t
        ⟨w.note (.awaitsMissingPiece id piece), env.removeThread n, { t with state := .ready }⟩

/-- The visit of a thread: the threads that it executes, and the world and the script state before
and after it. -/
inductive Visit (id : UnitId) (n : ThreadId) (w : World) (env : Environment) :
    List ThreadId → World → Environment → Prop
  /-- The thread has been killed; it is skipped. -/
  | gone : env.threads.get? n = none → Visit id n w env [] w env
  /-- The thread waits for a piece whose number is not in the table; it is taken away. -/
  | lost {t piece isBusy} : env.threads.get? n = some t → Awaits t.state piece isBusy →
      env.program.pieceName? piece = none →
      Visit id n w env [] (w.note (.threadFaulted id n t.name (.unknownPiece piece)))
        (env.removeThread n)
  /-- The thread has to wait; nothing changes. -/
  | kept {t} : env.threads.get? n = some t → HasReadiness w id env.program t.state .waiting →
      Visit id n w env [] w env
  /-- The thread finishes. -/
  | finished {t m m'} : env.threads.get? n = some t → Awake w id env n t m →
      Runs id m (.ok none) m' → m'.environment.threads.get? n = none →
      Visit id n w env [n] m'.world m'.environment
  /-- The thread is faulty. -/
  | faulted {t m m' e} : env.threads.get? n = some t → Awake w id env n t m →
      Runs id m (.error e) m' → m'.environment.threads.get? n = none →
      Visit id n w env [n] (m'.world.note (.threadFaulted id n t.name e)) m'.environment
  /-- The thread is suspended; it is stored again and waits. -/
  | suspended {t m m' state} : env.threads.get? n = some t → Awake w id env n t m →
      Runs id m (.ok (some state)) m' → state ≠ .ready →
      Visit id n w env [n] m'.world
        (m'.environment.putThread n { m'.thread with state := state })

/-- Visits to the threads of a list one after the other. -/
inductive Visits (id : UnitId) : List ThreadId → List ThreadId → World → Environment →
    World → Environment → Prop
  | nil {w env} : Visits id [] [] w env w env
  | cons {n rest ran ran' w env w₁ env₁ w' env'} : Visit id n w env ran w₁ env₁ →
      Visits id rest ran' w₁ env₁ w' env' → Visits id (n :: rest) (ran ++ ran') w env w' env'

variable {w w' : World} {id : UnitId} {env env' : Environment} {n : ThreadId} {t : Thread}

/-! ### One visit -/

lemma hasReadiness_pieceReadiness {p : Program} {state : ThreadState} {piece : UInt32}
    {isBusy : Piece → Bool} (h : Awaits state piece isBusy) :
    HasReadiness w id p state (w.pieceReadiness id p piece isBusy) := by
  rw [pieceReadiness]
  cases hp : p.pieceName? piece with
  | none => exact .faulty h hp
  | some name =>
  simp only
  cases hu : w.units.get? id with
  | none =>
    refine .missing h hp fun u hu' => ?_
    rw [hu] at hu'
    cases hu'
  | some u =>
  rw [Option.bind_some]
  cases hq : u.piece? name with
  | none =>
    refine .missing h hp fun u' hu' => ?_
    rw [hu] at hu'
    cases hu'
    exact hq
  | some q =>
    simp only
    split
    · exact .busy h hp hu hq ‹_›
    · exact .still h hp hu hq (eq_false_of_ne_true ‹_›)

lemma hasReadiness (w : World) (id : UnitId) (p : Program) (state : ThreadState) :
    HasReadiness w id p state (w.readiness id p state) := by
  cases state with
  | ready => exact .ready
  | sleeping wakeAt =>
    rw [readiness]
    split
    · exact .awake ‹_›
    · exact .asleep (UInt32.not_le.1 ‹_›)
  | awaitingMove piece axis => exact hasReadiness_pieceReadiness .move
  | awaitingTurn piece axis => exact hasReadiness_pieceReadiness .turn

lemma HasReadiness.of_faulty {p : Program} {state : ThreadState} {e : ScriptError}
    (h : HasReadiness w id p state (.faulty e)) :
    ∃ piece isBusy, Awaits state piece isBusy ∧ p.pieceName? piece = none ∧
      e = .unknownPiece piece := by
  cases h with
  | faulty hawaits hp => exact ⟨_, _, hawaits, hp, rfl⟩

/-- A thread that is executed finishes, faults or is suspended, unless everything stops. -/
lemma resumeThread_cases (budget : Nat) {w₀ : World} (ht : env.threads.get? n = some t)
    (hn : n.val.toNat < env.nextThread.toNat)
    (hawake : Awake w id env n t ⟨w₀, env.removeThread n, { t with state := .ready }⟩) :
    (∃ cause, ((resumeThread budget id n t (env.removeThread n)).on w₀).1 = .error (.halt cause)) ∨
      ∃ w' env', (resumeThread budget id n t (env.removeThread n)).on w₀ = (.ok env', w') ∧
        Visit id n w env [n] w' env' ∧ Passed [n] env env' := by
  simp only [resumeThread, Action.on_get_bind]
  have hpassed := ((scriptLaw_scripted id).respects_resume Passed.environmentLaw budget
    ⟨w₀, env.removeThread n, { t with state := .ready }⟩).1
  revert hpassed
  rcases resume_cases id budget ⟨w₀, env.removeThread n, { t with state := .ready }⟩ with
    ⟨cause, h⟩ | ⟨r, m, h, hruns⟩
  · cases hres : (resume id budget).run.run
      ⟨w₀, env.removeThread n, { t with state := .ready }⟩ with
    | mk answer m =>
    rw [hres] at h
    cases h
    exact fun _ => .inl ⟨cause, rfl⟩
  · rw [h]
    intro hpassed
    -- nothing that runs can bring the thread itself back among the stored ones
    have hgone := Passed.not_stored hn hpassed
    rcases r with e | _ | state
    · exact .inr ⟨_, _, rfl, .faulted ht hawake hruns hgone, .run hn hpassed⟩
    · exact .inr ⟨_, _, rfl, .finished ht hawake hruns hgone, .run hn hpassed⟩
    · exact .inr ⟨_, _, rfl, .suspended ht hawake hruns hruns.ne_ready,
        .run_putThread hn hpassed hruns.ne_ready⟩

lemma filter_executes (ht : env.threads.get? n = some t) :
    [n].filter (w.executes id env) =
      if (w.readiness id env.program t.state).goesOn then [n] else [] := by
  simp only [executes, ht, Option.any_some, List.filter_cons, List.filter_nil]

lemma visitThread_cases (id : UnitId) (budget : Nat) (hn : n.val.toNat < env.nextThread.toNat)
    (w : World) :
    (∃ cause, ((visitThread budget id env n).on w).1 = .error (.halt cause)) ∨
      ∃ w' env', (visitThread budget id env n).on w = (.ok env', w') ∧
        Visit id n w env ([n].filter (w.executes id env)) w' env' ∧
        Passed ([n].filter (w.executes id env)) env env' := by
  cases ht : env.threads.get? n with
  | none =>
    have hran : [n].filter (w.executes id env) = [] := by simp [executes, ht]
    rw [hran]
    simp only [visitThread, ht]
    exact .inr ⟨w, env, rfl, .gone ht, .refl env⟩
  | some t =>
  simp only [visitThread, ht, Action.on_get_bind]
  rw [filter_executes ht]
  have hr := hasReadiness w id env.program t.state
  generalize w.readiness id env.program t.state = readiness at hr ⊢
  cases readiness with
  | ready => exact resumeThread_cases budget ht hn (.ready hr)
  | missing piece => exact resumeThread_cases budget ht hn (.missing hr)
  | waiting =>
    rw [Passed.putThread_removeThread ht]
    exact .inr ⟨w, env, rfl, .kept ht hr, .refl env⟩
  | faulty e =>
    obtain ⟨piece, isBusy, hawaits, hp, rfl⟩ := hr.of_faulty
    exact .inr ⟨_, _, rfl, .lost ht hawaits hp, .of_removeThread env n⟩

/-! ### All visits -/

lemma executedOf_sublist (budget : Nat) (threads : List ThreadId) (w : World)
    (env : Environment) : (executedOf budget id threads w env).Sublist threads := by
  induction threads generalizing w env with
  | nil => exact .slnil
  | cons n rest ih =>
    refine List.Sublist.append (List.filter_sublist : ([n].filter _).Sublist [n]) ?_
    split
    · exact ih _ _
    · exact List.nil_sublist rest

/-- The induction is on the threads; the next thread number does not become less meanwhile. -/
lemma foldlM_visitThread_cases (id : UnitId) (budget : Nat) {threads : List ThreadId} (w : World)
    (hthreads : ∀ n ∈ threads, n.val.toNat < env.nextThread.toNat) :
    (∃ cause, ((threads.foldlM (visitThread budget id) env).on w).1 = .error (.halt cause)) ∨
      ∃ w' env', (threads.foldlM (visitThread budget id) env).on w = (.ok env', w') ∧
        Visits id threads (executedOf budget id threads w env) w env w' env' ∧
        Passed (executedOf budget id threads w env) env env' := by
  induction threads generalizing w env with
  | nil => exact .inr ⟨w, env, rfl, .nil, .refl env⟩
  | cons n rest ih =>
    rw [List.foldlM_cons]
    rcases visitThread_cases id budget (hthreads n List.mem_cons_self) w with
      ⟨cause, hcause⟩ | ⟨w₁, env₁, hon, hvisit, hpassed⟩
    · exact .inl ⟨cause, Action.on_bind_eq_error _ hcause⟩
    · rw [Action.on_bind, executedOf, hon]
      have hrest : ∀ k ∈ rest, k.val.toNat < env₁.nextThread.toNat := fun k hk =>
        Nat.lt_of_lt_of_le (hthreads k (List.mem_cons_of_mem n hk)) hpassed.nextThread
      rcases ih w₁ hrest with hhalt | ⟨w', env', hon', hvisits, hpassed'⟩
      · exact .inl hhalt
      refine .inr ⟨w', env', hon', .cons hvisit hvisits, .append (fun k hk => ?_) hpassed hpassed'⟩
      rw [List.mem_singleton.1 (List.mem_filter.1 hk).1]
      exact hthreads n List.mem_cons_self

/-! ### The scripts of a unit -/

/-- The scripts of a unit run: the threads that are executed meanwhile, and the world and the script
state before and after it. -/
structure Round (id : UnitId) (ran : List ThreadId) (w : World) (env : Environment) (w' : World)
    (env' : Environment) : Prop where
  ascending : env.threads.keys.Pairwise fun n k => n.val < k.val
  visits : ∃ w₁, Visits id env.threads.keys ran (w.detachEnvironment id) env w₁ env' ∧
    w' = w₁.attachEnvironment id env'
  once : ran.Sublist env.threads.keys
  passed : Passed ran env env'

/-- Of all script states only that of one unit is replaced. -/
structure Attached (id : UnitId) (env : Environment) (w w' : World) : Prop where
  nextUnit : w'.nextUnit = w.nextUnit
  environments : ∀ other, (w'.units.get? other).map UnitState.environment =
    if other = id then (w.units.get? other).map fun _ => some env
    else (w.units.get? other).map UnitState.environment

lemma attached_attachEnvironment (env : Environment) (w : World) :
    Attached id env w (w.attachEnvironment id env) :=
  ⟨rfl, environments_modify _⟩

/-- What becomes of the world while the script state is taken out does not concern the others. -/
lemma attached_of_detached {w₁ : World} (h : SameScripts (w.detachEnvironment id) w₁)
    (env : Environment) : Attached id env w (w₁.attachEnvironment id env) := by
  refine ⟨h.nextUnit, fun other => ?_⟩
  have hother := h.environments other
  rw [detachEnvironment, modifyUnit, environments_modify] at hother
  rw [attachEnvironment, modifyUnit, environments_modify]
  split
  · rename_i hid
    rw [if_pos hid] at hother
    have := congrArg (Option.map fun _ => some env) hother
    rw [Option.map_map, Option.map_map] at this
    exact this
  · rename_i hid
    rw [if_neg hid] at hother
    exact hother

lemma ascending_keys (env : Environment) :
    env.threads.keys.Pairwise fun n k => n.val < k.val :=
  env.threads.ascending.map _ fun _ _ h => h

/-- The scripts of a unit that has a script state run through, unless everything stops. -/
theorem runUnitScripts_cases (budget : Nat) {u : UnitState} (hu : w.units.get? id = some u)
    (henv : u.environment = some env)
    (hstored : ∀ n ∈ env.threads.keys, n.val.toNat < env.nextThread.toNat) :
    (∃ cause, ((runUnitScripts budget id).on w).1 = .error (.halt cause)) ∨
      ∃ w' env', (runUnitScripts budget id).on w = (.ok (), w') ∧
        Round id (unitExecutions budget id w) w env w' env' ∧ Attached id env' w w' := by
  have hran : unitExecutions budget id w =
      executedOf budget id env.threads.keys (w.detachEnvironment id) env := by
    simp only [unitExecutions, hu, Option.bind_some, henv]
  simp only [runUnitScripts, Action.on_get_bind, Action.on_require_bind, unit_eq_ok.2 hu, henv,
    Action.on_modify_bind]
  -- what the threads do meanwhile leaves the script states of all other units alone
  have hscripts : SameScripts (w.detachEnvironment id)
      ((env.threads.keys.foldlM (visitThread budget id) env).on (w.detachEnvironment id)).2 :=
    (Respects.foldlM (R := Scripted)
      (fun _ n _ => (scriptLaw_scripted id).respects_visitThread budget _ n) env _).scripts
  rcases foldlM_visitThread_cases id budget (w.detachEnvironment id) hstored with
    ⟨cause, hcause⟩ | ⟨w₁, env', hon, hvisits, hpassed⟩
  · exact .inl ⟨cause, Action.on_bind_eq_error _ hcause⟩
  · rw [Action.on_bind, hon]
    rw [hon] at hscripts
    refine .inr ⟨_, env', rfl, ?_, attached_of_detached hscripts env'⟩
    rw [hran]
    exact ⟨ascending_keys env, ⟨w₁, hvisits, rfl⟩, executedOf_sublist .., hpassed⟩

/-- A function that is run at once leaves no thread behind, however it ends. -/
lemma runForAnswer_cases (id : UnitId) (budget : Nat) (function : String) (t : Thread)
    (hn : n.val.toNat < env.nextThread.toNat) (w : World) :
    (∃ cause, ((runForAnswer budget id function t (env.removeThread n)).on w).1 =
        .error (.halt cause)) ∨
      ∃ w' answer env', (runForAnswer budget id function t (env.removeThread n)).on w =
          (.ok (answer, env'), w') ∧ Passed [n] env env' ∧ Lasting env env' ∧
        env'.threads.get? n = none := by
  simp only [runForAnswer, Action.on_get_bind]
  have hpassed := ((scriptLaw_scripted id).respects_resume Passed.environmentLaw budget
    ⟨w, env.removeThread n, t⟩).1
  have hlasting := trans_of Lasting (.removeThread env n)
    ((scriptLaw_scripted id).respects_resume Lasting.environmentLaw budget
      ⟨w, env.removeThread n, t⟩).1
  revert hpassed hlasting
  rcases (resume id budget).run.run ⟨w, env.removeThread n, t⟩ with
    ⟨(e | cause) | (_ | state), m⟩ <;> intro hpassed hlasting
  · exact .inr ⟨_, _, _, rfl, .run hn hpassed, hlasting, Passed.not_stored hn hpassed⟩
  · exact .inl ⟨cause, rfl⟩
  · exact .inr ⟨_, _, _, rfl, .run hn hpassed, hlasting, Passed.not_stored hn hpassed⟩
  · exact .inr ⟨_, _, _, rfl, .run hn hpassed, hlasting, Passed.not_stored hn hpassed⟩

/-- The thread that is executed when a function of the script of a unit is run at once. -/
def queryExecutions (id : UnitId) (function : String) (params : List Int32) (w : World) :
    List ThreadId :=
  match (w.units.get? id).bind UnitState.environment with
  | none => []
  | some env =>
    match env.startNamed function params with
    | .ok (some n, _) => [n]
    | _ => []

/-- A function of the script of a unit is run at once: what becomes of the script state until the
thread is started, and from then on.  The thread itself is not there any more. -/
structure Query (ran : List ThreadId) (env env₁ env' : Environment) : Prop where
  started : Passed [] env env₁
  number : ∀ n ∈ ran, n.val.toNat < env₁.nextThread.toNat
  passed : Passed ran env₁ env'
  lasting : Lasting env env'
  gone : ∀ n ∈ ran, env'.threads.get? n = none

lemma Query.idle {env₁ : Environment} (h : Passed [] env env₁) (h' : Lasting env env₁) :
    Query [] env env₁ env₁ :=
  ⟨h, nofun, .refl env₁, h', nofun⟩

/-- A function of a script is run at once, unless everything stops: a thread is started, and then it
runs and is gone. -/
theorem runQuery_cases (budget : Nat) (function : String) (params : List Int32) {u : UnitState}
    (hu : w.units.get? id = some u) (henv : u.environment = some env) :
    (∃ cause, ((runQuery budget id function params).on w).1 = .error (.halt cause)) ∨
      ∃ w' answer env₁ env', (runQuery budget id function params).on w = (.ok answer, w') ∧
        Query (queryExecutions id function params w) env env₁ env' ∧ Attached id env' w w' := by
  have hran : queryExecutions id function params w =
      match env.startNamed function params with
      | .ok (some n, _) => [n]
      | _ => [] := by
    simp only [queryExecutions, hu, Option.bind_some, henv]
  rw [hran]
  simp only [runQuery, Action.on_get_bind, Action.on_require_bind, unit_eq_ok.2 hu, henv,
    Action.on_modify_bind]
  -- nothing runs if no thread is started
  have unchanged : ∀ env₁, Attached id env₁ w
      ((w.detachEnvironment id).attachEnvironment id env₁) :=
    attached_of_detached (refl_of SameScripts _)
  cases hs : env.startNamed function params with
  | error failure =>
    cases failure with
    | fault e =>
      exact .inr ⟨_, _, env, env, rfl, .idle (.refl env) (refl_of Lasting env), unchanged env⟩
    | halt cause => exact .inl ⟨cause, rfl⟩
  | ok p =>
  obtain ⟨o, env₁⟩ := p
  obtain ⟨hpassed, hstarted⟩ := Passed.of_startNamed hs
  have hlasting := Lasting.of_startNamed hs
  cases o with
  | none => exact .inr ⟨_, _, env₁, env₁, rfl, .idle hpassed hlasting, unchanged env₁⟩
  | some n =>
  obtain ⟨hn, t, ht⟩ := hstarted n rfl
  simp only [ht]
  have hscripts : SameScripts (w.detachEnvironment id)
      ((runForAnswer budget id function t (env₁.removeThread n)).on
        (w.detachEnvironment id)).2 := by
    have hrun := (scriptLaw_scripted id).respects_runForAnswer budget function t
      (env₁.removeThread n) (w.detachEnvironment id)
    exact hrun.scripts
  rcases runForAnswer_cases id budget function t hn (w.detachEnvironment id) with
    ⟨cause, hcause⟩ | ⟨w', answer, env', hon, hpassed', hlasting', hgone⟩
  · exact .inl ⟨cause, Action.on_bind_eq_error _ hcause⟩
  · rw [Action.on_bind, hon]
    rw [hon] at hscripts
    refine .inr ⟨_, _, env₁, env', rfl, ?_, attached_of_detached hscripts env'⟩
    exact ⟨hpassed, by simpa using hn, hpassed', trans_of Lasting hlasting hlasting',
      by simpa using hgone⟩

end Lockstep.World
