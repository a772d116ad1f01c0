import Lockstep.Proofs.World.Run
import Lockstep.Proofs.World.Visits
/-!
# Which threads run, and when

A battle keeps no record of the threads that have been executed; `executions` is this record.  That
a stored thread is ready says just that it is not in the record: this is `Scheduled`, which every
operation keeps.  The main result is `scripts_run_in_order`.
-/

namespace Lockstep.World

open Script (Environment Fresh Machine Passed Thread ThreadState Tidy)

/-! ### The record -/

/-- The threads that are executed when the scripts of units run one after the other. -/
def executionsOf (budget : Nat) : List UnitId → World → List (UnitId × ThreadId)
  | [], _ => []
  | id :: rest, w =>
    (unitExecutions budget id w).map (Prod.mk id) ++
      match (runScriptsNoting budget id).on w with
      | (.ok _, w') => executionsOf budget rest w'
      | (.error _, _) => []

/-- The threads that are executed in the course of an operation. -/
def Operation.executions : Operation → World → List (UnitId × ThreadId)
  | runQuery _ id function params, w => (queryExecutions id function params w).map (Prod.mk id)
  | runUnitScripts budget id, w => (unitExecutions budget id w).map (Prod.mk id)
  | tick budget, w => executionsOf budget w.beginTick.units.keys w.beginTick
  | _, _ => []

/-- The threads that have been executed so far. -/
def executions (past : List Step) : List (UnitId × ThreadId) :=
  past.flatMap fun st => st.operation.executions st.before

/-! ### The invariant -/

/-- Every unit has a number less than the next one and a script state, and what the threads in it
tell agrees with the record. -/
structure Scheduled (record : List (UnitId × ThreadId)) (w : World) : Prop where
  number : ∀ {id n}, (id, n) ∈ record → id.val.toNat < w.nextUnit.toNat
  stored : ∀ {id e}, (w.units.get? id).map UnitState.environment = some e →
    id.val.toNat < w.nextUnit.toNat ∧ ∃ env, e = some env ∧ Tidy (fun n => (id, n) ∈ record) env

namespace Scheduled

variable {record : List (UnitId × ThreadId)} {w w' : World} {id : UnitId} {u : UnitState}
  {env : Environment}

lemma environment (h : Scheduled record w) (hu : w.units.get? id = some u) :
    ∃ env, u.environment = some env ∧ Tidy (fun n => (id, n) ∈ record) env :=
  (h.stored (by rw [hu]; rfl)).2

lemma same (hscripts : SameScripts w w') (h : Scheduled record w) : Scheduled record w' where
  number hn := hscripts.nextUnit ▸ h.number hn
  stored he := by
    rw [hscripts.environments] at he
    rw [hscripts.nextUnit]
    exact h.stored he

lemma initial {s : Setup} (h : Initial s w) : Scheduled [] w where
  number hn := absurd hn List.not_mem_nil
  stored he := by
    rw [h.units] at he
    cases he

/-- A new unit gets a number under which nothing has been executed. -/
lemma insert {program : Script.Program} (hu : u.environment = some (.new program))
    (hnext : w'.nextUnit.toNat = w.nextUnit.toNat + 1)
    (hunits : w'.units = w.units.insert ⟨w.nextUnit⟩ u) (h : Scheduled record w) :
    Scheduled record w' where
  number hn := by
    have := h.number hn
    omega
  stored := fun {id e} he => by
    rw [hunits, SortedTable.get?_insert] at he
    split at he
    · rename_i hid
      cases Ranked.rank_eq_iff.1 hid
      cases he
      refine ⟨hnext ▸ Nat.lt_succ_self _, _, hu, .new program fun n hn => ?_⟩
      exact absurd (h.number hn) (Nat.lt_irrefl _)
    · obtain ⟨hlt, henv⟩ := h.stored he
      exact ⟨by omega, henv⟩

lemma erase (hnext : w'.nextUnit = w.nextUnit) (hunits : w'.units = w.units.erase id)
    (h : Scheduled record w) : Scheduled record w' where
  number hn := hnext ▸ h.number hn
  stored he := by
    rw [hunits, SortedTable.get?_erase] at he
    split at he
    · cases he
    · exact hnext ▸ h.stored he

/-- Threads of one unit are executed, and its script state is put back. -/
lemma attach (ran : List ThreadId) (hattached : Attached id env w w')
    (hu : w.units.get? id = some u) (henv : Tidy (fun n => (id, n) ∈ record ∨ n ∈ ran) env)
    (h : Scheduled record w) :
    Scheduled (record ++ ran.map (Prod.mk id)) w' := by
  -- the record grows by threads of this unit only
  have mem : ∀ {other n}, (other, n) ∈ record ++ ran.map (Prod.mk id) ↔
      (other, n) ∈ record ∨ other = id ∧ n ∈ ran := fun {other n} => by
    simp only [List.mem_append, List.mem_map, Prod.mk.injEq]
    constructor
    · rintro (hn | ⟨k, hk, rfl, rfl⟩)
      · exact .inl hn
      · exact .inr ⟨rfl, hk⟩
    · rintro (hn | ⟨rfl, hn⟩)
      · exact .inl hn
      · exact .inr ⟨n, hn, rfl, rfl⟩
  have hid : id.val.toNat < w.nextUnit.toNat := (h.stored (by rw [hu]; rfl)).1
  refine ⟨fun hn => ?_, fun {other e} he => ?_⟩
  · rw [hattached.nextUnit]
    rcases mem.1 hn with hn | ⟨rfl, -⟩
    · exact h.number hn
    · exact hid
  · rw [hattached.nextUnit]
    rw [hattached.environments] at he
    simp only [mem]
    split at he
    · rename_i hother
      subst hother
      rw [hu] at he
      cases he
      exact ⟨hid, env, rfl, by simpa only [true_and] using henv⟩
    · rename_i hother
      simpa only [hother, false_and, or_false] using h.stored he

/-- The script state of a unit is written between two runs of its threads. -/
lemma write {env' : Environment} (hattached : Attached id env' w w')
    (hu : w.units.get? id = some u) (henv : u.environment = some env)
    (hpassed : Passed [] env env') (h : Scheduled record w) : Scheduled record w' := by
  obtain ⟨env₁, henv₁, htidy⟩ := h.environment hu
  rw [henv] at henv₁
  cases henv₁
  have := h.attach [] hattached hu
    (htidy.passed (fun _ hn => absurd hn List.not_mem_nil) hpassed)
  rwa [List.map_nil, List.append_nil] at this

end Scheduled

/-! ### Operations that execute nothing -/

/-- Whatever is executed already, nothing else is executed between two worlds. -/
def Idle (w w' : World) : Prop := ∀ record, Scheduled record w → Scheduled record w'

instance : IsPreorder World Idle where
  refl _ _ h := h
  trans _ _ _ h h' record hw := h' record (h record hw)

variable {record : List (UnitId × ThreadId)} {w w' : World} {id : UnitId}

lemma SameScripts.idle (h : SameScripts w w') : Idle w w' := fun _ => .same h

lemma createUnit_environment {typeName : String} {owner : PlayerId} {position : Vector3}
    {rotation : Option Angle} {u : UnitState}
    (h : w.createUnit typeName owner position rotation = .ok u) :
    ∃ program, u.environment = some (.new program) := by
  rw [createUnit] at h
  obtain ⟨_, -, h⟩ := exists_of_bind_eq_ok h
  obtain ⟨t, -, h⟩ := exists_of_bind_eq_ok h
  obtain ⟨m, -, h⟩ := exists_of_bind_eq_ok h
  obtain ⟨program, -, h⟩ := exists_of_bind_eq_ok h
  cases h
  exact ⟨program, rfl⟩

lemma idle_tryAddUnit {u : UnitState} {program : Script.Program}
    (hu : u.environment = some (.new program)) : Respects Idle (tryAddUnit u) := by
  intro w record hw
  show Scheduled record ((tryAddUnit u).on w).2
  rcases tryAddUnit_cases u w with ⟨_, h, -⟩ | ⟨t, r, next, g, w', hon, hw', h⟩
  · rw [h]
    exact hw
  · rw [hon]
    have hnext : w'.nextUnit.toNat = w.nextUnit.toNat + 1 := by
      rcases h with h | ⟨yard, h⟩
      · exact h.nextUnit
      · exact h.nextUnit
    exact hw.insert hu hnext (by rw [hw'])

lemma idle_startScript (function : String) (params : List Int32) :
    Respects Idle (startScript id function params) := by
  refine respects_startScript (fun n w => (quiet_note n w).scripts.idle) ?_
  intro w u env thread env' hu henv hs record hw
  exact hw.write (attached_attachEnvironment env' w) hu henv (Passed.of_startNamed hs).1

lemma idle_trySpawnUnit (typeName : String) (owner : PlayerId) (position : Vector3)
    (rotation : Option Angle) : Respects Idle (trySpawnUnit typeName owner position rotation) := by
  refine Respects.get_bind fun w => ?_
  show Idle w (Action.on _ w).2
  rw [Action.on_require_bind]
  cases hu : w.createUnit typeName owner position rotation with
  | error cause => exact refl_of Idle w
  | ok u =>
  obtain ⟨program, hprogram⟩ := createUnit_environment hu
  refine ((Action.respects_require _).bind fun t => ?_ : Respects Idle _) w
  have hlift : (liftToSea w.terrain.seaLevel t u).environment = some (.new program) := by
    rw [liftToSea]
    split <;> exact hprogram
  refine (idle_tryAddUnit hlift).bind fun answer => ?_
  cases answer with
  | none => exact .pure _
  | some id =>
    exact (idle_startScript _ _).bind fun _ =>
      Respects.bind (.modify fun w => (quiet_tell _ w).scripts.idle) fun _ => .pure _

lemma sameScripts_tryMoveUnit (position : Vector3) (w : World) :
    SameScripts w ((tryMoveUnit id position).on w).2 :=
  respects_tryMoveUnit (R := SameScripts) (fun _ _ => ⟨rfl,
    environments_modify_of_eq (f := fun u => { u with position := position }) fun _ => rfl⟩) w

lemma sameScripts_addFeature (t : FeatureType) (f : Feature) (w : World) :
    SameScripts w ((addFeature t f).on w).2 :=
  respects_addFeature (R := SameScripts) (fun _ _ _ _ _ => ⟨rfl, fun _ => rfl⟩) t f w

lemma idle_removeUnit (w : World) : Idle w (w.removeUnit id) := by
  rw [removeUnit]
  split
  · exact fun _ => .erase rfl rfl
  · exact refl_of Idle w

lemma idle_sweep (w : World) : Idle w w.sweep :=
  rel_sweep (fun w _ => trans_of Idle (idle_removeUnit w) (quiet_tell _ _).scripts.idle) w

/-! ### Operations that execute threads -/

lemma scheduled_runUnitScripts (id : UnitId) (budget : Nat)
    (h : ∀ cause, ((runUnitScripts budget id).on w).1 ≠ .error (.halt cause))
    (hw : Scheduled record w) :
    Scheduled (record ++ (unitExecutions budget id w).map (Prod.mk id))
      ((runUnitScripts budget id).on w).2 := by
  cases hu : w.units.get? id with
  | none =>
    have hran : unitExecutions budget id w = [] := by simp [unitExecutions, hu]
    have hunit : w.unit id = .error (.unknownUnit id) := by simp [World.unit, hu]
    simp only [runUnitScripts, Action.on_get_bind, Action.on_require_bind, hunit, hran,
      List.map_nil, List.append_nil]
    exact hw
  | some u =>
    obtain ⟨env, henv, htidy⟩ := hw.environment hu
    rcases runUnitScripts_cases budget hu henv htidy.keys with
      ⟨cause, hcause⟩ | ⟨w', env', hon, hround, hattached⟩
    · exact absurd hcause (h cause)
    · rw [hon]
      refine hw.attach _ hattached hu (htidy.passed (fun n hn => ?_) hround.passed)
      exact htidy.keys n (hround.once.subset hn)

lemma scheduled_runQuery (budget : Nat) (function : String) (params : List Int32)
    (h : ∀ cause, ((runQuery budget id function params).on w).1 ≠ .error (.halt cause))
    (hw : Scheduled record w) :
    Scheduled (record ++ (queryExecutions id function params w).map (Prod.mk id))
      ((runQuery budget id function params).on w).2 := by
  cases hu : w.units.get? id with
  | none =>
    have hran : queryExecutions id function params w = [] := by simp [queryExecutions, hu]
    have hunit : w.unit id = .error (.unknownUnit id) := by simp [World.unit, hu]
    simp only [runQuery, Action.on_get_bind, Action.on_require_bind, hunit, hran,
      List.map_nil, List.append_nil]
    exact hw
  | some u =>
    obtain ⟨env, henv, htidy⟩ := hw.environment hu
    rcases runQuery_cases budget function params hu henv with
      ⟨cause, hcause⟩ | ⟨w', answer, env₁, env', hon, hquery, hattached⟩
    · exact absurd hcause (h cause)
    · rw [hon]
      have htidy₁ := htidy.passed (fun _ hk => absurd hk List.not_mem_nil) hquery.started
      simp only [List.not_mem_nil, or_false] at htidy₁
      exact hw.attach _ hattached hu (htidy₁.passed hquery.number hquery.passed)

/-- A refusal executes nothing, and is noted. -/
lemma scheduled_runScriptsNoting (id : UnitId) (budget : Nat)
    (h : ∀ cause, ((runScriptsNoting budget id).on w).1 ≠ .error (.halt cause))
    (hw : Scheduled record w) :
    Scheduled (record ++ (unitExecutions budget id w).map (Prod.mk id))
      ((runScriptsNoting budget id).on w).2 := by
  have hrun := fun h => scheduled_runUnitScripts (w := w) id budget h hw
  rw [runScriptsNoting, Action.on_orElse] at h ⊢
  revert h hrun
  rcases (runUnitScripts budget id).on w with ⟨(cause | cause) | _, w'⟩ <;> intro h hrun
  · exact (hrun fun _ h => by cases h).same (quiet_note _ w').scripts
  · exact absurd rfl (h cause)
  · exact hrun fun _ h => by cases h

/-- The induction is on the units. -/
lemma scheduled_forM (budget : Nat) (ids : List UnitId)
    (h : ∀ cause, ((ids.forM (runScriptsNoting budget)).on w).1 ≠ .error (.halt cause))
    (hw : Scheduled record w) :
    Scheduled (record ++ executionsOf budget ids w)
      ((ids.forM (runScriptsNoting budget)).on w).2 := by
  induction ids generalizing record w with
  | nil =>
    rw [executionsOf, List.append_nil]
    exact hw
  | cons id rest ih =>
    have hrun := fun h => scheduled_runScriptsNoting (w := w) id budget h hw
    rw [Action.on_forM_cons] at h ⊢
    rw [executionsOf, ← List.append_assoc]
    revert h hrun
    rcases (runScriptsNoting budget id).on w with ⟨(cause | cause) | _, w'⟩ <;> intro h hrun
    · rw [List.append_nil]
      exact hrun fun _ h => by cases h
    · exact absurd rfl (h cause)
    · exact ih h (hrun fun _ h => by cases h)

lemma scheduled_tick (budget : Nat)
    (h : ∀ cause, ((tick budget).on w).1 ≠ .error (.halt cause)) (hw : Scheduled record w) :
    Scheduled (record ++ executionsOf budget w.beginTick.units.keys w.beginTick)
      ((tick budget).on w).2 := by
  have hbegin := hw.same (sameScripts_beginTick w)
  have hrun := fun h => scheduled_forM (w := w.beginTick) budget w.beginTick.units.keys h hbegin
  simp only [tick, Action.on_modify_bind, Action.on_get_bind] at h ⊢
  rw [Action.on_bind] at h ⊢
  revert hrun h
  rcases (w.beginTick.units.keys.forM (runScriptsNoting budget)).on w.beginTick with
    ⟨(cause | cause) | _, w₁⟩ <;> intro hrun h
  · exact hrun fun _ h => by cases h
  · exact absurd rfl (h cause)
  · have hpieces := trans_of Quiet (quiet_stepPieces w₁) (quiet_stepProjectiles w₁.stepPieces)
    exact idle_sweep _ _ ((hrun fun _ h => by cases h).same hpieces.scripts)

/-- Operations keep the invariant, with what they execute added to the record. -/
theorem scheduled_after {o : Operation} (ho : o.Completes w) (hw : Scheduled record w) :
    Scheduled (record ++ o.executions w) (o.after w) := by
  -- nearly all operations execute nothing
  have idle : Idle w (o.after w) → Scheduled (record ++ []) (o.after w) := fun h => by
    rw [List.append_nil]
    exact h record hw
  cases o with
  | addFeature t f =>
    refine idle ?_
    rw [Operation.after, Operation.perform, Action.on_discard]
    exact (sameScripts_addFeature t f w).idle
  | addUnit typeName owner position rotation =>
    refine idle ?_
    simp only [Operation.after, Operation.perform, Action.on_get_bind, Action.on_require_bind]
    cases hu : w.createUnit typeName owner position rotation with
    | error cause => exact refl_of Idle w
    | ok u =>
      obtain ⟨program, hprogram⟩ := createUnit_environment hu
      exact Respects.bind (R := Idle) (idle_tryAddUnit hprogram) (fun _ => .pure _) w
  | spawnUnit typeName owner position rotation =>
    exact idle (Respects.bind (R := Idle) (idle_trySpawnUnit _ _ _ _) (fun _ => .pure _) w)
  | moveUnit id position =>
    refine idle ?_
    rw [Operation.after, Operation.perform, Action.on_discard]
    exact (sameScripts_tryMoveUnit position w).idle
  | setYardOpen id isOpen => exact idle (scripted_setYardOpen isOpen w).scripts.idle
  | startScript id function params =>
    exact idle (Respects.bind (R := Idle) (idle_startScript _ _) (fun _ => .pure _) w)
  | runQuery budget id function params =>
    rw [Operation.after, Operation.perform, Action.on_discard]
    exact scheduled_runQuery budget function params
      (fun cause hcause => ho cause (Action.on_bind_eq_error _ hcause)) hw
  | runUnitScripts budget id => exact scheduled_runUnitScripts id budget ho hw
  | tick budget => exact scheduled_tick budget ho hw
  | _ => exact idle (quiet_after (by trivial) w).scripts.idle

theorem Run.scheduled {s : Setup} {past : List Step} (h : Run s past w) :
    Scheduled (executions past) w := by
  induction h with
  | start h => exact .initial (initial_new h)
  | step o h ho ih =>
    rw [executions, List.flatMap_append, List.flatMap_singleton]
    exact scheduled_after ho ih

/-! ### The schedule -/

/-- The worlds from which the scripts of a unit are run: those between the operations of a battle,
those within a tick when the scripts of some units have run, and all these with any other threads
stored in a unit. -/
inductive Moment (w : World) : World → Prop
  | between : Moment w w
  | within {budget : Nat} {ids : List UnitId} {w₁ : World} :
      (ids.forM (runScriptsNoting budget)).on w.beginTick = (.ok (), w₁) → Moment w w₁
  | stored {w₁ : World} {id : UnitId} {env : Environment} : Moment w w₁ →
      (∀ n ∈ env.threads.keys, n.val.toNat < env.nextThread.toNat) →
      Moment w (w₁.attachEnvironment id env)

/-- At every moment every unit has a script state, and the numbers of its threads have been given
out. -/
lemma Moment.environment {w₁ : World} {u : UnitState} (h : Moment w w₁)
    (hw : Scheduled record w) (hu : w₁.units.get? id = some u) :
    ∃ env, u.environment = some env ∧
      ∀ n ∈ env.threads.keys, n.val.toNat < env.nextThread.toNat := by
  induction h generalizing u with
  | between =>
    obtain ⟨env, henv, htidy⟩ := hw.environment hu
    exact ⟨env, henv, htidy.keys⟩
  | @within budget ids w₁ hon =>
    have hrun := scheduled_forM budget ids (fun cause h => by rw [hon] at h; cases h)
      (hw.same (sameScripts_beginTick w))
    rw [hon] at hrun
    obtain ⟨env, henv, htidy⟩ := hrun.environment hu
    exact ⟨env, henv, htidy.keys⟩
  | @stored w₁ other env _ hnumber ih =>
    rw [attachEnvironment, modifyUnit, SortedTable.get?_modify] at hu
    split at hu
    · obtain ⟨v, -, rfl⟩ := Option.map_eq_some_iff.1 hu
      exact ⟨env, rfl, hnumber⟩
    · exact ih hu

/-- When the scripts of a unit run, the threads that are stored are visited in ascending order and
each is executed at most once, whatever words they consist of.  Between the operations of a battle
exactly those stored threads are ready that have never been executed, and they are as they were
started. -/
theorem scripts_run_in_order {s : Setup} {past : List Step} (h : Run s past w) :
    (∀ {w₀ w' id u budget}, Moment w w₀ → w₀.units.get? id = some u →
      (runUnitScripts budget id).on w₀ = (.ok (), w') →
      ∃ env env', u.environment = some env ∧
        Round id (unitExecutions budget id w₀) w₀ env w' env' ∧ Attached id env' w₀ w') ∧
    ∀ {id u env n t}, w.units.get? id = some u → u.environment = some env →
      env.threads.get? n = some t →
      (t.state = .ready ↔ (id, n) ∉ executions past) ∧
      (t.state = .ready → t.stack = [] ∧
        ∃ f ∈ env.program.functions, ∃ params, t.frames = [⟨f.address, params, 0⟩]) := by
  refine ⟨fun {w₀ w' id u budget} hmoment hu hon => ?_, fun {id u env n t} hu henv ht => ?_⟩
  · obtain ⟨env, henv, hnumber⟩ := hmoment.environment h.scheduled hu
    rcases runUnitScripts_cases budget hu henv hnumber with
      ⟨cause, hcause⟩ | ⟨w'', env', hon', hround, hattached⟩
    · rw [hon] at hcause
      cases hcause
    · rw [hon] at hon'
      cases hon'
      exact ⟨env, env', henv, hround, hattached⟩
  · obtain ⟨env₁, henv₁, htidy⟩ := h.scheduled.environment hu
    rw [henv] at henv₁
    cases henv₁
    refine ⟨htidy.ready ht, fun hready => ?_⟩
    have hfresh := htidy.fresh ht hready
    exact ⟨hfresh.stack, hfresh.frames⟩

/-- A tank whose script sleeps, and a second thread in it that has been started but not run. -/
def Sample.asleep : List Operation :=
  [.addPlayer (.new .human "" 0), .spawnUnit "tank" ⟨0⟩ 0 none, .tick 9,
    .startScript ⟨1⟩ "create" []]

theorem scripts_run_in_order_asleep :
    let b := Sample.battle Sample.asleep
    Run Sample.setup b.1 b.2 ∧ ∃ u env t₀ t₁ w' env',
      (b.2.units.get? ⟨1⟩ = some u ∧ u.environment = some env) ∧
      (env.threads.get? ⟨0⟩ = some t₀ ∧ t₀.state = .sleeping ⟨31⟩ ∧ (⟨1⟩, ⟨0⟩) ∈ executions b.1) ∧
      (env.threads.get? ⟨1⟩ = some t₁ ∧ t₁.state = .ready ∧ (⟨1⟩, ⟨1⟩) ∉ executions b.1 ∧
        t₁.stack = [] ∧ ∃ f ∈ env.program.functions, ∃ params,
          t₁.frames = [⟨f.address, params, 0⟩]) ∧
      (runUnitScripts 9 ⟨1⟩).on b.2 = (.ok (), w') ∧ Round ⟨1⟩ [⟨1⟩] b.2 env w' env' := by
  obtain ⟨hcomplete, hstates, hanswer, hran⟩ :
      Operation.AllComplete Sample.asleep Sample.start ∧
      (((Sample.battle Sample.asleep).2.units.get? ⟨1⟩).bind UnitState.environment).map
          (fun env => ((env.threads.get? ⟨0⟩).map Thread.state,
            (env.threads.get? ⟨1⟩).map Thread.state)) =
        some (some (.sleeping ⟨31⟩), some .ready) ∧
      ((runUnitScripts 9 ⟨1⟩).on (Sample.battle Sample.asleep).2).1.isOk = true ∧
      unitExecutions 9 ⟨1⟩ (Sample.battle Sample.asleep).2 = [⟨1⟩] := by
    decide +kernel
  obtain ⟨env, henv, hstates⟩ := Option.map_eq_some_iff.1 hstates
  obtain ⟨u, hu, henv⟩ := Option.bind_eq_some_iff.1 henv
  obtain ⟨hstate₀, hstate₁⟩ := Prod.mk.inj hstates
  obtain ⟨t₀, ht₀, hsleeps⟩ := Option.map_eq_some_iff.1 hstate₀
  obtain ⟨t₁, ht₁, hready⟩ := Option.map_eq_some_iff.1 hstate₁
  obtain ⟨w', hon⟩ : ∃ w', (runUnitScripts 9 ⟨1⟩).on (Sample.battle Sample.asleep).2 =
      (.ok (), w') := by
    revert hanswer
    rcases (runUnitScripts 9 ⟨1⟩).on (Sample.battle Sample.asleep).2 with ⟨_ | _, w'⟩ <;> intro h
    · cases h
    · exact ⟨w', rfl⟩
  have hrun := Sample.run_battle hcomplete
  obtain ⟨hround, hthreads⟩ := scripts_run_in_order hrun
  obtain ⟨env₁, env', henv₁, hround, -⟩ := hround .between hu hon
  rw [henv] at henv₁
  cases henv₁
  rw [hran] at hround
  have hexecuted : (⟨1⟩, ⟨0⟩) ∈ executions (Sample.battle Sample.asleep).1 := by
    by_contra hn
    have := (hthreads hu henv ht₀).1.2 hn
    rw [hsleeps] at this
    cases this
  obtain ⟨hstack, hframes⟩ := (hthreads hu henv ht₁).2 hready
  exact ⟨hrun, u, env, t₀, t₁, w', env', ⟨hu, henv⟩, ⟨ht₀, hsleeps, hexecuted⟩,
    ⟨ht₁, hready, (hthreads hu henv ht₁).1.1 hready, hstack, hframes⟩, hon, hround⟩

end Lockstep.World
