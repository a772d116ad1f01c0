import Lockstep.Proofs.World.Isolation
import Lockstep.Proofs.World.Schedule
import Lockstep.Proofs.World.Validated
/-!
# Where units come from

A unit comes into the world by an operation that creates it, and it goes when it is dead.  In
between it keeps its owner and its program with as many static variables, whatever happens to it:
this is `Descends`.  So what was looked up when a unit was created holds of it as long as it is
there, which is `Founded`.
-/

namespace Lockstep.World

open Script (Environment Lasting Machine Program)

variable {s : Setup} {past : List Step} {w w' w'' : World} {id : UnitId}
  {record : List (UnitId × ThreadId)}

/-! ### Threads that run -/

lemma lasting_step {m m' : Machine World} {answer : Except Script.Failure (Option Script.Status)}
    (h : (Machine.step host id).run.run m = (answer, m')) :
    Lasting m.environment m'.environment := by
  have hm := ((scriptLaw_scripted id).machineLaw Lasting.environmentLaw).respects_step m
  rw [h] at hm
  exact hm.1

lemma lasting_applyMotion {m m' : Machine World} {piece : UInt32} {axis : Axis}
    {motion : Script.Motion} {answer : Except Script.Failure Unit}
    (h : (applyMotion id piece axis motion).run.run m = (answer, m')) :
    Lasting m.environment m'.environment := by
  have hm := (scriptLaw_scripted id).respects_applyMotion (E := Lasting) piece axis motion m
  rw [h] at hm
  exact hm.1

lemma Runs.lasting {m m' : Machine World} {r : Except ScriptError (Option Script.ThreadState)}
    (h : Runs id m r m') : Lasting m.environment m'.environment := by
  induction h with
  | step hstep _ ih => exact trans_of Lasting (lasting_step hstep) ih
  | motion hstep hmotion _ ih =>
    exact trans_of Lasting (lasting_step hstep) (trans_of Lasting (lasting_applyMotion hmotion) ih)
  | finished _ => exact refl_of Lasting _
  | awaitingMove hstep => exact lasting_step hstep
  | awaitingTurn hstep => exact lasting_step hstep
  | sleeping hstep => exact lasting_step hstep
  | faulty hstep => exact lasting_step hstep
  | faultyMotion hstep hmotion =>
    exact trans_of Lasting (lasting_step hstep) (lasting_applyMotion hmotion)

lemma Awake.lasting {env : Environment} {n : ThreadId} {t : Script.Thread} {m : Machine World}
    (h : Awake w id env n t m) : Lasting env m.environment := by
  cases h <;> exact .removeThread env n

lemma Visit.lasting {n : ThreadId} {ran : List ThreadId} {env env' : Environment}
    (h : Visit id n w env ran w' env') : Lasting env env' := by
  cases h with
  | gone _ => exact refl_of Lasting env
  | lost _ _ _ => exact .removeThread env n
  | kept _ _ => exact refl_of Lasting env
  | finished _ hawake hruns _ => exact trans_of Lasting hawake.lasting hruns.lasting
  | faulted _ hawake hruns _ => exact trans_of Lasting hawake.lasting hruns.lasting
  | suspended _ hawake hruns _ =>
    exact trans_of Lasting (trans_of Lasting hawake.lasting hruns.lasting) (.putThread _ n _)

lemma Visits.lasting {threads ran : List ThreadId} {env env' : Environment}
    (h : Visits id threads ran w env w' env') : Lasting env env' := by
  induction h with
  | nil => exact refl_of Lasting _
  | cons hvisit _ ih => exact trans_of Lasting hvisit.lasting ih

lemma Round.lasting {ran : List ThreadId} {env env' : Environment}
    (h : Round id ran w env w' env') : Lasting env env' := by
  obtain ⟨w₁, hvisits, -⟩ := h.visits
  exact hvisits.lasting

/-! ### What units keep -/

/-- The script state of a unit, if it is in the unit, goes on as another one. -/
def Endures (e e' : Option Environment) : Prop :=
  e' = e ∨ ∃ env env', e = some env ∧ e' = some env' ∧ Lasting env env'

lemma Endures.trans {e e' e'' : Option Environment} (h : Endures e e') (h' : Endures e' e'') :
    Endures e e'' := by
  rcases h' with rfl | ⟨env', env'', rfl, rfl, hlasting'⟩
  · exact h
  · rcases h with rfl | ⟨env, env₁, rfl, henv₁, hlasting⟩
    · exact .inr ⟨env', env'', rfl, rfl, hlasting'⟩
    · cases henv₁
      exact .inr ⟨env, env'', rfl, rfl, trans_of Lasting hlasting hlasting'⟩

/-- No unit comes; those that stay keep their owners and their programs. -/
structure Descends (w w' : World) : Prop where
  players : w.players.size ≤ w'.players.size
  nextUnit : w.nextUnit.toNat ≤ w'.nextUnit.toNat
  units : ∀ {id u'}, w'.units.get? id = some u' → ∃ u, w.units.get? id = some u ∧
    u'.owner = u.owner ∧ Endures u.environment u'.environment

instance : IsPreorder World Descends where
  refl _ := ⟨Nat.le_refl _, Nat.le_refl _, fun hu => ⟨_, hu, rfl, .inl rfl⟩⟩
  trans _ _ _ h h' :=
    { players := Nat.le_trans h.players h'.players
      nextUnit := Nat.le_trans h.nextUnit h'.nextUnit
      units := fun hu'' => by
        obtain ⟨u', hu', howner', hendures'⟩ := h'.units hu''
        obtain ⟨u, hu, howner, hendures⟩ := h.units hu'
        exact ⟨u, hu, howner'.trans howner, hendures.trans hendures'⟩ }

lemma SameOwners.exists_unit {u' : UnitState} (h : SameOwners w w')
    (hu' : w'.units.get? id = some u') : ∃ u, w.units.get? id = some u ∧ u'.owner = u.owner := by
  have howner := h.owners id
  rw [hu', Option.map_some, eq_comm] at howner
  obtain ⟨u, hu, heq⟩ := Option.map_eq_some_iff.1 howner
  exact ⟨u, hu, heq.symm⟩

lemma SameOwners.descends (h : SameOwners w w') (hscripts : SameScripts w w') :
    Descends w w' where
  players := h.players
  nextUnit := Nat.le_of_eq (congrArg UInt32.toNat hscripts.nextUnit.symm)
  units := fun {id u'} hu' => by
    obtain ⟨u, hu, howner⟩ := h.exists_unit hu'
    have henv := hscripts.environments id
    rw [hu, hu'] at henv
    exact ⟨u, hu, howner, .inl (Option.some.inj henv)⟩

lemma Quiet.descends (h : Quiet w w') : Descends w w' := h.owners.descends h.scripts

lemma Isolated.sameOwners (h : Isolated id w w') : SameOwners w w' where
  players := Nat.le_of_eq (by rw [h.players])
  owners := fun _ => h.map_eq fun _ _ hconfined => by rw [hconfined.own]

/-- The script state of one unit is replaced by one that has become of it. -/
lemma Attached.descends {u : UnitState} {env env' : Environment} (h : Attached id env' w w')
    (howners : SameOwners w w') (hu : w.units.get? id = some u) (henv : u.environment = some env)
    (hlasting : Lasting env env') : Descends w w' where
  players := howners.players
  nextUnit := Nat.le_of_eq (congrArg UInt32.toNat h.nextUnit.symm)
  units := fun {other u'} hu' => by
    obtain ⟨v, hv, howner⟩ := howners.exists_unit hu'
    refine ⟨v, hv, howner, ?_⟩
    have henv' := h.environments other
    rw [hu', hv] at henv'
    split at henv'
    · rename_i hother
      subst hother
      rw [hu] at hv
      cases hv
      exact .inr ⟨env, env', henv, Option.some.inj henv', hlasting⟩
    · exact .inl (Option.some.inj henv')

lemma sameOwners_modifyUnit {f : UnitState → UnitState} (hf : ∀ u, (f u).owner = u.owner)
    (w : World) : SameOwners w (w.modifyUnit id f) where
  players := Nat.le_refl _
  owners := fun other => by
    rw [modifyUnit, SortedTable.get?_modify]
    split
    · rw [Option.map_map]
      congr 1
      funext u
      exact hf u
    · rfl

/-! ### The operations that create no unit -/

lemma descends_startScript (function : String) (params : List Int32) :
    Respects Descends (startScript id function params) := by
  refine respects_startScript (fun n w => (quiet_note n w).descends) ?_
  intro w u env thread env' hu henv hs
  have howners : SameOwners w (w.attachEnvironment id env') :=
    sameOwners_modifyUnit (f := fun u => { u with environment := some env' }) (fun _ => rfl) w
  exact (attached_attachEnvironment env' w).descends howners hu henv (Lasting.of_startNamed hs)

lemma descends_tryMoveUnit (position : Vector3) (w : World) :
    Descends w ((tryMoveUnit id position).on w).2 := by
  refine SameOwners.descends ?_ (sameScripts_tryMoveUnit position w)
  refine respects_tryMoveUnit (R := SameOwners) (fun w g => ?_) w
  have hunits : SameOwners w (w.modifyUnit id fun u => { u with position := position }) :=
    sameOwners_modifyUnit (f := fun u => { u with position := position }) (fun _ => rfl) w
  exact ⟨hunits.players, hunits.owners⟩

lemma descends_setYardOpen (isOpen : Bool) : Respects Descends (setYardOpen id isOpen) := by
  intro w
  have howners : SameOwners w ((setYardOpen id isOpen).on w).2 := by
    rw [setYardOpen, Action.on_discard]
    exact (isolated_trySetYardOpen isOpen w).sameOwners
  exact howners.descends (scripted_setYardOpen isOpen w).scripts

lemma descends_addFeature (t : FeatureType) (f : Feature) (w : World) :
    Descends w ((addFeature t f).on w).2 := by
  refine SameOwners.descends ?_ (sameScripts_addFeature t f w)
  exact respects_addFeature (R := SameOwners)
    (fun _ _ _ _ _ => ⟨Nat.le_refl _, fun _ => rfl⟩) t f w

lemma descends_removeUnit (w : World) : Descends w (w.removeUnit id) := by
  rw [removeUnit]
  split
  · refine ⟨Nat.le_refl _, Nat.le_refl _, fun {other u'} hu' => ?_⟩
    rw [SortedTable.get?_erase] at hu'
    split at hu'
    · cases hu'
    · exact ⟨u', hu', rfl, .inl rfl⟩
  · exact refl_of Descends w

lemma descends_sweep (w : World) : Descends w w.sweep :=
  rel_sweep (fun w _ => trans_of Descends (descends_removeUnit w) (quiet_tell _ _).descends) w

lemma descends_runUnitScripts (id : UnitId) (budget : Nat)
    (h : ∀ cause, ((runUnitScripts budget id).on w).1 ≠ .error (.halt cause))
    (hw : Scheduled record w) : Descends w ((runUnitScripts budget id).on w).2 := by
  have howners := (isolated_runUnitScripts budget id w).sameOwners
  cases hu : w.units.get? id with
  | none =>
    have hunit : w.unit id = .error (.unknownUnit id) := by simp [World.unit, hu]
    simp only [runUnitScripts, Action.on_get_bind, Action.on_require_bind, hunit]
    exact refl_of Descends w
  | some u =>
    obtain ⟨env, henv, htidy⟩ := hw.environment hu
    rcases runUnitScripts_cases budget hu henv htidy.keys with
      ⟨cause, hcause⟩ | ⟨w', env', hon, hround, hattached⟩
    · exact absurd hcause (h cause)
    · have howners : SameOwners w ((runUnitScripts budget id).on w).2 := howners
      rw [hon] at howners ⊢
      exact hattached.descends howners hu henv hround.lasting

lemma descends_runQuery (budget : Nat) (function : String) (params : List Int32)
    (h : ∀ cause, ((runQuery budget id function params).on w).1 ≠ .error (.halt cause))
    (hw : Scheduled record w) : Descends w ((runQuery budget id function params).on w).2 := by
  have howners : SameOwners w ((runQuery budget id function params).on w).2 :=
    (isolated_runQuery budget id function params w).sameOwners
  cases hu : w.units.get? id with
  | none =>
    have hunit : w.unit id = .error (.unknownUnit id) := by simp [World.unit, hu]
    simp only [runQuery, Action.on_get_bind, Action.on_require_bind, hunit]
    exact refl_of Descends w
  | some u =>
    obtain ⟨env, henv, -⟩ := hw.environment hu
    rcases runQuery_cases budget function params hu henv with
      ⟨cause, hcause⟩ | ⟨w', answer, env₁, env', hon, hquery, hattached⟩
    · exact absurd hcause (h cause)
    · rw [hon] at howners ⊢
      exact hattached.descends howners hu henv hquery.lasting

lemma descends_runScriptsNoting (id : UnitId) (budget : Nat)
    (h : ∀ cause, ((runScriptsNoting budget id).on w).1 ≠ .error (.halt cause))
    (hw : Scheduled record w) : Descends w ((runScriptsNoting budget id).on w).2 := by
  have hrun := fun h => descends_runUnitScripts (w := w) id budget h hw
  rw [runScriptsNoting, Action.on_orElse] at h ⊢
  revert h hrun
  rcases (runUnitScripts budget id).on w with ⟨(cause | cause) | _, w'⟩ <;> intro h hrun
  · exact trans_of Descends (hrun fun _ h => by cases h) (quiet_note _ w').descends
  · exact absurd rfl (h cause)
  · exact hrun fun _ h => by cases h

/-- The induction is on the units. -/
lemma descends_forM (budget : Nat) (ids : List UnitId)
    (h : ∀ cause, ((ids.forM (runScriptsNoting budget)).on w).1 ≠ .error (.halt cause))
    (hw : Scheduled record w) : Descends w ((ids.forM (runScriptsNoting budget)).on w).2 := by
  induction ids generalizing record w with
  | nil => exact refl_of Descends w
  | cons id rest ih =>
    have hrun := fun h => descends_runScriptsNoting (w := w) id budget h hw
    have hnext := fun h => scheduled_runScriptsNoting (w := w) id budget h hw
    rw [Action.on_forM_cons] at h ⊢
    revert h hrun hnext
    rcases (runScriptsNoting budget id).on w with ⟨(cause | cause) | _, w'⟩ <;>
      intro h hrun hnext
    · exact hrun fun _ h => by cases h
    · exact absurd rfl (h cause)
    · exact trans_of Descends (hrun fun _ h => by cases h) (ih h (hnext fun _ h => by cases h))

lemma descends_tick (budget : Nat)
    (h : ∀ cause, ((tick budget).on w).1 ≠ .error (.halt cause)) (hw : Scheduled record w) :
    Descends w ((tick budget).on w).2 := by
  have hbegin := (sameOwners_beginTick w).descends (sameScripts_beginTick w)
  have hrun := fun h => descends_forM (w := w.beginTick) budget w.beginTick.units.keys h
    (hw.same (sameScripts_beginTick w))
  simp only [tick, Action.on_modify_bind, Action.on_get_bind] at h ⊢
  rw [Action.on_bind] at h ⊢
  revert hrun h
  rcases (w.beginTick.units.keys.forM (runScriptsNoting budget)).on w.beginTick with
    ⟨(cause | cause) | _, w₁⟩ <;> intro hrun h
  · exact trans_of Descends hbegin (hrun fun _ h => by cases h)
  · exact absurd rfl (h cause)
  · have hpieces := trans_of Quiet (quiet_stepPieces w₁) (quiet_stepProjectiles w₁.stepPieces)
    exact trans_of Descends hbegin <|
      trans_of Descends (hrun fun _ h => by cases h) <|
        trans_of Descends hpieces.descends (descends_sweep _)

/-- The operation puts a unit on the map. -/
def Operation.IsCreation : Operation → Prop
  | addUnit .. | spawnUnit .. => True
  | _ => False

theorem descends_after {o : Operation} (hcreation : ¬o.IsCreation) (ho : o.Completes w)
    (hw : Scheduled record w) : Descends w (o.after w) := by
  cases o with
  | addUnit => exact absurd trivial hcreation
  | spawnUnit => exact absurd trivial hcreation
  | addFeature t f =>
    rw [Operation.after, Operation.perform, Action.on_discard]
    exact descends_addFeature t f w
  | moveUnit id position =>
    rw [Operation.after, Operation.perform, Action.on_discard]
    exact descends_tryMoveUnit position w
  | setYardOpen id isOpen => exact descends_setYardOpen isOpen w
  | startScript id function params =>
    exact Respects.bind (R := Descends) (descends_startScript _ _) (fun _ => .pure _) w
  | runQuery budget id function params =>
    rw [Operation.after, Operation.perform, Action.on_discard]
    exact descends_runQuery budget function params
      (fun cause hcause => ho cause (Action.on_bind_eq_error _ hcause)) hw
  | runUnitScripts budget id => exact descends_runUnitScripts id budget ho hw
  | tick budget => exact descends_tick budget ho hw
  | _ => exact (quiet_after (by trivial) w).descends

/-! ### Units that are created -/

/-- The step creates a unit of a type, which is given by a name, for a player, and puts it on the
map under a number. -/
inductive Step.Creates (st : Step) (id : UnitId) (typeName : String) : Prop
  /-- Its script begins. -/
  | spawn {owner position rotation}
    (operation : st.operation = .spawnUnit typeName owner position rotation)
    (answer : ((trySpawnUnit typeName owner position rotation).on st.before).1 = .ok (some id))
  /-- Its script does not begin. -/
  | add {owner position rotation u}
    (operation : st.operation = .addUnit typeName owner position rotation)
    (created : st.before.createUnit typeName owner position rotation = .ok u)
    (answer : ((tryAddUnit u).on st.before).1 = .ok (some id))

/-- A unit is put into the world under the next number. -/
structure Joins (w w' : World) (u : UnitState) : Prop where
  units : w'.units = w.units.insert ⟨w.nextUnit⟩ u
  nextUnit : w'.nextUnit.toNat = w.nextUnit.toNat + 1
  players : w'.players = w.players

lemma tryAddUnit_joins (u : UnitState) (w : World) :
    (∃ answer, (tryAddUnit u).on w = (answer, w) ∧ ∀ id, answer ≠ .ok (some id)) ∨
      ∃ w', (tryAddUnit u).on w = (.ok (some ⟨w.nextUnit⟩), w') ∧ Joins w w' u := by
  rcases tryAddUnit_cases u w with h | ⟨t, r, next, g, w', hon, hw', h⟩
  · exact .inl h
  · have hnext : w'.nextUnit.toNat = w.nextUnit.toNat + 1 := by
      rcases h with h | ⟨yard, h⟩
      · exact h.nextUnit
      · exact h.nextUnit
    exact .inr ⟨w', hon, by rw [hw'], hnext, by rw [hw']⟩

lemma player_eq_ok {owner : PlayerId} {p : Player} (h : w.player owner = .ok p) :
    owner.val.toNat < w.players.size := by
  rw [World.player] at h
  split at h
  · rename_i hp
    exact (Array.getElem?_eq_some_iff.1 hp).1
  · cases h

/-- What a unit is created from. -/
structure Created (w : World) (typeName : String) (owner : PlayerId) (u : UnitState)
    (program : Program) : Prop where
  script : w.definitions.script typeName = .ok program
  player : owner.val.toNat < w.players.size
  owner : u.owner = owner
  environment : u.environment = some (.new program)

lemma createUnit_eq_ok {typeName : String} {owner : PlayerId} {position : Vector3}
    {rotation : Option Angle} {u : UnitState}
    (h : w.createUnit typeName owner position rotation = .ok u) :
    ∃ program, Created w typeName owner u program := by
  rw [createUnit] at h
  obtain ⟨p, hp, h⟩ := exists_of_bind_eq_ok h
  obtain ⟨t, -, h⟩ := exists_of_bind_eq_ok h
  obtain ⟨m, -, h⟩ := exists_of_bind_eq_ok h
  obtain ⟨program, hprogram, h⟩ := exists_of_bind_eq_ok h
  cases h
  exact ⟨program, hprogram, player_eq_ok hp, rfl, rfl⟩

lemma Created.lift {typeName : String} {owner : PlayerId} {u : UnitState} {program : Program}
    (h : Created w typeName owner u program) (seaLevel : Scalar) (t : UnitType) :
    Created w typeName owner (liftToSea seaLevel t u) program := by
  rw [liftToSea]
  split
  · exact { h with }
  · exact h

/-- The script of a unit that has just been put on the map can be started. -/
lemma startScript_new {u : UnitState} {program : Program} (hu : w.units.get? id = some u)
    (henv : u.environment = some (.new program)) (function : String) (params : List Int32) :
    ∃ n, ((startScript id function params).on w).1 = .ok n := by
  simp only [startScript, Action.on_get_bind, Action.on_require_bind, unit_eq_ok.2 hu, henv]
  cases hs : (Environment.new program).startNamed function params with
  | ok p => exact ⟨_, rfl⟩
  | error failure =>
    cases failure with
    | fault e => exact ⟨_, rfl⟩
    | halt cause =>
      -- the first number that is given out does not overflow
      have hnext : Overflow.successor (Environment.new program).nextThread = .ok 1 := rfl
      simp only [Environment.startNamed, Environment.startThread, hnext] at hs
      split at hs
      · cases hs
      · split at hs <;> cases hs

/-- The script of a unit that has just been put on the map begins, which cannot go wrong. -/
lemma begin_new {u : UnitState} {program : Program} (hu : w.units.get? id = some u)
    (henv : u.environment = some (.new program)) :
    ∃ w', (do
      let _ ← startScript id "Create" []
      modify (·.tell (.spawned id))
      return some id : Action (Option UnitId)).on w = (.ok (some id), w') ∧ Descends w w' ∧
        SamePlan w w' := by
  obtain ⟨n, hn⟩ := startScript_new hu henv "Create" []
  have hstart : Descends w ((startScript id "Create" []).on w).2 :=
    descends_startScript "Create" [] w
  have hplan : SamePlan w ((startScript id "Create" []).on w).2 :=
    samePlan_startScript "Create" [] w
  rw [Action.on_bind]
  revert hn hstart hplan
  rcases (startScript id "Create" []).on w with ⟨_ | n', w'⟩ <;> intro hn hstart hplan
  · cases hn
  · exact ⟨_, rfl, trans_of Descends hstart (quiet_tell _ w').descends,
      trans_of SamePlan hplan (quiet_tell _ w').plan⟩

/-- A unit is created, put on the map and begins with its script, or nothing happens. -/
lemma trySpawnUnit_cases (typeName : String) (owner : PlayerId) (position : Vector3)
    (rotation : Option Angle) (w : World) :
    (∃ answer, (trySpawnUnit typeName owner position rotation).on w = (answer, w) ∧
        ∀ id, answer ≠ .ok (some id)) ∨
      ∃ u program w₁ w', Created w typeName owner u program ∧
        (tryAddUnit u).on w = (.ok (some ⟨w.nextUnit⟩), w₁) ∧ Joins w w₁ u ∧
        Descends w₁ w' ∧ SamePlan w₁ w' ∧
        (trySpawnUnit typeName owner position rotation).on w =
          (.ok (some ⟨w.nextUnit⟩), w') := by
  simp only [trySpawnUnit, Action.on_get_bind, Action.on_require_bind]
  cases hu : w.createUnit typeName owner position rotation with
  | error cause => exact .inl ⟨_, rfl, fun id h => by cases h⟩
  | ok u =>
  simp only
  cases ht : w.definitions.unitType typeName with
  | error cause => exact .inl ⟨_, rfl, fun id h => by cases h⟩
  | ok t =>
  obtain ⟨program, hcreated⟩ := createUnit_eq_ok hu
  have hlift := hcreated.lift w.terrain.seaLevel t
  simp only
  generalize liftToSea w.terrain.seaLevel t u = u at hlift ⊢
  rw [Action.on_bind]
  rcases tryAddUnit_joins u w with ⟨answer, hon, hanswer⟩ | ⟨w₁, hon, hjoins⟩
  · refine .inl ⟨answer, ?_, hanswer⟩
    rw [hon]
    rcases answer with _ | _ | id
    · rfl
    · rfl
    · exact absurd rfl (hanswer id)
  · have hunit : w₁.units.get? ⟨w.nextUnit⟩ = some u := by
      rw [hjoins.units, SortedTable.get?_insert, if_pos rfl]
    obtain ⟨w', hbegin, hdescends, hplan⟩ := begin_new hunit hlift.environment
    rw [hon]
    exact .inr ⟨u, program, w₁, w', hlift, hon, hjoins, hdescends, hplan, hbegin⟩

/-! ### What holds of all units -/

/-- Every unit in the world was created by an operation, for a player who is still there, and has
the script that its type had been given, with all its static variables. -/
structure Founded (d : Definitions) (past : List Step) (w : World) : Prop where
  number : ∀ {st id name}, st ∈ past → st.Creates id name → id.val.toNat < w.nextUnit.toNat
  owner : ∀ {id u}, w.units.get? id = some u → u.owner.val.toNat < w.players.size
  origin : ∀ {id u}, w.units.get? id = some u → ∃ st ∈ past, ∃ name, st.Creates id name
  script : ∀ {id u}, w.units.get? id = some u → ∃ env, u.environment = some env ∧
    env.statics.length = env.program.staticCount ∧
    ∀ st ∈ past, ∀ name, st.Creates id name → d.script name = .ok env.program

namespace Founded

variable {d : Definitions} {st : Step} {u : UnitState} {program : Program}

lemma initial (h : Initial s w) : Founded d [] w where
  number hst := absurd hst List.not_mem_nil
  owner hu := by rw [h.units] at hu; cases hu
  origin hu := by rw [h.units] at hu; cases hu
  script hu := by rw [h.units] at hu; cases hu

lemma descend (h : Founded d past w) (hw : Descends w w') : Founded d past w' where
  number hmem hcreates := Nat.lt_of_lt_of_le (h.number hmem hcreates) hw.nextUnit
  owner hu' := by
    obtain ⟨u, hu, howner, -⟩ := hw.units hu'
    rw [howner]
    exact Nat.lt_of_lt_of_le (h.owner hu) hw.players
  origin hu' := by
    obtain ⟨u, hu, -⟩ := hw.units hu'
    exact h.origin hu
  script hu' := by
    obtain ⟨u, hu, -, hendures⟩ := hw.units hu'
    obtain ⟨env, henv, hstatics, hscript⟩ := h.script hu
    rw [henv] at hendures
    rcases hendures with heq | ⟨_, env', ⟨⟩, heq, hlasting⟩
    · exact ⟨env, heq, hstatics, hscript⟩
    · refine ⟨env', heq, ?_, ?_⟩
      · rw [hlasting.statics, hlasting.program, hstatics]
      · rw [hlasting.program]
        exact hscript

/-- A step that creates no unit. -/
lemma append (h : Founded d past w) (hst : ∀ id name, ¬st.Creates id name) :
    Founded d (past ++ [st]) w := by
  -- whatever was created, was created before
  have earlier : ∀ {st' id name}, st' ∈ past ++ [st] → st'.Creates id name → st' ∈ past := by
    intro st' id name hmem hcreates
    rcases List.mem_append.1 hmem with hmem | hmem
    · exact hmem
    · rw [List.mem_singleton.1 hmem] at hcreates
      exact absurd hcreates (hst id name)
  refine ⟨fun hmem hcreates => h.number (earlier hmem hcreates) hcreates, h.owner,
    fun hu => ?_, fun hu => ?_⟩
  · obtain ⟨st', hmem, name, hcreates⟩ := h.origin hu
    exact ⟨st', List.mem_append_left _ hmem, name, hcreates⟩
  · obtain ⟨env, henv, hstatics, hscript⟩ := h.script hu
    exact ⟨env, henv, hstatics, fun st' hmem name hcreates =>
      hscript st' (earlier hmem hcreates) name hcreates⟩

/-- A step that creates one unit, which joins the world. -/
lemma join (h : Founded w.definitions past w) {typeName : String} {owner : PlayerId}
    (hjoins : Joins w w' u) (hcreated : Created w typeName owner u program)
    (hst : ∀ id name, st.Creates id name ↔ id = ⟨w.nextUnit⟩ ∧ name = typeName) :
    Founded w.definitions (past ++ [st]) w' := by
  have hnew : st.Creates ⟨w.nextUnit⟩ typeName := (hst _ _).2 ⟨rfl, rfl⟩
  -- the numbers of the other units had been given out before
  have other : ∀ {id u'}, w.units.get? id = some u' → id ≠ ⟨w.nextUnit⟩ := by
    rintro id u' hu' rfl
    obtain ⟨st', hmem, name, hcreates⟩ := h.origin hu'
    exact absurd (h.number hmem hcreates) (Nat.lt_irrefl _)
  have cases_unit : ∀ {id u'}, w'.units.get? id = some u' →
      id = ⟨w.nextUnit⟩ ∧ u' = u ∨ w.units.get? id = some u' := by
    intro id u' hu'
    rw [hjoins.units, SortedTable.get?_insert] at hu'
    split at hu'
    · rename_i hid
      cases hu'
      exact .inl ⟨Ranked.rank_eq_iff.1 hid, rfl⟩
    · exact .inr hu'
  refine ⟨fun {st' id name} hmem hcreates => ?_, fun hu' => ?_, fun hu' => ?_, fun hu' => ?_⟩
  · rw [hjoins.nextUnit]
    rcases List.mem_append.1 hmem with hmem | hmem
    · exact Nat.lt_succ_of_lt (h.number hmem hcreates)
    · rw [List.mem_singleton.1 hmem] at hcreates
      rw [((hst _ _).1 hcreates).1]
      exact Nat.lt_succ_self _
  · rw [hjoins.players]
    rcases cases_unit hu' with ⟨-, rfl⟩ | hu
    · rw [hcreated.owner]
      exact hcreated.player
    · exact h.owner hu
  · rcases cases_unit hu' with ⟨rfl, rfl⟩ | hu
    · exact ⟨st, List.mem_append_right _ (List.mem_singleton.2 rfl), typeName, hnew⟩
    · obtain ⟨st', hmem, name, hcreates⟩ := h.origin hu
      exact ⟨st', List.mem_append_left _ hmem, name, hcreates⟩
  · rcases cases_unit hu' with ⟨rfl, rfl⟩ | hu
    · refine ⟨_, hcreated.environment, List.length_replicate, fun st' hmem name hcreates => ?_⟩
      rcases List.mem_append.1 hmem with hmem | hmem
      · exact absurd (h.number hmem hcreates) (Nat.lt_irrefl _)
      · rw [List.mem_singleton.1 hmem] at hcreates
        rw [((hst _ _).1 hcreates).2]
        exact hcreated.script
    · obtain ⟨env, henv, hstatics, hprogram⟩ := h.script hu
      refine ⟨env, henv, hstatics, fun st' hmem name hcreates => ?_⟩
      rcases List.mem_append.1 hmem with hmem | hmem
      · exact hprogram st' hmem name hcreates
      · rw [List.mem_singleton.1 hmem] at hcreates
        exact absurd ((hst _ _).1 hcreates).1 (other hu)

end Founded

lemma founded_addUnit (typeName : String) (owner : PlayerId) (position : Vector3)
    (rotation : Option Angle) (hw : Founded w.definitions past w) :
    Founded w.definitions (past ++ [⟨w, .addUnit typeName owner position rotation⟩])
      ((Operation.addUnit typeName owner position rotation).after w) := by
  simp only [Operation.after, Operation.perform, Action.on_get_bind, Action.on_require_bind]
  cases hu : w.createUnit typeName owner position rotation with
  | error cause =>
    refine hw.append fun id name hcreates => ?_
    cases hcreates with
    | spawn hoperation => cases hoperation
    | add hoperation hcreated =>
      cases hoperation
      rw [hu] at hcreated
      cases hcreated
  | ok u =>
    obtain ⟨program, hcreated⟩ := createUnit_eq_ok hu
    simp only [Action.on_discard]
    rcases tryAddUnit_joins u w with ⟨answer, hon, hanswer⟩ | ⟨w', hon, hjoins⟩
    · rw [hon]
      refine hw.append fun id name hcreates => ?_
      cases hcreates with
      | spawn hoperation => cases hoperation
      | add hoperation hcreated hid =>
        cases hoperation
        rw [hu] at hcreated
        cases hcreated
        rw [hon] at hid
        exact hanswer id hid
    · rw [hon]
      refine hw.join hjoins hcreated fun id name => ⟨fun hcreates => ?_, ?_⟩
      · cases hcreates with
        | spawn hoperation => cases hoperation
        | add hoperation hcreated hid =>
          cases hoperation
          rw [hu] at hcreated
          cases hcreated
          rw [hon] at hid
          cases hid
          exact ⟨rfl, rfl⟩
      · rintro ⟨rfl, rfl⟩
        exact .add rfl hu (congrArg Prod.fst hon)

lemma founded_spawnUnit (typeName : String) (owner : PlayerId) (position : Vector3)
    (rotation : Option Angle) (hw : Founded w.definitions past w) :
    Founded w.definitions (past ++ [⟨w, .spawnUnit typeName owner position rotation⟩])
      ((Operation.spawnUnit typeName owner position rotation).after w) := by
  rw [Operation.after, Operation.perform, Action.on_discard]
  rcases trySpawnUnit_cases typeName owner position rotation w with
    ⟨answer, hon, hanswer⟩ | ⟨u, program, w₁, w', hcreated, -, hjoins, hdescends, -, hon⟩
  · rw [hon]
    refine hw.append fun id name hcreates => ?_
    cases hcreates with
    | spawn hoperation hid =>
      cases hoperation
      rw [hon] at hid
      exact hanswer id hid
    | add hoperation => cases hoperation
  · rw [hon]
    refine (hw.join hjoins hcreated fun id name => ⟨fun hcreates => ?_, ?_⟩).descend hdescends
    · cases hcreates with
      | spawn hoperation hid =>
        cases hoperation
        rw [hon] at hid
        cases hid
        exact ⟨rfl, rfl⟩
      | add hoperation => cases hoperation
    · rintro ⟨rfl, rfl⟩
      exact .spawn rfl (congrArg Prod.fst hon)

lemma Step.Creates.isCreation {st : Step} {name : String} (h : st.Creates id name) :
    st.operation.IsCreation := by
  cases h with
  | spawn hoperation => rw [hoperation]; trivial
  | add hoperation => rw [hoperation]; trivial

theorem Run.founded (h : Run s past w) : Founded s.definitions past w := by
  induction h with
  | start h => exact .initial (initial_new h)
  | @step past w o hrun ho ih =>
    by_cases hcreation : o.IsCreation
    · rw [← hrun.definitions] at ih ⊢
      cases o with
      | addUnit => exact founded_addUnit _ _ _ _ ih
      | spawnUnit => exact founded_spawnUnit _ _ _ _ ih
      | _ => exact absurd hcreation id
    · exact (ih.append fun id name hcreates => hcreation hcreates.isCreation).descend
        (descends_after hcreation ho hrun.scheduled)

end Lockstep.World
