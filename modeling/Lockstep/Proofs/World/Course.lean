import Lockstep.Proofs.World.Turns
/-!
# What operations do to the script state of a unit

For a single unit an operation of a battle does one of a few things to the script state: nothing, a
thread is started, all threads get their turns, or a function is run at once.  Besides, the unit can
be put on the map or taken off it.  `fate_after` finds this for every operation, together with the
turns of the unit; what is to be shown of the threads of all battles is shown along these courses.
-/

namespace Lockstep.World

open Script (Environment Lasting Machine Numbered Passed Thread ThreadState)

/-- The script state of a unit, if it is in the world and in the unit. -/
def environment? (w : World) (id : UnitId) : Option Environment :=
  (w.units.get? id).bind UnitState.environment

/-- All threads of a unit get their turns. -/
def AllTurns (budget : Nat) (id : UnitId) (env : Environment) (l : List Turn)
    (env' : Environment) : Prop :=
  ∃ w w', (env.threads.keys.foldlM (visitThread budget id) env).on w = (.ok env', w') ∧
    l = turnsOf budget id env.threads.keys w env

/-- What happens to a script state in the course of an operation, with the turns of the unit. -/
inductive Course (id : UnitId) (env : Environment) : List Turn → Environment → Prop
  /-- Nothing. -/
  | still : Course id env [] env
  /-- A thread is started if there is the function. -/
  | started {function params o env'} : env.startNamed function params = .ok (o, env') →
      Course id env [] env'
  /-- All threads get their turns. -/
  | round {budget l env'} : AllTurns budget id env l env' → Course id env l env'
  /-- A function is run at once. -/
  | query {T function params m r m'} : T.unit = id →
      env.startNamed function params = .ok (some T.thread, T.environment) →
      m.environment = T.environment.removeThread T.thread → T.start? = some m →
      Trail id m T.trail r m' → Course id env [T] m'.environment

/-- What becomes of the script state of a unit, with the turns of the unit. -/
inductive Fate (id : UnitId) (w w' : World) : List Turn → Prop
  /-- The unit is not in the world; a unit that joins gets the next number. -/
  | absent : w.environment? id = none →
      w'.environment? id = none ∨ w.nextUnit.toNat ≤ id.val.toNat → Fate id w w' []
  /-- The unit is in the world; at the end it may be taken off the map. -/
  | present {env l env'} : w.environment? id = some env → Course id env l env' →
      w'.environment? id = some env' ∨ w'.environment? id = none → Fate id w w' l

variable {w w' : World} {id : UnitId} {env env' : Environment} {l : List Turn}
  {record : List (UnitId × ThreadId)}

lemma AllTurns.turned {budget : Nat} (h : AllTurns budget id env l env')
    (hnumbered : Numbered env) : Turned l env env' := by
  obtain ⟨w, w', hon, rfl⟩ := h
  exact turned_turnsOf hnumbered hon

lemma Course.turned (h : Course id env l env') (hnumbered : Numbered env) :
    Turned l env env' := by
  cases h with
  | still => exact .refl hnumbered
  | started hs => exact .of_startNamed hnumbered hs
  | round hround => exact hround.turned hnumbered
  | query hunit hs hm hstart htrail => exact .of_query hnumbered hs hm (hunit ▸ htrail)

/-! ### Script states in the world -/

lemma environment?_eq_join (w : World) (id : UnitId) :
    w.environment? id = ((w.units.get? id).map UnitState.environment).join := by
  rw [environment?]
  cases w.units.get? id <;> rfl

lemma SameScripts.environment? (h : SameScripts w w') (id : UnitId) :
    w'.environment? id = w.environment? id := by
  rw [environment?_eq_join, h.environments, environment?_eq_join]

/-- Only the script state of one unit is replaced. -/
lemma Attached.environment? (h : Attached id env w w') (other : UnitId) :
    w'.environment? other =
      if other = id then (w.units.get? other).map fun _ => env else w.environment? other := by
  rw [environment?_eq_join, h.environments, environment?_eq_join]
  split
  · cases w.units.get? other <;> rfl
  · rfl

lemma environment?_eq_some {u : UnitState} (hu : w.units.get? id = some u)
    (henv : u.environment = some env) : w.environment? id = some env := by
  rw [World.environment?, hu, Option.bind_some, henv]

lemma Scheduled.numbered (h : Scheduled record w) (henv : w.environment? id = some env) :
    id.val.toNat < w.nextUnit.toNat ∧ Numbered env ∧
      ∃ u, w.units.get? id = some u ∧ u.environment = some env := by
  obtain ⟨u, hu, hu'⟩ := Option.bind_eq_some_iff.1 henv
  obtain ⟨env₁, henv₁, htidy⟩ := h.environment hu
  rw [hu'] at henv₁
  cases henv₁
  exact ⟨(h.stored (by rw [hu]; rfl)).1, htidy.stored, u, hu, hu'⟩

/-- A unit without script state is not in the world. -/
lemma Scheduled.get?_eq_none (h : Scheduled record w) (henv : w.environment? id = none) :
    w.units.get? id = none := by
  cases hu : w.units.get? id with
  | none => rfl
  | some u =>
    obtain ⟨env, hu', -⟩ := h.environment hu
    rw [environment?_eq_some hu hu'] at henv
    cases henv

lemma SameScripts.fate (h : SameScripts w w') (id : UnitId) : Fate id w w' [] := by
  cases henv : w.environment? id with
  | none => exact .absent henv (.inl (by rw [h.environment?, henv]))
  | some env => exact .present henv .still (.inl (by rw [h.environment?, henv]))

/-- A unit joins, and nothing else happens to script states, except to its own. -/
lemma Scheduled.fate_join (hw : Scheduled record w)
    (h : ∀ {other : UnitId}, other ≠ ⟨w.nextUnit⟩ →
      w'.environment? other = w.environment? other) (id : UnitId) : Fate id w w' [] := by
  cases henv : w.environment? id with
  | none =>
    by_cases hid : id = ⟨w.nextUnit⟩
    · exact .absent henv (.inr (Nat.le_of_eq (by rw [hid])))
    · exact .absent henv (.inl (by rw [h hid, henv]))
  | some env =>
    have hid : id ≠ ⟨w.nextUnit⟩ := by
      rintro rfl
      exact Nat.lt_irrefl _ (hw.numbered henv).1
    exact .present henv .still (.inl (by rw [h hid, henv]))

lemma Joins.environment? {u : UnitState} (h : Joins w w' u) {other : UnitId}
    (hother : other ≠ ⟨w.nextUnit⟩) : w'.environment? other = w.environment? other := by
  rw [World.environment?, h.units, SortedTable.get?_insert,
    if_neg (mt Ranked.rank_eq_iff.1 hother), World.environment?]

/-! ### Threads that are started -/

lemma startScript_cases (function : String) (params : List Int32) (w : World) :
    SameScripts w ((startScript id function params).on w).2 ∨
      ∃ u env o env', w.units.get? id = some u ∧ u.environment = some env ∧
        env.startNamed function params = .ok (o, env') ∧
        Attached id env' w ((startScript id function params).on w).2 := by
  simp only [startScript, Action.on_get_bind, Action.on_require_bind]
  cases hu : w.unit id with
  | error cause => exact .inl (refl_of SameScripts w)
  | ok u =>
  simp only
  cases henv : u.environment with
  | none => exact .inl (quiet_note _ w).scripts
  | some env =>
  simp only
  cases hs : env.startNamed function params with
  | error failure =>
    cases failure with
    | fault e => exact .inl (refl_of SameScripts w)
    | halt cause => exact .inl (refl_of SameScripts w)
  | ok p =>
    exact .inr ⟨u, env, p.1, p.2, unit_eq_ok.1 hu, henv, hs, attached_attachEnvironment p.2 w⟩

lemma fate_startScript (function : String) (params : List Int32) (w : World) (other : UnitId) :
    Fate other w ((startScript id function params).on w).2 [] := by
  rcases startScript_cases function params w with h | ⟨u, env, o, env', hu, henv, hs, h⟩
  · exact h.fate other
  by_cases hother : other = id
  · subst hother
    refine .present (environment?_eq_some hu henv) (.started hs) (.inl ?_)
    rw [h.environment?, if_pos rfl, hu, Option.map_some]
  · have hsame := h.environment? other
    rw [if_neg hother] at hsame
    cases henv : w.environment? other with
    | none => exact .absent henv (.inl (hsame.trans henv))
    | some env => exact .present henv .still (.inl (hsame.trans henv))

lemma environment?_startScript (function : String) (params : List Int32) {other : UnitId}
    (hother : other ≠ id) (w : World) :
    ((startScript id function params).on w).2.environment? other = w.environment? other := by
  rcases startScript_cases function params w with h | ⟨u, env, o, env', -, -, -, h⟩
  · exact h.environment? other
  · rw [h.environment?, if_neg hother]

lemma fate_spawnUnit (typeName : String) (owner : PlayerId) (position : Vector3)
    (rotation : Option Angle) (hw : Scheduled record w) (id : UnitId) :
    Fate id w ((trySpawnUnit typeName owner position rotation).on w).2 [] := by
  simp only [trySpawnUnit, Action.on_get_bind, Action.on_require_bind]
  cases w.createUnit typeName owner position rotation with
  | error cause => exact (refl_of SameScripts w).fate id
  | ok u =>
  simp only
  cases w.definitions.unitType typeName with
  | error cause => exact (refl_of SameScripts w).fate id
  | ok t =>
  simp only
  generalize liftToSea w.terrain.seaLevel t u = u
  rw [Action.on_bind]
  rcases tryAddUnit_joins u w with ⟨answer, hon, hanswer⟩ | ⟨w₁, hon, hjoins⟩
  · rw [hon]
    rcases answer with _ | _ | n
    · exact (refl_of SameScripts w).fate id
    · exact (refl_of SameScripts w).fate id
    · exact absurd rfl (hanswer n)
  · rw [hon]
    refine hw.fate_join (fun {other} hother => ?_) id
    rw [← hjoins.environment? hother]
    have hstart := environment?_startScript "Create" [] hother w₁
    simp only [Action.on_bind]
    revert hstart
    rcases (startScript ⟨w.nextUnit⟩ "Create" []).on w₁ with ⟨_ | n, w₂⟩ <;> intro hstart
    · exact hstart
    · exact ((quiet_tell _ w₂).scripts.environment? other).trans hstart

/-! ### Turns -/

lemma attached_of_scripted {w₁ : World} (h : Scripted (w.detachEnvironment id) w₁)
    (env : Environment) : Attached id env w (w₁.attachEnvironment id env) :=
  attached_of_detached h.scripts env

lemma unitTurns_eq (henv : w.environment? id = some env) (budget : Nat) :
    unitTurns budget id w =
      turnsOf budget id env.threads.keys (w.detachEnvironment id) env := by
  rw [World.environment?] at henv
  simp only [unitTurns, unitVisits, henv, turnsOf]

lemma unitTurns_eq_nil (henv : w.environment? id = none) (budget : Nat) :
    unitTurns budget id w = [] := by
  rw [World.environment?] at henv
  simp only [unitTurns, unitVisits, henv, List.map_nil]

/-- When the scripts of a unit run, all its threads get their turns. -/
lemma allTurns_runUnitScripts (budget : Nat)
    (h : ∀ cause, ((runUnitScripts budget id).on w).1 ≠ .error (.halt cause))
    (hw : Scheduled record w) (henv : w.environment? id = some env) :
    ∃ env', AllTurns budget id env (unitTurns budget id w) env' ∧
      ((runUnitScripts budget id).on w).1 = .ok () ∧
      Attached id env' w ((runUnitScripts budget id).on w).2 := by
  obtain ⟨-, hnumbered, u, hu, hu'⟩ := hw.numbered henv
  have hstored : ∀ n ∈ env.threads.keys, n.val.toNat < env.nextThread.toNat := fun n hn => by
    obtain ⟨⟨k, t⟩, hmem, rfl⟩ := List.mem_map.1 hn
    exact hnumbered (SortedTable.get?_eq_some_iff.2 hmem)
  have hscripts : Scripted (w.detachEnvironment id)
      ((env.threads.keys.foldlM (visitThread budget id) env).on (w.detachEnvironment id)).2 :=
    Respects.foldlM (R := Scripted)
      (fun _ n _ => (scriptLaw_scripted id).respects_visitThread budget _ n) env _
  rw [unitTurns_eq henv]
  simp only [runUnitScripts, Action.on_get_bind, Action.on_require_bind, unit_eq_ok.2 hu, hu',
    Action.on_modify_bind] at h ⊢
  rcases foldlM_visitThread_cases id budget (w.detachEnvironment id) hstored with
    ⟨cause, hcause⟩ | ⟨w₁, env', hon, -, -⟩
  · exact absurd (Action.on_bind_eq_error _ hcause) (h cause)
  · rw [hon] at hscripts
    rw [Action.on_bind, hon]
    exact ⟨env', ⟨_, w₁, hon, rfl⟩, rfl, attached_of_scripted hscripts env'⟩

lemma runUnitScripts_of_missing (hu : w.units.get? id = none) (budget : Nat) :
    (runUnitScripts budget id).on w = (.error (.refused (.unknownUnit id)), w) := by
  have hunit : w.unit id = .error (.unknownUnit id) := by simp [World.unit, hu]
  simp only [runUnitScripts, Action.on_get_bind, Action.on_require_bind, hunit]

/-- The turns of one unit among those of several. -/
def ofUnit (id : UnitId) (l : List Turn) : List Turn := l.filter fun T => decide (T.unit = id)

lemma ofUnit_append (id : UnitId) (l l' : List Turn) :
    ofUnit id (l ++ l') = ofUnit id l ++ ofUnit id l' := List.filter_append ..

lemma mem_ofUnit {T : Turn} : T ∈ ofUnit id l ↔ T ∈ l ∧ T.unit = id := by
  simp [ofUnit]

lemma ofUnit_unitTurns (budget : Nat) (id other : UnitId) (w : World) :
    ofUnit other (unitTurns budget id w) = if other = id then unitTurns budget id w else [] := by
  have hunit : ∀ T ∈ unitTurns budget id w, T.unit = id := fun T hT => by
    obtain ⟨v, -, rfl⟩ := List.mem_map.1 hT
    rfl
  split
  · rename_i h
    exact List.filter_eq_self.2 fun T hT => by simp [hunit T hT, h]
  · rename_i h
    exact List.filter_eq_nil_iff.2 fun T hT => by simpa [hunit T hT] using fun heq => h heq.symm

/-- A refusal is noted and not passed on. -/
lemma runScriptsNoting_ne_refused (id : UnitId) (budget : Nat) (w : World) (cause : Refusal) :
    ((runScriptsNoting budget id).on w).1 ≠ .error (.refused cause) := by
  rw [runScriptsNoting, Action.on_orElse]
  rcases (runUnitScripts budget id).on w with ⟨(_ | _) | _, w'⟩ <;> intro h <;> cases h

/-- The scripts of a unit run, and nothing happens to the script states of other units. -/
lemma runScriptsNoting_cases (id : UnitId) (budget : Nat)
    (h : ∀ cause, ((runScriptsNoting budget id).on w).1 ≠ .error (.halt cause))
    (hw : Scheduled record w) :
    (w.environment? id = none ∧ SameScripts w ((runScriptsNoting budget id).on w).2) ∨
      ∃ env env', w.environment? id = some env ∧
        AllTurns budget id env (unitTurns budget id w) env' ∧
        ((runScriptsNoting budget id).on w).2.environment? id = some env' ∧
        ∀ other, other ≠ id →
          ((runScriptsNoting budget id).on w).2.environment? other = w.environment? other := by
  rw [runScriptsNoting, Action.on_orElse] at h ⊢
  cases henv : w.environment? id with
  | none =>
    rw [runUnitScripts_of_missing (hw.get?_eq_none henv)]
    exact .inl ⟨rfl, (quiet_note _ w).scripts⟩
  | some env =>
    obtain ⟨-, -, u, hu, -⟩ := hw.numbered henv
    have hrun := fun h => allTurns_runUnitScripts budget h hw henv
    revert h hrun
    rcases (runUnitScripts budget id).on w with ⟨(cause | cause) | _, w'⟩ <;> intro h hrun
    · obtain ⟨env', -, hon, -⟩ := hrun fun _ h => by cases h
      cases hon
    · exact absurd rfl (h cause)
    · obtain ⟨env', hturns, -, hattached⟩ := hrun fun _ h => by cases h
      refine .inr ⟨env, env', rfl, hturns, ?_, fun other hother => ?_⟩
      · rw [hattached.environment?, if_pos rfl, hu, Option.map_some]
      · rw [hattached.environment?, if_neg hother]

/-- The scripts of several units run one after the other; the induction is on the units. -/
lemma forM_cases (budget : Nat) {ids : List UnitId} (hids : ids.Nodup)
    (h : ∀ cause, ((ids.forM (runScriptsNoting budget)).on w).1 ≠ .error (.halt cause))
    (hw : Scheduled record w) (id : UnitId) :
    ((ids.forM (runScriptsNoting budget)).on w).1 = .ok ⟨⟩ ∧
      ((ofUnit id (turnsOfUnits budget ids w) = [] ∧
          ((ids.forM (runScriptsNoting budget)).on w).2.environment? id = w.environment? id ∧
          (id ∈ ids → w.environment? id = none)) ∨
        id ∈ ids ∧ ∃ env env', w.environment? id = some env ∧
          AllTurns budget id env (ofUnit id (turnsOfUnits budget ids w)) env' ∧
          ((ids.forM (runScriptsNoting budget)).on w).2.environment? id = some env') := by
  induction ids generalizing w record with
  | nil => exact ⟨rfl, .inl ⟨rfl, rfl, nofun⟩⟩
  | cons first rest ih =>
    obtain ⟨hfirst, hrest⟩ := List.nodup_cons.1 hids
    have hrun := fun h => runScriptsNoting_cases (w := w) first budget h hw
    have hnext := fun h => scheduled_runScriptsNoting (w := w) first budget h hw
    rw [Action.on_forM_cons] at h ⊢
    rw [turnsOfUnits, ofUnit_append, ofUnit_unitTurns]
    revert h hrun hnext
    cases hon : (runScriptsNoting budget first).on w with
    | mk answer w₁ =>
    rcases answer with (cause | cause) | _ <;> intro h hrun hnext
    · exact absurd (congrArg Prod.fst hon) (runScriptsNoting_ne_refused first budget w cause)
    · exact absurd rfl (h cause)
    · obtain ⟨hanswer, hlater⟩ := ih hrest h (hnext fun _ h => by cases h)
      refine ⟨hanswer, ?_⟩
      have hrun := hrun fun _ h => by cases h
      rcases hrun with ⟨hnone, hsame⟩ | ⟨env, env₁, henv, hturns, hown, hothers⟩
      · -- the unit whose scripts are to run is not in the world
        have hid := hsame.environment? id
        rw [unitTurns_eq_nil hnone, ite_self, List.nil_append, ← hid]
        rcases hlater with ⟨hnil, hget, hmem⟩ | ⟨hmem, hturns⟩
        · refine .inl ⟨hnil, hget, fun hid' => ?_⟩
          rcases List.mem_cons.1 hid' with rfl | hid'
          · exact hid.trans hnone
          · exact hmem hid'
        · exact .inr ⟨List.mem_cons_of_mem first hmem, hturns⟩
      by_cases hid : id = first
      · -- all threads of the unit get their turns, and not again later
        subst hid
        rw [if_pos rfl]
        rcases hlater with ⟨hnil, hget, -⟩ | ⟨hmem, -⟩
        · rw [hnil, List.append_nil]
          exact .inr ⟨List.mem_cons_self, env, env₁, henv, hturns, hget.trans hown⟩
        · exact absurd hmem hfirst
      · rw [if_neg hid, List.nil_append, ← hothers id hid]
        rcases hlater with ⟨hnil, hget, hmem⟩ | ⟨hmem, hturns⟩
        · refine .inl ⟨hnil, hget, fun hid' => ?_⟩
          exact hmem ((List.mem_cons.1 hid').resolve_left hid)
        · exact .inr ⟨List.mem_cons_of_mem first hmem, hturns⟩

lemma environment?_sweep (w : World) (id : UnitId) :
    w.sweep.environment? id = w.environment? id ∨ w.sweep.environment? id = none := by
  rw [sweep]
  generalize w.deadUnits = dead
  induction dead generalizing w with
  | nil => exact .inl rfl
  | cons first dead ih =>
    have hfirst : (w.sweepUnit first).environment? id = w.environment? id ∨
        (w.sweepUnit first).environment? id = none := by
      rw [sweepUnit, (quiet_tell _ _).scripts.environment?, removeUnit]
      split
      · rw [environment?, environment?, SortedTable.get?_erase]
        split
        · exact .inr rfl
        · exact .inl rfl
      · exact .inl rfl
    rw [List.foldl_cons]
    rcases ih (w.sweepUnit first) with h | h
    · rw [h]
      exact hfirst
    · exact .inr h

/-- In a tick all threads of a unit get their turns once; after that the unit may be taken off the
map. -/
lemma tick_cases (budget : Nat)
    (h : ∀ cause, ((tick budget).on w).1 ≠ .error (.halt cause)) (hw : Scheduled record w)
    (id : UnitId) :
    (w.environment? id = none ∧ ofUnit id ((Operation.tick budget).turns w) = [] ∧
        ((tick budget).on w).2.environment? id = none) ∨
      ∃ env env', w.environment? id = some env ∧
        AllTurns budget id env (ofUnit id ((Operation.tick budget).turns w)) env' ∧
        (((tick budget).on w).2.environment? id = some env' ∨
          ((tick budget).on w).2.environment? id = none) := by
  have hbegin := sameScripts_beginTick w
  have hrun := fun h =>
    forM_cases (w := w.beginTick) budget w.beginTick.units.nodup_keys h (hw.same hbegin) id
  simp only [tick, Action.on_modify_bind, Action.on_get_bind] at h ⊢
  rw [Action.on_bind] at h ⊢
  rw [Operation.turns, ← hbegin.environment? id]
  revert hrun h
  rcases (w.beginTick.units.keys.forM (runScriptsNoting budget)).on w.beginTick with
    ⟨(cause | cause) | _, w₁⟩ <;> intro hrun h
  · cases (hrun fun _ h => by cases h).1
  · exact absurd rfl (h cause)
  obtain ⟨-, hrun⟩ := hrun fun _ h => by cases h
  have hpieces := trans_of Quiet (quiet_stepPieces w₁) (quiet_stepProjectiles w₁.stepPieces)
  have hsweep : w₁.stepPieces.stepProjectiles.sweep.environment? id = w₁.environment? id ∨
      w₁.stepPieces.stepProjectiles.sweep.environment? id = none := by
    rw [← hpieces.scripts.environment? id]
    exact environment?_sweep _ id
  rcases hrun with ⟨hnil, hget, hmem⟩ | ⟨-, env, env', henv, hturns, hget⟩
  · -- a unit that is in the world is among those whose scripts run
    have hnone : w.beginTick.environment? id = none := by
      cases hu : w.beginTick.units.get? id with
      | none => rw [environment?, hu, Option.bind_none]
      | some u =>
        exact hmem (List.mem_map.2 ⟨(id, u), SortedTable.get?_eq_some_iff.1 hu, rfl⟩)
    refine .inl ⟨hnone, hnil, ?_⟩
    rcases hsweep with hsweep | hsweep
    · exact hsweep.trans (hget.trans hnone)
    · exact hsweep
  · exact .inr ⟨env, env', henv, hturns, hsweep.imp_left fun h => h.trans hget⟩

/-! ### Functions that are run at once -/

lemma ofUnit_queryTurns (budget : Nat) (id other : UnitId) (function : String)
    (params : List Int32) (w : World) :
    ofUnit other (queryTurns budget id function params w) =
      if other = id then queryTurns budget id function params w else [] := by
  have hunit : ∀ T ∈ queryTurns budget id function params w, T.unit = id := fun T hT => by
    rw [queryTurns] at hT
    split at hT
    · cases hT
    · split at hT
      · rw [List.mem_singleton.1 hT]
      · cases hT
  split
  · rename_i h
    exact List.filter_eq_self.2 fun T hT => by simp [hunit T hT, h]
  · rename_i h
    exact List.filter_eq_nil_iff.2 fun T hT => by simpa [hunit T hT] using fun heq => h heq.symm

/-- A function that is run at once is a turn of its own. -/
lemma course_runQuery (budget : Nat) (function : String) (params : List Int32)
    (h : ∀ cause, ((runQuery budget id function params).on w).1 ≠ .error (.halt cause))
    (hw : Scheduled record w) (henv : w.environment? id = some env) :
    ∃ env', Course id env (queryTurns budget id function params w) env' ∧
      Attached id env' w ((runQuery budget id function params).on w).2 := by
  obtain ⟨-, hnumbered, u, hu, hu'⟩ := hw.numbered henv
  -- nothing runs if no thread is started
  have unchanged : ∀ env₁, Attached id env₁ w
      ((w.detachEnvironment id).attachEnvironment id env₁) :=
    attached_of_detached (refl_of SameScripts _)
  rw [environment?] at henv
  simp only [queryTurns, henv, runQuery, Action.on_get_bind, Action.on_require_bind,
    unit_eq_ok.2 hu, hu', Action.on_modify_bind] at h ⊢
  cases hs : env.startNamed function params with
  | error failure =>
    cases failure with
    | fault e => exact ⟨env, .still, unchanged env⟩
    | halt cause =>
      rw [hs] at h
      exact absurd rfl (h cause)
  | ok p =>
  obtain ⟨o, env₁⟩ := p
  cases o with
  | none => exact ⟨env₁, .started hs, unchanged env₁⟩
  | some n =>
  obtain ⟨-, -, t, hfresh, hthreads, -⟩ := Passed.startNamed_eq_some hs
  have ht : env₁.threads.get? n = some t := by
    rw [hthreads, SortedTable.get?_insert, if_pos rfl]
  rw [hs] at h
  simp only [ht, runForAnswer] at h ⊢
  rw [Action.on_bind, Action.on_get_bind] at h ⊢
  let T : Turn := ⟨id, n, budget, w.detachEnvironment id, env₁⟩
  have hstart : T.start? = some ⟨w.detachEnvironment id, env₁.removeThread n, t⟩ :=
    Turn.start?_of_ready ht hfresh.state
  have htrail : T.trail =
      World.trail id budget ⟨w.detachEnvironment id, env₁.removeThread n, t⟩ :=
    Turn.trail_of_start? hstart
  have hscripted := (scriptLaw_scripted id).of_resume budget
    ⟨w.detachEnvironment id, env₁.removeThread n, t⟩
  have query : ∀ {m r}, Trail id ⟨w.detachEnvironment id, env₁.removeThread n, t⟩
      (World.trail id budget ⟨w.detachEnvironment id, env₁.removeThread n, t⟩) r m →
      Course id env [T] m.environment := fun hruns =>
    .query (T := T) rfl hs rfl hstart (htrail ▸ hruns)
  rcases resume_trail id budget ⟨w.detachEnvironment id, env₁.removeThread n, t⟩ with
    ⟨cause, hcause⟩ | ⟨r, m, hresume, hruns⟩
  · revert h hcause
    rcases (resume id budget).run.run ⟨w.detachEnvironment id, env₁.removeThread n, t⟩ with
      ⟨(e | cause') | _, m⟩ <;> intro h hcause <;> cases hcause
    exact absurd rfl (h cause)
  · rw [hresume] at hscripted ⊢
    refine ⟨m.environment, query hruns, ?_⟩
    rcases r with e | _ | state
    · exact attached_of_scripted (trans_of Scripted hscripted (quiet_note _ _).scripted) _
    · exact attached_of_scripted hscripted _
    · exact attached_of_scripted hscripted _

/-! ### All operations -/

lemma Fate.of_attached {env' : Environment} (henv : w.environment? id = some env)
    (hcourse : Course id env l env') (h : Attached id env' w w') : Fate id w w' l := by
  obtain ⟨u, hu, -⟩ := Option.bind_eq_some_iff.1 henv
  refine .present henv hcourse (.inl ?_)
  rw [h.environment?, if_pos rfl, hu, Option.map_some]

lemma Attached.fate_other {other : UnitId} (h : Attached id env w w') (hother : other ≠ id) :
    Fate other w w' [] := by
  have hsame := h.environment? other
  rw [if_neg hother] at hsame
  cases henv : w.environment? other with
  | none => exact .absent henv (.inl (hsame.trans henv))
  | some env => exact .present henv .still (.inl (hsame.trans henv))

lemma fate_runUnitScripts (budget : Nat) (first : UnitId)
    (h : ∀ cause, ((runUnitScripts budget first).on w).1 ≠ .error (.halt cause))
    (hw : Scheduled record w) (id : UnitId) :
    Fate id w ((runUnitScripts budget first).on w).2 (ofUnit id (unitTurns budget first w)) := by
  rw [ofUnit_unitTurns]
  cases henv : w.environment? first with
  | none =>
    rw [runUnitScripts_of_missing (hw.get?_eq_none henv), unitTurns_eq_nil henv, ite_self]
    exact (refl_of SameScripts w).fate id
  | some env =>
    obtain ⟨env', hturns, -, hattached⟩ := allTurns_runUnitScripts budget h hw henv
    split
    · rename_i hid
      subst hid
      exact .of_attached henv (.round hturns) hattached
    · exact hattached.fate_other ‹_›

lemma fate_runQuery (budget : Nat) (first : UnitId) (function : String) (params : List Int32)
    (h : ∀ cause, ((runQuery budget first function params).on w).1 ≠ .error (.halt cause))
    (hw : Scheduled record w) (id : UnitId) :
    Fate id w ((runQuery budget first function params).on w).2
      (ofUnit id (queryTurns budget first function params w)) := by
  rw [ofUnit_queryTurns]
  cases henv : w.environment? first with
  | none =>
    have hu := hw.get?_eq_none henv
    have hturns : queryTurns budget first function params w = [] := by simp [queryTurns, hu]
    have hunit : w.unit first = .error (.unknownUnit first) := by simp [World.unit, hu]
    simp only [runQuery, Action.on_get_bind, Action.on_require_bind, hunit, hturns, ite_self]
    exact (refl_of SameScripts w).fate id
  | some env =>
    obtain ⟨env', hcourse, hattached⟩ := course_runQuery budget function params h hw henv
    split
    · rename_i hid
      subst hid
      exact .of_attached henv hcourse hattached
    · exact hattached.fate_other ‹_›

/-- What an operation does to the script state of a unit. -/
theorem fate_after {o : Operation} (ho : o.Completes w) (hw : Scheduled record w) (id : UnitId) :
    Fate id w (o.after w) (ofUnit id (o.turns w)) := by
  cases o with
  | addFeature t f =>
    rw [Operation.after, Operation.perform, Action.on_discard]
    exact (sameScripts_addFeature t f w).fate id
  | addUnit typeName owner position rotation =>
    simp only [Operation.after, Operation.perform, Action.on_get_bind, Action.on_require_bind]
    cases w.createUnit typeName owner position rotation with
    | error cause => exact (refl_of SameScripts w).fate id
    | ok u =>
      simp only
      rw [Action.on_discard]
      rcases tryAddUnit_joins u w with ⟨answer, hon, -⟩ | ⟨w₁, hon, hjoins⟩
      · rw [hon]
        exact (refl_of SameScripts w).fate id
      · rw [hon]
        exact hw.fate_join (fun hother => hjoins.environment? hother) id
  | spawnUnit typeName owner position rotation =>
    rw [Operation.after, Operation.perform, Action.on_discard]
    exact fate_spawnUnit typeName owner position rotation hw id
  | moveUnit other position =>
    rw [Operation.after, Operation.perform, Action.on_discard]
    exact (sameScripts_tryMoveUnit position w).fate id
  | setYardOpen other isOpen => exact (scripted_setYardOpen isOpen w).scripts.fate id
  | startScript other function params =>
    rw [Operation.after, Operation.perform, Action.on_discard]
    exact fate_startScript function params w id
  | runQuery budget other function params =>
    rw [Operation.after, Operation.perform, Action.on_discard]
    exact fate_runQuery budget other function params
      (fun cause hcause => ho cause (Action.on_bind_eq_error _ hcause)) hw id
  | runUnitScripts budget other => exact fate_runUnitScripts budget other ho hw id
  | tick budget =>
    rcases tick_cases budget ho hw id with ⟨hnone, hnil, hafter⟩ | ⟨env, env', henv, hturns, hafter⟩
    · rw [hnil]
      exact .absent hnone (.inl hafter)
    · exact .present henv (.round hturns) hafter
  | _ => exact (quiet_after (by trivial) w).scripts.fate id

end Lockstep.World
