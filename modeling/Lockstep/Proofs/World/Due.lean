import Lockstep.Proofs.World.Isolation
import Lockstep.Proofs.World.Resting
import Mathlib.Data.List.TakeWhile
/-!
# Threads that are due

Whether the scripts of a unit do anything when they run can be told beforehand: they do if and only
if one of the stored threads is due, that is, if it is not finished and has nothing to wait for.  If
none is due, nothing in the world changes but the notices and the script state of the unit.

In a tick the scripts of other units run before those of a unit.  They leave its threads and its
pieces alone, so that it is enough to look at the beginning of the tick.
-/

namespace Lockstep

open Script (Environment Machine Program Thread)

namespace World

variable {w w' w₁ : World} {id other : UnitId} {env env' env₁ : Environment} {n k : ThreadId}
  {t : Thread} {T : Turn} {budget : Nat}

/-- One of the threads of a unit is due. -/
def HasDue (w : World) (id : UnitId) : Prop :=
  ∃ env n t, w.environment? id = some env ∧ env.threads.get? n = some t ∧ w.Due id env.program t

lemma not_hasDue_iff (henv : w.environment? id = some env) :
    ¬w.HasDue id ↔ ∀ n ∈ env.threads.keys, w.Dormant id env n := by
  constructor
  · intro h n _ t ht hdue
    exact h ⟨env, n, t, henv, ht, hdue⟩
  · rintro h ⟨env', n, t, henv', ht, hdue⟩
    rw [henv] at henv'
    cases henv'
    exact h n (SortedTable.mem_keys.2 (by rw [ht]; rfl)) t ht hdue

/-! ### The turns of a unit -/

/-- Two worlds that differ in their notices only. -/
def Noted (w w' : World) : Prop := ∃ notices, w' = { w with notices := notices }

instance : IsPreorder World Noted where
  refl w := ⟨w.notices, rfl⟩
  trans := by
    rintro w _ _ ⟨notices, rfl⟩ ⟨notices', rfl⟩
    exact ⟨notices', rfl⟩

lemma noted_note (notice : Notice) (w : World) : Noted w (w.note notice) := ⟨_, rfl⟩

lemma Noted.dormant_iff (h : Noted w w') : w'.Dormant id env n ↔ w.Dormant id env n := by
  obtain ⟨notices, rfl⟩ := h
  rfl

lemma dormant_removeThread (hk : k ≠ n) :
    w.Dormant id (env.removeThread n) k ↔ w.Dormant id env k := by
  have hget : (env.removeThread n).threads.get? k = env.threads.get? k := by
    rw [Environment.removeThread, SortedTable.get?_erase, if_neg (mt Ranked.rank_eq_iff.1 hk)]
  rw [Dormant, Dormant, hget]
  rfl

lemma resumeThread_of_isFinished {w₀ : World} (hfinished : t.isFinished = true)
    (h : (resumeThread budget id n t env).on w₀ = (.ok env₁, w₁)) : w₁ = w₀ ∧ env₁ = env := by
  simp only [resumeThread, Action.on_get_bind] at h
  cases budget with
  | zero => cases h
  | succ budget =>
    have hresume : (resume id (budget + 1)).run.run ⟨w₀, env, { t with state := .ready }⟩ =
        (.ok none, ⟨w₀, env, { t with state := .ready }⟩) := by
      have hstep : (Machine.step host id).run.run ⟨w₀, env, { t with state := .ready }⟩ =
          (.ok (some .finished), ⟨w₀, env, { t with state := .ready }⟩) :=
        Machine.step_of_isFinished hfinished
      rw [resume, run_bind, hstep]
      rfl
    rw [hresume] at h
    cases h
    exact ⟨rfl, rfl⟩

/-- A visit to a thread that is not due at most takes it away and notes that. -/
lemma visitThread_of_dormant (hdormant : w.Dormant id env n)
    (h : (visitThread budget id env n).on w = (.ok env₁, w₁)) :
    Noted w w₁ ∧ (env₁ = env ∨ env₁ = env.removeThread n) := by
  rw [visitThread] at h
  cases ht : env.threads.get? n with
  | none =>
    rw [ht] at h
    cases h
    exact ⟨refl_of Noted w, .inl rfl⟩
  | some t =>
  simp only [ht, Action.on_get_bind] at h
  have hfinished : (w.readiness id env.program t.state).goesOn = true → t.isFinished = true :=
    fun hgoes => by
      by_contra hunfinished
      exact hdormant t ht ⟨eq_false_of_ne_true hunfinished, hgoes⟩
  cases hready : w.readiness id env.program t.state with
  | waiting =>
    simp only [hready] at h
    cases h
    exact ⟨refl_of Noted w, .inl (Script.Passed.putThread_removeThread ht)⟩
  | faulty e =>
    simp only [hready] at h
    cases h
    exact ⟨noted_note _ w, .inr rfl⟩
  | ready =>
    simp only [hready] at h
    obtain ⟨rfl, rfl⟩ := resumeThread_of_isFinished (hfinished (by rw [hready]; rfl)) h
    exact ⟨refl_of Noted _, .inr rfl⟩
  | missing piece =>
    simp only [hready, Action.on_modify_bind] at h
    obtain ⟨rfl, rfl⟩ := resumeThread_of_isFinished (hfinished (by rw [hready]; rfl)) h
    exact ⟨noted_note _ w, .inr rfl⟩

/-- Threads do something in their turns if and only if one of them is due when the first turn
begins; if none is, their turns leave notices only.  The induction is on the threads: as long as
none of them is due, the others stay as they are. -/
lemma turnsOf_idle {threads : List ThreadId} (hthreads : threads.Nodup)
    (h : (threads.foldlM (visitThread budget id) env).on w = (.ok env', w')) :
    (deedsIn (turnsOf budget id threads w env) = [] ↔ ∀ n ∈ threads, w.Dormant id env n) ∧
      ((∀ n ∈ threads, w.Dormant id env n) → Noted w w') := by
  induction threads generalizing w env with
  | nil =>
    cases h
    exact ⟨by simp [turnsOf, visitsOf], fun _ => refl_of Noted _⟩
  | cons n rest ih =>
    obtain ⟨hn, hrest⟩ := List.nodup_cons.1 hthreads
    rw [List.foldlM_cons, Action.on_bind] at h
    cases hvisit : (visitThread budget id env n).on w with
    | mk answer w₁ =>
    rw [hvisit] at h
    rcases answer with _ | env₁
    · cases h
    have hleaves : Turn.Leaves ⟨id, n, budget, w, env⟩ env₁ := Turn.leaves_of_visit hvisit
    have hturns : deedsIn (turnsOf budget id (n :: rest) w env) =
        Turn.deeds ⟨id, n, budget, w, env⟩ ++ deedsIn (turnsOf budget id rest w₁ env₁) := by
      rw [turnsOf_cons hvisit, ← List.singleton_append, deedsIn_append, deedsIn_singleton]
    have hfirst : Turn.deeds ⟨id, n, budget, w, env⟩ = [] ↔ w.Dormant id env n := by
      rw [Turn.deeds, List.map_eq_nil_iff]
      exact hleaves.trail_eq_nil_iff
    have hlater := ih hrest h
    -- a thread that is not due at most goes away, and no other thread notices
    have hstay : w.Dormant id env n → Noted w w₁ ∧
        ((∀ k ∈ rest, w₁.Dormant id env₁ k) ↔ ∀ k ∈ rest, w.Dormant id env k) := by
      intro hdormant
      obtain ⟨hnoted, henv⟩ := visitThread_of_dormant hdormant hvisit
      refine ⟨hnoted, forall₂_congr fun k hk => ?_⟩
      rw [hnoted.dormant_iff]
      rcases henv with rfl | rfl
      · rfl
      · exact dormant_removeThread fun heq => hn (heq ▸ hk)
    rw [hturns, List.append_eq_nil_iff, hfirst, hlater.1, List.forall_mem_cons]
    constructor
    · exact and_congr_right fun hdormant => (hstay hdormant).2
    · rintro ⟨hdormant, hidle⟩
      obtain ⟨hnoted, hsame⟩ := hstay hdormant
      exact trans_of Noted hnoted (hlater.2 (hsame.2 hidle))

/-! ### The scripts of a unit -/

/-- Nothing changes but the notices and the script state of a unit. -/
def Still (id : UnitId) (w w' : World) : Prop :=
  ∃ env, Noted (w.modifyUnit id fun u => { u with environment := env }) w'

/-- The clock, the script state and the pieces of a unit stay as they are. -/
structure Spares (id : UnitId) (w w' : World) : Prop where
  time : w'.time = w.time
  unit : (w'.units.get? id).map (fun u => (u.environment, u.pieces)) =
    (w.units.get? id).map fun u => (u.environment, u.pieces)

instance : IsPreorder World (Spares id) where
  refl _ := ⟨rfl, rfl⟩
  trans _ _ _ h h' := ⟨h'.time.trans h.time, h'.unit.trans h.unit⟩

/-- Whether a thread can go on depends on the clock and the pieces of its unit. -/
lemma readiness_congr (htime : w'.time = w.time)
    (hpieces : (w'.units.get? id).map UnitState.pieces = (w.units.get? id).map UnitState.pieces)
    (p : Program) (state : Script.ThreadState) :
    w'.readiness id p state = w.readiness id p state := by
  have hpiece (name : String) : ((w'.units.get? id).bind fun u => u.piece? name) =
      (w.units.get? id).bind fun u => u.piece? name := by
    cases hu : w.units.get? id <;> cases hu' : w'.units.get? id <;>
      simp_all [UnitState.piece?, UnitState.pieceIndex?]
  cases state <;> simp only [readiness, pieceReadiness, htime, hpiece]

lemma dormant_detachEnvironment :
    (w.detachEnvironment id).Dormant id env n ↔ w.Dormant id env n := by
  have hpieces : ((w.detachEnvironment id).units.get? id).map UnitState.pieces =
      (w.units.get? id).map UnitState.pieces := by
    rw [detachEnvironment, modifyUnit, SortedTable.get?_modify, if_pos rfl, Option.map_map]
    rfl
  have htime : (w.detachEnvironment id).time = w.time := rfl
  have hready := readiness_congr htime hpieces env.program
  simp only [Dormant, Due, hready]

lemma Spares.hasDue_iff (h : Spares id w w') : w'.HasDue id ↔ w.HasDue id := by
  have henv : w'.environment? id = w.environment? id := by
    have henvs := congrArg (fun o => (o.map Prod.fst).join) h.unit
    simpa [environment?_eq_join, Function.comp_def] using henvs
  have hpieces := congrArg (Option.map Prod.snd) h.unit
  simp only [Option.map_map, Function.comp_def] at hpieces
  simp only [HasDue, henv, Due, readiness_congr h.time hpieces]

lemma modifyUnit_modifyUnit (f g : UnitState → UnitState) (w : World) :
    (w.modifyUnit id f).modifyUnit id g = w.modifyUnit id fun u => g (f u) := by
  have hunits : (w.units.modify id f).modify id g = w.units.modify id fun u => g (f u) := by
    refine SortedTable.ext fun other => ?_
    simp only [SortedTable.get?_modify]
    split <;> simp [Function.comp_def]
  simp only [modifyUnit, hunits]

/-- When its scripts run, a unit does something if and only if one of its threads is due; if none
is, nothing changes but the notices and its script state. -/
lemma runScriptsNoting_idle {record : List (UnitId × ThreadId)} (hw : Scheduled record w)
    (hexists : w.unitExists id = true)
    (h : ∀ cause, ((runScriptsNoting budget id).on w).1 ≠ .error (.halt cause)) :
    (deedsIn (unitTurns budget id w) = [] ↔ ¬w.HasDue id) ∧
      (¬w.HasDue id → Still id w ((runScriptsNoting budget id).on w).2) := by
  obtain ⟨u, hu⟩ := Option.isSome_iff_exists.1 hexists
  obtain ⟨env, hu', htidy⟩ := hw.environment hu
  have henv : w.environment? id = some env := environment?_eq_some hu hu'
  rw [unitTurns_eq henv, not_hasDue_iff henv]
  simp only [runScriptsNoting, Action.on_orElse, runUnitScripts, Action.on_get_bind,
    Action.on_require_bind, unit_eq_ok.2 hu, hu', Action.on_modify_bind] at h ⊢
  rw [Action.on_bind] at h ⊢
  rcases foldlM_visitThread_cases id budget (w.detachEnvironment id) htidy.keys with
    ⟨cause, hcause⟩ | ⟨w₁, env', hon, -, -⟩
  · revert h hcause
    rcases (env.threads.keys.foldlM (visitThread budget id) env).on (w.detachEnvironment id) with
      ⟨_ | _, w₁⟩ <;> intro h hcause <;> cases hcause
    exact absurd rfl (h cause)
  · obtain ⟨hdeeds, hnoted⟩ := turnsOf_idle env.threads.nodup_keys hon
    simp only [dormant_detachEnvironment] at hdeeds hnoted
    refine ⟨hdeeds, fun hidle => ⟨some env', ?_⟩⟩
    obtain ⟨notices, rfl⟩ := hnoted hidle
    rw [hon]
    refine ⟨notices, ?_⟩
    have htwice : (w.detachEnvironment id).attachEnvironment id env' =
        w.modifyUnit id fun u => { u with environment := some env' } :=
      modifyUnit_modifyUnit _ _ w
    exact congrArg (fun v : World => { v with notices := notices }) htwice

/-! ### The scripts of all units -/

/-- The scripts of another unit leave a unit's threads and pieces alone. -/
lemma Isolated.spares (h : Isolated other w w') (hid : id ≠ other) : Spares id w w' where
  time := h.time
  unit := h.map_eq fun _ _ hconfined => by rw [hconfined.others hid]

lemma spares_runScriptsNoting (hid : id ≠ other) :
    Respects (Spares id) (runScriptsNoting budget other) :=
  Action.respects_orElse
    ((isolated_runUnitScripts budget other).mono fun _ _ h => h.spares hid)
    fun _ => .modify fun _ => ⟨rfl, rfl⟩

/-- The units whose scripts run before those of a unit. -/
def earlier (ids : List UnitId) (id : UnitId) : List UnitId :=
  ids.takeWhile fun other => decide (other ≠ id)

/-- The world in which the scripts of a unit begin to run when those of several units run. -/
def onset (budget : Nat) (ids : List UnitId) (id : UnitId) (w : World) : World :=
  (((earlier ids id).forM (runScriptsNoting budget)).on w).2

lemma ne_of_mem_earlier {ids : List UnitId} (h : other ∈ earlier ids id) : other ≠ id := by
  have hp := List.mem_takeWhile_imp (p := fun other => decide (other ≠ id)) h
  simpa using hp

lemma spares_onset (ids : List UnitId) (w : World) : Spares id w (onset budget ids id w) :=
  Respects.forM (R := Spares id)
    (fun _ hother => spares_runScriptsNoting (ne_of_mem_earlier hother).symm) w

/-- When the scripts of several units run, those of a unit of the world run from their onset.  The
induction is on the units. -/
lemma ofUnit_turnsOfUnits {ids : List UnitId} {record : List (UnitId × ThreadId)}
    (hids : ids.Nodup) (hid : id ∈ ids)
    (h : ∀ cause, ((ids.forM (runScriptsNoting budget)).on w).1 ≠ .error (.halt cause))
    (hw : Scheduled record w) :
    (∃ record, Scheduled record (onset budget ids id w)) ∧
      (∀ cause, ((runScriptsNoting budget id).on (onset budget ids id w)).1 ≠
        .error (.halt cause)) ∧
      ofUnit id (turnsOfUnits budget ids w) = unitTurns budget id (onset budget ids id w) := by
  induction ids generalizing w record with
  | nil => cases hid
  | cons first rest ih =>
    obtain ⟨hfirst, hrest⟩ := List.nodup_cons.1 hids
    have hscheduled := fun h => scheduled_runScriptsNoting (w := w) first budget h hw
    rw [Action.on_forM_cons] at h
    rw [turnsOfUnits, ofUnit_append, ofUnit_unitTurns]
    cases hon : (runScriptsNoting budget first).on w with
    | mk answer w₁ =>
    rw [hon] at h hscheduled
    rcases answer with (cause | cause) | _
    · exact absurd (congrArg Prod.fst hon) (runScriptsNoting_ne_refused first budget w cause)
    · exact absurd rfl (h cause)
    have hnext := hscheduled fun _ hcause => by cases hcause
    by_cases hne : id = first
    · subst hne
      have honset : onset budget (id :: rest) id w = w := by
        simp [onset, earlier]
      -- it comes up once only
      have hlater : ofUnit id (turnsOfUnits budget rest w₁) = [] := by
        rcases (forM_cases budget hrest h hnext id).2 with ⟨hnil, -⟩ | ⟨hmem, -⟩
        · exact hnil
        · exact absurd hmem hfirst
      rw [honset, if_pos rfl, hlater, List.append_nil, hon]
      refine ⟨⟨record, hw⟩, fun cause hcause => ?_, rfl⟩
      cases hcause
    -- the unit comes up later, and the turns before its onset are not its own
    · have honset : onset budget (first :: rest) id w = onset budget rest id w₁ := by
        have hearlier : earlier (first :: rest) id = first :: earlier rest id := by
          simp [earlier, Ne.symm hne]
        rw [onset, hearlier, Action.on_forM_cons, hon]
        rfl
      rw [honset, if_neg hne, List.nil_append]
      exact ih hrest ((List.mem_cons.1 hid).resolve_left hne) h hnext

/-! ### Ticks -/

/-- In a tick, the world in which the scripts of a unit begin to run. -/
def scriptsBegin (budget : Nat) (id : UnitId) (w : World) : World :=
  onset budget w.beginTick.units.keys id w.beginTick

/-- In a tick, the world that the scripts of a unit leave behind. -/
def scriptsEnd (budget : Nat) (id : UnitId) (w : World) : World :=
  ((runScriptsNoting budget id).on (w.scriptsBegin budget id)).2

/-- A tick is gone through with if and only if the scripts of all units run. -/
lemma forM_of_completes (ho : (Operation.tick budget).Completes w) (cause : Halt) :
    ((w.beginTick.units.keys.forM (runScriptsNoting budget)).on w.beginTick).1 ≠
      .error (.halt cause) := by
  intro hcause
  refine ho cause ?_
  show ((tick budget).on w).1 = _
  simp only [tick, Action.on_modify_bind, Action.on_get_bind]
  exact Action.on_bind_eq_error _ hcause

/-- In a tick a unit executes something if and only if one of its threads is due when the tick has
begun; if none is, its scripts change nothing but notices and its script state. -/
theorem acts_iff_hasDue {record : List (UnitId × ThreadId)} (hw : Scheduled record w)
    (ho : (Operation.tick budget).Completes w) (hexists : w.unitExists id = true) :
    ((∃ n, (Operation.tick budget).Executes w id n) ↔ w.beginTick.HasDue id) ∧
      (¬w.beginTick.HasDue id → Still id (w.scriptsBegin budget id) (w.scriptsEnd budget id)) := by
  have hbegin : w.beginTick.unitExists id = true :=
    (unitExists_congr ((sameOwners_beginTick w).owners id)).trans hexists
  have hmem : id ∈ w.beginTick.units.keys := SortedTable.mem_keys.2 hbegin
  obtain ⟨⟨record₁, hscheduled⟩, hruns, hturns⟩ :=
    ofUnit_turnsOfUnits w.beginTick.units.nodup_keys hmem (forM_of_completes ho)
      (hw.same (sameScripts_beginTick w))
  have hspares : Spares id w.beginTick (w.scriptsBegin budget id) := spares_onset _ _
  have hthere : (w.scriptsBegin budget id).unitExists id = true :=
    (unitExists_congr hspares.unit).trans hbegin
  obtain ⟨hdeeds, hstill⟩ := runScriptsNoting_idle hscheduled hthere hruns
  have hacts : (∃ n, (Operation.tick budget).Executes w id n) ↔
      deedsIn (ofUnit id ((Operation.tick budget).turns w)) ≠ [] := by
    constructor
    · rintro ⟨n, d, hd, hunit, -⟩ hnil
      have hmem := mem_deedsIn_ofUnit.2 ⟨hd, hunit⟩
      rw [hnil] at hmem
      cases hmem
    · intro hne
      obtain ⟨d, hd⟩ := List.exists_mem_of_ne_nil _ hne
      obtain ⟨hd, hunit⟩ := mem_deedsIn_ofUnit.1 hd
      exact ⟨d.thread, d, hd, hunit, rfl⟩
  rw [hacts, ← hspares.hasDue_iff, Operation.turns, hturns, ne_eq]
  exact ⟨(not_congr hdeeds).trans not_not, hstill⟩

end World

end Lockstep
