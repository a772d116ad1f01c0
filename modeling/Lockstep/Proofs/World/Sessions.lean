import Lockstep.Proofs.Script.Assembled
import Lockstep.Proofs.World.Signals
/-!
# The scripts of a battle

In a battle nothing becomes of the script state of a unit but what can become of one in a session
(`Staged`).  So what holds of sessions holds of all units: none that has an assembled script comes
across an unknown opcode, in none of the battles (`Run.boundary_of_deed`).
-/

namespace Lockstep.World

open Script (Environment Item Machine Program Session ThreadState)
open Script.Assembly (Boundary Direct Near)
open Script.Machine (run_pieceName)

variable {s : Setup} {past : List Step} {w w' : World} {o : Operation} {id : UnitId}
  {env env' : Environment} {m m' : Machine World} {p : Program} {l : List Turn} {T : Turn}
  {record : List (UnitId × ThreadId)}

/-! ### A turn -/

/-- A motion leaves the thread alone that has set it going. -/
lemma thread_applyMotion (id : UnitId) (piece : UInt32) (axis : Axis) (motion : Script.Motion)
    (m : Machine World) : ((applyMotion id piece axis motion).run.run m).2.thread = m.thread := by
  rw [applyMotion, run_bind, run_pieceName]
  cases m.environment.program.pieceName? piece with
  | none => rfl
  | some name =>
    simp only [run_get_bind]
    rcases (motionAction id name axis motion).on m.world with ⟨(_ | _) | _, world⟩ <;> rfl

lemma Proceeds.thread (h : Proceeds id m m') :
    m'.thread = ((Machine.step host id).run.run m).2.thread := by
  cases h with
  | step hstep => rw [hstep]
  | motion m₁ piece axis motion hstep hmotion =>
    have hthread := thread_applyMotion id piece axis motion m₁
    rw [hmotion] at hthread
    rw [hstep]
    exact hthread

lemma Suspends.thread {state : ThreadState} (h : Suspends id m m' state) :
    m'.thread = ((Machine.step host id).run.run m).2.thread := by
  obtain ⟨status, hstep, -⟩ := h.exists_status
  rw [hstep]

lemma Stumbles.thread {e : ScriptError} (h : Stumbles id e m m') :
    m'.thread = ((Machine.step host id).run.run m).2.thread := by
  cases h with
  | step hstep => rw [hstep]
  | motion m₁ piece axis motion hstep hmotion =>
    obtain ⟨-, -, rfl⟩ := applyMotion_eq_fault hmotion
    rw [hstep]

/-- A machine that is in a session, with a thread that has functions left to leave. -/
def Going (id : UnitId) (p : Program) (m : Machine World) : Prop :=
  m.thread.isFinished = false ∧ Session host id p m.environment (some m.thread)

/-- The induction is on the instructions. -/
lemma Trail.session {l : List (Machine World)} {r : Except ScriptError (Option ThreadState)}
    (h : Trail id m l r m') (hm : Session host id p m.environment (some m.thread)) :
    (∀ m₁ ∈ l, Going id p m₁) ∧ Session host id p m'.environment (some m'.thread) := by
  induction h with
  | finished => exact ⟨fun _ hm₁ => absurd hm₁ List.not_mem_nil, hm⟩
  | @proceeds m m₁ l r m' hunfinished hproceeds _ ih =>
    have hnext : Session host id p m₁.environment (some m₁.thread) := by
      rw [hproceeds.environment, hproceeds.thread]
      exact hm.step
    obtain ⟨hall, hlast⟩ := ih hnext
    exact ⟨List.forall_mem_cons.2 ⟨⟨hunfinished, hm⟩, hall⟩, hlast⟩
  | suspends hunfinished hsuspends =>
    refine ⟨List.forall_mem_singleton.2 ⟨hunfinished, hm⟩, ?_⟩
    rw [hsuspends.environment, hsuspends.thread]
    exact hm.step
  | stumbles hunfinished hstumbles =>
    refine ⟨List.forall_mem_singleton.2 ⟨hunfinished, hm⟩, ?_⟩
    rw [hstumbles.environment, hstumbles.thread]
    exact hm.step

/-- Either the thread is not resumed in its turn, or it goes along a trail, and then it is put back
or not. -/
lemma Turn.Leaves.cases_start (h : T.Leaves env') :
    (T.start? = none ∧ (env' = T.environment ∨ env' = T.environment.removeThread T.thread)) ∨
      ∃ m r m', T.start? = some m ∧ Trail T.unit m T.trail r m' ∧
        (env' = m'.environment ∨
          ∃ state, env' = m'.environment.putThread T.thread { m'.thread with state := state }) := by
  cases h with
  | gone habsent => exact .inl ⟨by simp [start?, habsent], .inl rfl⟩
  | waits hwaits => exact .inl ⟨hwaits.start?_eq_none, .inl rfl⟩
  | lost ht hawaits hp =>
    refine .inl ⟨?_, .inr rfl⟩
    simp [start?, ht, readiness_lost hawaits hp]
  | stopped hstart htrail => exact .inr ⟨_, _, _, hstart, htrail, .inl rfl⟩
  | suspended hstart htrail => exact .inr ⟨_, _, _, hstart, htrail, .inr ⟨_, rfl⟩⟩

/-- The machine from which a thread is resumed. -/
lemma Turn.exists_of_start? (h : T.start? = some m) :
    ∃ t, T.environment.threads.get? T.thread = some t ∧
      m.environment = T.environment.removeThread T.thread ∧
      m.thread = { t with state := .ready } := by
  obtain ⟨t, ht, hawake⟩ := start?_eq_some h
  cases hawake <;> exact ⟨t, ht, rfl, rfl⟩

/-! ### Sessions -/

lemma Turn.session_start (hs : Session host T.unit p T.environment none) (h : T.start? = some m) :
    Session host T.unit p m.environment (some m.thread) := by
  obtain ⟨t, ht, henv, hthread⟩ := exists_of_start? h
  rw [henv, hthread]
  exact hs.resume .ready ht

lemma Turn.Leaves.session (h : T.Leaves env') (hs : Session host T.unit p T.environment none) :
    (∀ m ∈ T.trail, Going T.unit p m) ∧ Session host T.unit p env' none := by
  rcases h.cases_start with ⟨hstart, henv'⟩ | ⟨m, r, m', hstart, htrail, henv'⟩
  · refine ⟨fun m hm => ?_, ?_⟩
    · rw [Turn.trail_of_none hstart] at hm
      cases hm
    · rcases henv' with rfl | rfl
      · exact hs
      · exact hs.kill T.thread
  · obtain ⟨hall, hlast⟩ := htrail.session (Turn.session_start hs hstart)
    refine ⟨hall, ?_⟩
    rcases henv' with rfl | ⟨state, rfl⟩
    · exact hlast.drop
    · exact hlast.suspend T.thread state

/-- The induction is on the threads. -/
lemma session_turnsOf {budget : Nat} {threads : List ThreadId}
    (hs : Session host id p env none)
    (h : (threads.foldlM (visitThread budget id) env).on w = (.ok env', w')) :
    (∀ T ∈ turnsOf budget id threads w env, ∀ m ∈ T.trail, Going T.unit p m) ∧
      Session host id p env' none := by
  induction threads generalizing w env with
  | nil =>
    cases h
    exact ⟨fun T hT => absurd hT List.not_mem_nil, hs⟩
  | cons n rest ih =>
    rw [List.foldlM_cons, Action.on_bind] at h
    cases hvisit : (visitThread budget id env n).on w with
    | mk answer w₁ =>
    rw [hvisit] at h
    rcases answer with _ | env₁
    · cases h
    obtain ⟨hfirst, hnext⟩ :=
      (Turn.leaves_of_visit (T := ⟨id, n, budget, w, env⟩) hvisit).session hs
    obtain ⟨hrest, hlast⟩ := ih hnext h
    rw [turnsOf_cons hvisit]
    exact ⟨List.forall_mem_cons.2 ⟨hfirst, hrest⟩, hlast⟩

lemma session_startNamed {function : String} {params : List Int32} {o : Option ThreadId}
    (hs : Session host id p env none) (h : env.startNamed function params = .ok (o, env')) :
    Session host id p env' none := by
  rw [Environment.startNamed] at h
  split at h
  · cases h
    exact hs
  · rename_i f _
    cases hstart : env.startThread f params 0 with
    | error failure =>
      rw [hstart] at h
      cases h
    | ok started =>
      rw [hstart] at h
      cases h
      exact hs.start hstart

/-- What an operation does to the script state of a unit is a piece of a session. -/
lemma Course.session (h : Course id env l env') (hs : Session host id p env none) :
    (∀ T ∈ l, ∀ m ∈ T.trail, Going T.unit p m) ∧ Session host id p env' none := by
  cases h with
  | still => exact ⟨fun T hT => absurd hT List.not_mem_nil, hs⟩
  | started hstart => exact ⟨fun T hT => absurd hT List.not_mem_nil, session_startNamed hs hstart⟩
  | round hround =>
    obtain ⟨w, w', hon, rfl⟩ := hround
    exact session_turnsOf hs hon
  | query hunit hstart hm hstart? htrail =>
    subst hunit
    obtain ⟨hall, hlast⟩ :=
      htrail.session (Turn.session_start (session_startNamed hs hstart) hstart?)
    exact ⟨List.forall_mem_singleton.2 hall, hlast.drop⟩

/-- The script states of all units are in sessions. -/
def Staged (w : World) : Prop :=
  ∀ id env, w.environment? id = some env → Session host id env.program env none

lemma SameScripts.staged (h : SameScripts w w') (hw : Staged w) : Staged w' :=
  fun id env henv => hw id env (by rwa [h.environment?] at henv)

/-- A unit that joins begins with a new script state. -/
lemma Staged.join {u : UnitState} (hw : Staged w) (h : Joins w w' u)
    (hu : u.environment = some (.new p)) : Staged w' := by
  intro id env henv
  by_cases hid : id = ⟨w.nextUnit⟩
  · have hunit : w'.units.get? id = some u := by
      rw [h.units, SortedTable.get?_insert, if_pos (congrArg Ranked.rank hid)]
    rw [environment?_eq_some hunit hu] at henv
    cases henv
    exact .new
  · rw [h.environment? hid] at henv
    exact hw id env henv

lemma Staged.begin (hw : Staged w) (id : UnitId) (function : String) (params : List Int32) :
    Staged ((startScript id function params).on w).2 := by
  rcases startScript_cases function params w with h | ⟨u, env, o, env', hu, hu', hs, h⟩
  · exact h.staged hw
  · intro other env₁ henv₁
    rw [h.environment?] at henv₁
    split at henv₁
    · rename_i hother
      subst hother
      rw [hu] at henv₁
      cases henv₁
      have hsession := session_startNamed (hw other env (environment?_eq_some hu hu')) hs
      rwa [hsession.program_eq]
    · exact hw other env₁ henv₁

lemma Staged.spawnUnit (hw : Staged w) (typeName : String) (owner : PlayerId)
    (position : Vector3) (rotation : Option Angle) :
    Staged ((trySpawnUnit typeName owner position rotation).on w).2 := by
  simp only [trySpawnUnit, Action.on_get_bind, Action.on_require_bind]
  cases hu : w.createUnit typeName owner position rotation with
  | error cause => exact hw
  | ok u =>
  simp only
  cases w.definitions.unitType typeName with
  | error cause => exact hw
  | ok t =>
  obtain ⟨program, hcreated⟩ := createUnit_eq_ok hu
  have hlift := hcreated.lift w.terrain.seaLevel t
  simp only
  generalize liftToSea w.terrain.seaLevel t u = u at hlift ⊢
  rw [Action.on_bind]
  rcases tryAddUnit_joins u w with ⟨answer, hon, hanswer⟩ | ⟨w₁, hon, hjoins⟩
  · rw [hon]
    rcases answer with _ | _ | n
    · exact hw
    · exact hw
    · exact absurd rfl (hanswer n)
  · rw [hon]
    have hstarted := (hw.join hjoins hlift.environment).begin ⟨w.nextUnit⟩ "Create" []
    simp only [Action.on_bind]
    revert hstarted
    rcases (startScript ⟨w.nextUnit⟩ "Create" []).on w₁ with ⟨_ | n, w₂⟩ <;> intro hstarted
    · exact hstarted
    · exact (quiet_tell _ w₂).scripts.staged hstarted

/-- The induction on battles comes down to what one operation does to one unit. -/
lemma Staged.after (hw : Staged w) (hscheduled : Scheduled record w) (ho : o.Completes w) :
    Staged (o.after w) := by
  by_cases hcreation : o.IsCreation
  · cases o with
    | addUnit typeName owner position rotation =>
      simp only [Operation.after, Operation.perform, Action.on_get_bind, Action.on_require_bind]
      cases hu : w.createUnit typeName owner position rotation with
      | error cause => exact hw
      | ok u =>
      simp only [Action.on_discard]
      obtain ⟨program, hu'⟩ := createUnit_environment hu
      rcases tryAddUnit_joins u w with ⟨answer, hon, -⟩ | ⟨w₁, hon, hjoins⟩
      · rw [hon]
        exact hw
      · rw [hon]
        exact hw.join hjoins hu'
    | spawnUnit typeName owner position rotation =>
      rw [Operation.after, Operation.perform, Action.on_discard]
      exact hw.spawnUnit typeName owner position rotation
    | _ => exact hcreation.elim
  · intro id env' henv'
    -- the unit was there before, and its script state is one that the operation has led to
    obtain ⟨u', hu', -⟩ := Option.bind_eq_some_iff.1 henv'
    obtain ⟨u, hu, -⟩ := (descends_after hcreation ho hscheduled).units hu'
    obtain ⟨env, henv, -⟩ := hscheduled.environment hu
    have hbefore := environment?_eq_some hu henv
    have hfate := fate_after ho hscheduled id
    generalize ofUnit id (o.turns w) = l at hfate
    cases hfate with
    | absent hnone =>
      rw [hbefore] at hnone
      cases hnone
    | present hpresent hcourse hafter =>
      obtain ⟨-, hsession⟩ := hcourse.session (hw id _ hpresent)
      rcases hafter with hafter | hafter <;> rw [hafter] at henv' <;> cases henv'
      rwa [hsession.program_eq]

/-- What threads carry out in the course of an operation is carried out in sessions. -/
lemma Staged.deeds (hw : Staged w) (hscheduled : Scheduled record w) (ho : o.Completes w)
    {d : Deed} (hd : d ∈ o.deeds w) : Going d.unit d.machine.environment.program d.machine := by
  obtain ⟨T, hT, hd⟩ := List.mem_flatMap.1 hd
  obtain ⟨hunit, -, hm⟩ := mem_deeds.1 hd
  have hown : T ∈ ofUnit T.unit (o.turns w) := mem_ofUnit.2 ⟨hT, rfl⟩
  have hfate := fate_after ho hscheduled T.unit
  generalize ofUnit T.unit (o.turns w) = l at hown hfate
  cases hfate with
  | absent => cases hown
  | present henv hcourse _ =>
    have hgoing := (hcourse.session (hw T.unit _ henv)).1 T hown d.machine hm
    rw [hunit, hgoing.2.program_eq]
    exact hgoing

/-- The script states of a battle are in sessions, and so is all that is carried out; the induction
is on the operations. -/
theorem Run.staged (h : Run s past w) :
    Staged w ∧ ∀ d ∈ deeds past, Going d.unit d.machine.environment.program d.machine := by
  induction h with
  | start h =>
    refine ⟨fun id env henv => ?_, fun d hd => absurd hd List.not_mem_nil⟩
    rw [World.environment?, (initial_new h).units] at henv
    cases henv
  | step o hrun ho ih =>
    refine ⟨ih.1.after hrun.scheduled ho, fun d hd => ?_⟩
    rw [deeds_append] at hd
    rcases List.mem_append.1 hd with hd | hd
    · exact ih.2 d hd
    · exact ih.1.deeds hrun.scheduled ho hd

/-- A unit that has an assembled script comes across the instructions that were written down and no
others. -/
theorem Run.boundary_of_deed {items : List Item} {pieces : List String} {staticCount : Nat}
    (h : Run s past w) (hcomplete : ∀ item ∈ items, item.Complete) (hnear : Near items)
    (hdirect : Direct items) (hp : Program.assemble items pieces staticCount = .ok p) {d : Deed}
    (hd : d ∈ deeds past) (hprogram : d.machine.environment.program = p) :
    Boundary items d.machine.thread.address ∧
      ∀ {e}, ((Machine.step host d.unit).run.run d.machine).1 = .error e → e.Decoded := by
  obtain ⟨hunfinished, hsession⟩ := h.staged.2 d hd
  rw [hprogram] at hsession
  have hchart := Program.charted_of_assemble hcomplete hnear hdirect hp
  exact ⟨hsession.onChart_address hchart hunfinished, hsession.decoded_step hchart⟩

end Lockstep.World
