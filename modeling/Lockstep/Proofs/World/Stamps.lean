import Lockstep.Proofs.Script.Requests
import Lockstep.Proofs.World.Draining
import Lockstep.Proofs.World.Turns
/-!
# Yard maps laid on the map

A building lays its yard map over the cells below it when it is put on the map, and a unit that has
a yard map does so again whenever its yard is opened or closed, be it by an operation or by its own
script.  Each time it leaves a stamp, which is its claim on all these cells, whoever claimed them
before.  `stamps` reads the stamps of a battle, in their order, off what was asked and answered, and
`writes_after` says that an operation writes these on the plan and no others.
-/

namespace Lockstep.World

open Script (Effect Environment Host Machine Passed Request)

/-- A yard map is laid on the map for a unit, with its corner at that of a rectangle. -/
structure Stamp where
  /-- The unit. -/
  unit : UnitId
  /-- The footprint of the unit. -/
  place : Rect
  /-- The yard map. -/
  yard : YardMap
  /-- Whether the yard is open. -/
  isOpen : Bool

/-- The claim that a stamp leaves on a cell, if it has a yard cell over it. -/
def Stamp.claim? (g : Stamp) (x y : Nat) : Option Claim :=
  (g.yard.covering? g.place.x.toNat g.place.y.toNat x y).map fun k =>
    ⟨g.unit, k.isPassable g.isOpen⟩

/-! ### The stamps of a battle -/

/-- The yard map of a unit in the world as it lies below the unit. -/
def stampOf? (w : World) (id : UnitId) : Option Stamp := do
  let b ← w.body? id
  let t ← (w.definitions.unitType b.unitType).toOption
  let yard ← t.yardMap
  let r ← (w.classFootprint b.position t.movement).toOption
  return ⟨id, r, yard, b.yardOpen⟩

/-- Whether a unit in the world is a building. -/
def isBuilding (w : World) (id : UnitId) : Bool :=
  (w.body? id).any fun b => (w.definitions.unitType b.unitType).toOption.any fun t => !t.isMobile

/-- The stamp of a unit that is put on the map, given the answer and the world afterwards: only
buildings leave one. -/
def stampOfNew? : Except Failure (Option UnitId) × World → Option Stamp
  | (.ok (some id), w) => if w.isBuilding id then w.stampOf? id else none
  | _ => none

/-- The stamp of a unit whose yard is to be opened or closed; it leaves one if that succeeds. -/
def stampOfToggle? (w : World) (id : UnitId) (isOpen : Bool) : Option Stamp :=
  match (trySetYardOpen id isOpen).on w with
  | (.ok true, w') => w'.stampOf? id
  | _ => none

/-- How the yard is to be, if a request is about that. -/
def yardOf? : Request → Option Bool
  | .effect _ (.yard isOpen) => some isOpen
  | _ => none

/-- The stamp of a unit whose thread carries out its next instruction. -/
def stampOfStep? (id : UnitId) (m : Machine World) : Option Stamp :=
  ((m.requests host id).findSome? yardOf?).bind (m.world.stampOfToggle? id)

/-- The stamps that threads leave in some turns. -/
def stampsIn (l : List Turn) : List Stamp :=
  (deedsIn l).flatMap fun d => (stampOfStep? d.unit d.machine).toList

/-- The stamps that are left in the course of an operation. -/
def Operation.stamps : Operation → World → List Stamp
  | addUnit typeName owner position rotation, w =>
    (stampOfNew? ((addUnit typeName owner position rotation).respond.on w)).toList
  | spawnUnit typeName owner position rotation, w =>
    (stampOfNew? ((spawnUnit typeName owner position rotation).respond.on w)).toList
  | setYardOpen id isOpen, w => (w.stampOfToggle? id isOpen).toList
  | o, w => stampsIn (o.turns w)

/-- The stamps of a battle so far, the oldest first. -/
def stamps (past : List Step) : List Stamp := past.flatMap fun st => st.operation.stamps st.before

/-- A single write on the plan, and the stamp if it leaves one. -/
inductive Write (w w' : World) : Option Stamp → Prop
  | calm (h : SamePlan w w') : Write w w' none
  | place {id b t r} (h : Placed w w' id b t r) : Write w w' none
  | build {id b t r yard} (h : Built w w' id b t r yard) :
    Write w w' (some ⟨id, r, yard, b.yardOpen⟩)
  | move {id b position t old new} (h : Moved w w' id b position t old new) : Write w w' none
  | toggle {id b isOpen t r yard} (h : Toggled w w' id b isOpen t r yard) :
    Write w w' (some ⟨id, r, yard, isOpen⟩)
  | remove {id} (h : Removed w w' id) : Write w w' none
  | land {id t r} (h : Landed w w' id t r) : Write w w' none

/-- Writes on the plan one after the other, and the stamps they leave. -/
inductive Writes (w : World) : List Stamp → World → Prop
  | refl : Writes w [] w
  | tail {l m g w'} (h : Writes w l m) (write : Write m w' g) : Writes w (l ++ g.toList) w'

variable {w m w' : World} {id : UnitId} {b : Body} {t : UnitType} {r : Rect} {yard : YardMap}
  {g : Option Stamp} {l l' : List Stamp} {turns turns' : List Turn}

lemma Write.writes (h : Write w w' g) : Writes w g.toList w' := .tail .refl h

lemma SamePlan.writes (h : SamePlan w w') : Writes w [] w' := (Write.calm h).writes

lemma Writes.append (h : Writes w l m) (h' : Writes m l' w') : Writes w (l ++ l') w' := by
  induction h' with
  | refl => rwa [List.append_nil]
  | tail _ write ih =>
    rw [← List.append_assoc]
    exact .tail ih write

lemma Writes.calm (h : Writes w l m) (hplan : SamePlan m w') : Writes w l w' := by
  have h' := h.append hplan.writes
  rwa [List.append_nil] at h'

lemma stampsIn_append (l l' : List Turn) : stampsIn (l ++ l') = stampsIn l ++ stampsIn l' := by
  simp only [stampsIn, deedsIn_append, List.flatMap_append]

@[simp] lemma stampsIn_nil : stampsIn [] = [] := rfl

lemma stampsIn_cons (T : Turn) (l : List Turn) :
    stampsIn (T :: l) =
      (T.trail.flatMap fun m => (stampOfStep? T.unit m).toList) ++ stampsIn l := by
  rw [← List.singleton_append, stampsIn_append, stampsIn, deedsIn_singleton, Turn.deeds,
    List.flatMap_map]

/-! ### Units on the map -/

lemma stampOf?_eq_some (hb : w.body? id = some b) (hs : Stands w b t r)
    (hyard : t.yardMap = some yard) : w.stampOf? id = some ⟨id, r, yard, b.yardOpen⟩ := by
  simp [stampOf?, hb, hs.unitType, hs.footprint, hyard, Except.toOption]

lemma isBuilding_eq (hb : w.body? id = some b) (ht : w.definitions.unitType b.unitType = .ok t) :
    w.isBuilding id = !t.isMobile := by
  simp [isBuilding, hb, ht, Except.toOption]

lemma stampOf?_congr (h : SamePlan w w') (id : UnitId) : w'.stampOf? id = w.stampOf? id := by
  simp only [stampOf?, h.bodies, h.definitions, classFootprint_congr h.ground]

lemma isBuilding_congr (h : SamePlan w w') (id : UnitId) :
    w'.isBuilding id = w.isBuilding id := by
  simp only [isBuilding, h.bodies, h.definitions]

/-- What is on the plan decides which stamp a unit leaves. -/
lemma stampOfNew?_congr (h : SamePlan w w') (answer : Except Failure (Option UnitId)) :
    stampOfNew? (answer, w') = stampOfNew? (answer, w) := by
  rcases answer with _ | _ | id
  · rfl
  · rfl
  · simp only [stampOfNew?, isBuilding_congr h, stampOf?_congr h]

lemma stampOfNew?_eq_none {answer : Except Failure (Option UnitId)}
    (h : ∀ id, answer ≠ .ok (some id)) : stampOfNew? (answer, w) = none := by
  rcases answer with _ | _ | id
  · rfl
  · rfl
  · exact absurd rfl (h id)

lemma write_tryAddUnit (u : UnitState) (w : World) :
    Write w ((tryAddUnit u).on w).2 (stampOfNew? ((tryAddUnit u).on w)) := by
  rcases tryAddUnit_cases u w with ⟨answer, hon, hanswer⟩ | ⟨t, r, next, g, w', hon, -, h⟩
  · rw [hon, stampOfNew?_eq_none hanswer]
    exact .calm (refl_of SamePlan w)
  · rw [hon, stampOfNew?]
    rcases h with h | ⟨yard, h⟩
    · have hs := h.stands.congr h.ground
      have hb : w'.body? ⟨w.nextUnit⟩ = some u.body := by rw [h.bodies, if_pos rfl]
      rw [isBuilding_eq hb hs.unitType, h.mobile]
      exact .place h
    · have hs := h.stands.congr h.ground
      have hb : w'.body? ⟨w.nextUnit⟩ = some u.body := by rw [h.bodies, if_pos rfl]
      rw [isBuilding_eq hb hs.unitType, h.immobile, stampOf?_eq_some hb hs h.yardMap]
      exact .build h

lemma writes_addUnit (typeName : String) (owner : PlayerId) (position : Vector3)
    (rotation : Option Angle) (w : World) :
    let added := (Operation.addUnit typeName owner position rotation).respond.on w
    Writes w (stampOfNew? added).toList added.2 := by
  show let added := (do
      let u ← Action.require ((← get).createUnit typeName owner position rotation)
      tryAddUnit u : Action (Option UnitId)).on w
    Writes w (stampOfNew? added).toList added.2
  simp only [Action.on_get_bind, Action.on_require_bind]
  cases w.createUnit typeName owner position rotation with
  | error cause => exact .refl
  | ok u => exact (write_tryAddUnit u w).writes

/-- A unit that is spawned is put on the map; that its script begins is not seen on the plan. -/
lemma writes_trySpawnUnit (typeName : String) (owner : PlayerId) (position : Vector3)
    (rotation : Option Angle) (w : World) :
    let spawned := (trySpawnUnit typeName owner position rotation).on w
    Writes w (stampOfNew? spawned).toList spawned.2 := by
  intro spawned
  rcases trySpawnUnit_cases typeName owner position rotation w with
    ⟨answer, hon, hanswer⟩ | ⟨u, program, w₁, w', -, hadded, -, -, hplan, hon⟩
  · simp only [spawned, hon, stampOfNew?_eq_none hanswer]
    exact .refl
  · have hwrite := write_tryAddUnit u w
    rw [hadded] at hwrite
    simp only [spawned, hon, stampOfNew?_congr hplan]
    exact hwrite.writes.calm hplan

lemma write_trySetYardOpen (id : UnitId) (isOpen : Bool) (w : World) :
    Write w ((trySetYardOpen id isOpen).on w).2 (w.stampOfToggle? id isOpen) := by
  rw [stampOfToggle?]
  rcases trySetYardOpen_cases id isOpen w with ⟨hon, hanswer⟩ | ⟨b, t, r, yard, g, hanswer, -, h⟩
  · split
    · rename_i w' heq
      rw [heq] at hanswer
      exact absurd rfl hanswer
    · rw [hon]
      exact .calm (refl_of SamePlan w)
  · have hb : ((trySetYardOpen id isOpen).on w).2.body? id =
        some { b with yardOpen := isOpen } := by
      rw [h.bodies, if_pos rfl]
    have hs := h.stands.congr h.ground
    have hopen : Stands ((trySetYardOpen id isOpen).on w).2 { b with yardOpen := isOpen } t r :=
      ⟨hs.unitType, hs.footprint, hs.onMap⟩
    have hstamp := stampOf?_eq_some hb hopen h.yardMap
    have hwrite := Write.toggle h
    revert hanswer hstamp hwrite
    rcases (trySetYardOpen id isOpen).on w with ⟨answer, w'⟩
    rintro ⟨⟩ hstamp hwrite
    simp only [hstamp]
    exact hwrite

lemma writes_setYardOpen (id : UnitId) (isOpen : Bool) (w : World) :
    Writes w (w.stampOfToggle? id isOpen).toList ((setYardOpen id isOpen).on w).2 := by
  rw [setYardOpen, Action.on_discard]
  exact (write_trySetYardOpen id isOpen w).writes

/-! ### Instructions -/

/-- What a host does to the world, but for yards. -/
def calmHost : Host World :=
  { host with
    apply := fun id e w =>
      match e with
      | .yard _ => .ok w
      | e => applyEffect id e w }

lemma law_calmHost (id : UnitId) : Machine.Law calmHost id (fun _ _ => True) SamePlan where
  toEnvironmentLaw := ScriptLaw.environmentLaw_true
  apply := by
    intro e w w' h
    have law := (calmLaw_quiet id).mono fun _ _ => Quiet.plan
    by_cases hyard : ∃ isOpen, e = .yard isOpen
    · obtain ⟨isOpen, rfl⟩ := hyard
      cases h
      exact refl_of SamePlan w
    · have happly : applyEffect id e w = .ok w' := by
        cases e with
        | yard isOpen => exact absurd ⟨isOpen, rfl⟩ hyard
        | _ => exact h
      exact law.of_applyEffect (not_exists.1 hyard) happly
  random := ((calmLaw_quiet id).mono fun _ _ => Quiet.plan).of_random

/-- A script that operates the yard does what the operation does, with a notice if that is refused.
-/
lemma writes_yard (id : UnitId) (isOpen : Bool) (w : World) :
    Writes w (w.stampOfToggle? id isOpen).toList
      ((host.apply id (.yard isOpen) w).toOption.getD w) := by
  refine (write_trySetYardOpen id isOpen w).writes.calm ?_
  show SamePlan _ ((reporting "yard" (setYardOpen id isOpen) w).toOption.getD w)
  have hcases := trySetYardOpen_cases id isOpen w
  rw [reporting, setYardOpen, Action.on_bind]
  revert hcases
  rcases (trySetYardOpen id isOpen).on w with ⟨(cause | cause) | answer, w'⟩ <;> intro hcases
  · exact (quiet_note _ w').plan
  · -- where the operation stops, it has not written anything
    rcases hcases with ⟨rfl, -⟩ | ⟨_, _, _, _, _, hanswer, -⟩
    · exact refl_of SamePlan w'
    · cases hanswer
  · exact refl_of SamePlan w'

/-- A step writes on the plan if it is about the yard, and what it writes then is what the operation
writes. -/
lemma writes_step (id : UnitId) (m : Machine World) :
    Writes m.world (stampOfStep? id m).toList ((Machine.step host id).run.run m).2.world := by
  rw [stampOfStep?]
  cases hyard : (m.requests host id).findSome? yardOf? with
  | none =>
    have hagree : ∀ r ∈ m.requests host id, r.Agree host calmHost m.world := fun r hr => by
      have hr := List.findSome?_eq_none_iff.1 hyard r hr
      rcases r with _ | _ | _ | _ | _ | _ | ⟨unit, e⟩
      case effect =>
        cases e with
        | yard isOpen => cases hr
        | _ => rfl
      all_goals rfl
    rw [Machine.step_eq_of_agree hagree]
    have : IsPreorder Environment fun _ _ => True :=
      { refl := fun _ => trivial, trans := fun _ _ _ _ _ => trivial }
    exact ((law_calmHost id).respects_step m).2.writes
  | some isOpen =>
    obtain ⟨r, hr, hopen⟩ := List.exists_of_findSome?_eq_some hyard
    have hmem : ∃ unit, r = .effect unit (.yard isOpen) := by
      rcases r with _ | _ | _ | _ | _ | _ | ⟨unit, e⟩
      case effect =>
        cases e with
        | yard value =>
          cases hopen
          exact ⟨unit, rfl⟩
        | _ => cases hopen
      all_goals cases hopen
    obtain ⟨unit, rfl⟩ := hmem
    rw [Machine.world_step_of_effect hr]
    exact writes_yard id isOpen m.world

/-- Units that are taken off the map leave no stamps. -/
lemma writes_sweep (w : World) : Writes w [] w.sweep := by
  have : IsPreorder World fun w w' => Writes w [] w' :=
    { refl := fun _ => .refl, trans := fun _ _ _ h h' => h.append h' }
  refine rel_sweep (R := fun w w' => Writes w [] w') (fun w id => ?_) w
  rw [sweepUnit]
  by_cases h : w.unitExists id = true
  · exact (Write.remove (removed_removeUnit h)).writes.calm (quiet_tell _ _).plan
  · rw [removeUnit, if_neg h]
    exact (quiet_tell _ w).plan.writes

/-! ### Threads -/

/-- The writes of a thread that is resumed are those of its instructions; the induction is on the
budget. -/
lemma writes_resume (id : UnitId) (budget : Nat) (m : Machine World) :
    Writes m.world ((trail id budget m).flatMap fun m' => (stampOfStep? id m').toList)
      ((resume id budget).run.run m).2.world := by
  induction budget generalizing m with
  | zero => exact .refl
  | succ budget ih =>
    rw [resume, run_bind, trail]
    cases hm : m.thread.isFinished with
    | true =>
      rw [Machine.step_of_isFinished hm, if_pos rfl]
      exact .refl
    | false =>
    have hwrites := writes_step id m
    rw [if_neg Bool.false_ne_true, List.flatMap_cons]
    revert hwrites
    rcases (Machine.step host id).run.run m with ⟨_ | _ | status, m₁⟩ <;> intro hwrites
    · rwa [List.flatMap_nil, List.append_nil]
    · exact hwrites.append (ih m₁)
    cases status with
    | motion piece axis motion =>
      have hmotion : SamePlan m₁.world ((applyMotion id piece axis motion).run.run m₁).2.world :=
        ((calmLaw_quiet id).mono fun _ _ => Quiet.plan).respects_applyMotion
          (E := Eq) piece axis motion m₁ |>.2
      simp only [run_bind]
      revert hmotion
      rcases (applyMotion id piece axis motion).run.run m₁ with ⟨_ | _, m₂⟩ <;> intro hmotion
      · rw [List.flatMap_nil, List.append_nil]
        exact hwrites.calm hmotion
      · exact (hwrites.calm hmotion).append (ih m₂)
    | _ =>
      rw [List.flatMap_nil, List.append_nil]
      exact hwrites

lemma writes_resumeThread (budget : Nat) (id : UnitId) (n : ThreadId) (t : Script.Thread)
    (env : Environment) (w : World) :
    Writes w ((trail id budget ⟨w, env, { t with state := .ready }⟩).flatMap fun m =>
      (stampOfStep? id m).toList) ((resumeThread budget id n t env).on w).2 := by
  have hwrites := writes_resume id budget ⟨w, env, { t with state := .ready }⟩
  simp only [resumeThread, Action.on_get_bind]
  revert hwrites
  rcases (resume id budget).run.run ⟨w, env, { t with state := .ready }⟩ with
    ⟨(error | cause) | (_ | state), m⟩ <;> intro hwrites
  · exact hwrites.calm (quiet_note _ m.world).plan
  · exact hwrites
  · exact hwrites
  · exact hwrites

lemma writes_runForAnswer (budget : Nat) (id : UnitId) (function : String) (t : Script.Thread)
    (env : Environment) (w : World) :
    Writes w ((trail id budget ⟨w, env, t⟩).flatMap fun m => (stampOfStep? id m).toList)
      ((runForAnswer budget id function t env).on w).2 := by
  have hwrites := writes_resume id budget ⟨w, env, t⟩
  simp only [runForAnswer, Action.on_get_bind]
  revert hwrites
  rcases (resume id budget).run.run ⟨w, env, t⟩ with ⟨(error | cause) | (_ | state), m⟩ <;>
    intro hwrites
  · exact hwrites.calm (quiet_note _ m.world).plan
  · exact hwrites
  · exact hwrites
  · exact hwrites

lemma writes_visitThread (T : Turn) :
    Writes T.world (T.trail.flatMap fun m => (stampOfStep? T.unit m).toList)
      ((visitThread T.budget T.unit T.environment T.thread).on T.world).2 := by
  rw [visitThread]
  cases ht : T.environment.threads.get? T.thread with
  | none =>
    rw [Turn.trail_of_none (by simp [Turn.start?, ht])]
    exact .refl
  | some t =>
  simp only [Action.on_get_bind]
  cases hready : T.world.readiness T.unit T.environment.program t.state with
  | waiting =>
    rw [Turn.trail_of_none (by simp [Turn.start?, ht, hready])]
    exact .refl
  | faulty e =>
    rw [Turn.trail_of_none (by simp [Turn.start?, ht, hready])]
    exact (quiet_note _ T.world).plan.writes
  | ready =>
    simp only [Turn.trail, Turn.start?, ht, hready, Option.bind_some, Option.map_some,
      Option.getD_some]
    exact writes_resumeThread ..
  | missing piece =>
    simp only [Turn.trail, Turn.start?, ht, hready, Option.bind_some, Option.map_some,
      Option.getD_some, Action.on_modify_bind]
    exact (quiet_note _ T.world).plan.writes.append (writes_resumeThread ..)

/-- The turns of the threads of a unit; the induction is on the threads. -/
lemma writes_turnsOf (budget : Nat) (id : UnitId) (threads : List ThreadId) (w : World)
    (env : Environment) :
    Writes w (stampsIn (turnsOf budget id threads w env))
      ((threads.foldlM (visitThread budget id) env).on w).2 := by
  induction threads generalizing w env with
  | nil => exact .refl
  | cons n rest ih =>
    have hwrites := writes_visitThread ⟨id, n, budget, w, env⟩
    rw [List.foldlM_cons, Action.on_bind, turnsOf, visitsOf, List.map_cons, stampsIn_cons]
    revert hwrites
    rcases (visitThread budget id env n).on w with ⟨_ | env₁, w₁⟩ <;> intro hwrites
    · exact hwrites.append .refl
    · exact hwrites.append (ih w₁ env₁)

lemma writes_runUnitScripts (budget : Nat) (id : UnitId) (w : World) :
    Writes w (stampsIn (unitTurns budget id w)) ((runUnitScripts budget id).on w).2 := by
  simp only [runUnitScripts, Action.on_get_bind, Action.on_require_bind, unitTurns, unitVisits]
  cases hu : w.unit id with
  | error cause =>
    rw [get?_of_unit_eq_error hu]
    exact .refl
  | ok u =>
  rw [unit_eq_ok.1 hu, Option.bind_some]
  simp only
  cases henv : u.environment with
  | none => exact .refl
  | some env =>
    simp only [Action.on_modify_bind]
    have hturns := writes_turnsOf budget id env.threads.keys (w.detachEnvironment id) env
    have hwrites := (samePlan_detachEnvironment w).writes.append hturns
    rw [turnsOf] at hwrites
    rw [Action.on_bind]
    revert hwrites
    rcases (env.threads.keys.foldlM (visitThread budget id) env).on (w.detachEnvironment id) with
      ⟨_ | env', w'⟩ <;> intro hwrites
    · exact hwrites
    · exact hwrites.calm (samePlan_attachEnvironment env' w')

lemma writes_runScriptsNoting (budget : Nat) (id : UnitId) (w : World) :
    Writes w (stampsIn (unitTurns budget id w)) ((runScriptsNoting budget id).on w).2 := by
  have hwrites := writes_runUnitScripts budget id w
  rw [runScriptsNoting, Action.on_orElse]
  revert hwrites
  rcases (runUnitScripts budget id).on w with ⟨(cause | cause) | _, w'⟩ <;> intro hwrites
  · exact hwrites.calm (quiet_note _ w').plan
  · exact hwrites
  · exact hwrites

/-- The turns of several units; the induction is on the units. -/
lemma writes_turnsOfUnits (budget : Nat) (ids : List UnitId) (w : World) :
    Writes w (stampsIn (turnsOfUnits budget ids w))
      ((ids.forM (runScriptsNoting budget)).on w).2 := by
  induction ids generalizing w with
  | nil => exact .refl
  | cons id rest ih =>
    have hwrites := writes_runScriptsNoting budget id w
    rw [Action.on_forM_cons, turnsOfUnits, stampsIn_append]
    revert hwrites
    rcases (runScriptsNoting budget id).on w with ⟨_ | _, w₁⟩ <;> intro hwrites
    · exact hwrites.append .refl
    · exact hwrites.append (ih w₁)

lemma writes_runQuery (budget : Nat) (id : UnitId) (function : String) (params : List Int32)
    (w : World) :
    Writes w (stampsIn (queryTurns budget id function params w))
      ((runQuery budget id function params).on w).2 := by
  simp only [runQuery, Action.on_get_bind, Action.on_require_bind, queryTurns]
  cases hu : w.unit id with
  | error cause =>
    rw [get?_of_unit_eq_error hu]
    exact .refl
  | ok u =>
  rw [unit_eq_ok.1 hu, Option.bind_some]
  simp only
  cases henv : u.environment with
  | none => exact .refl
  | some env =>
  simp only [Action.on_modify_bind]
  have hdetach : Writes w [] (w.detachEnvironment id) := (samePlan_detachEnvironment w).writes
  -- nothing runs if no thread is started
  have unchanged : ∀ env₁, Writes w [] ((w.detachEnvironment id).attachEnvironment id env₁) :=
    fun env₁ => hdetach.calm (samePlan_attachEnvironment env₁ _)
  cases hs : env.startNamed function params with
  | error failure =>
    cases failure with
    | fault e => exact unchanged env
    | halt cause => exact hdetach
  | ok p =>
  obtain ⟨o, env₁⟩ := p
  cases o with
  | none => exact unchanged env₁
  | some n =>
  obtain ⟨-, -, t, hfresh, hthreads, -⟩ := Passed.startNamed_eq_some hs
  have ht : env₁.threads.get? n = some t := by
    rw [hthreads, SortedTable.get?_insert, if_pos rfl]
  let T : Turn := ⟨id, n, budget, w.detachEnvironment id, env₁⟩
  have hstart : T.start? = some ⟨w.detachEnvironment id, env₁.removeThread n, t⟩ :=
    Turn.start?_of_ready ht hfresh.state
  have hwrites := hdetach.append
    (writes_runForAnswer budget id function t (env₁.removeThread n) (w.detachEnvironment id))
  rw [List.nil_append, ← Turn.trail_of_start? hstart] at hwrites
  simp only [ht, stampsIn_cons, stampsIn_nil, List.append_nil]
  rw [Action.on_bind]
  revert hwrites
  rcases (runForAnswer budget id function t (env₁.removeThread n)).on (w.detachEnvironment id) with
    ⟨_ | ⟨answer, env'⟩, w'⟩ <;> intro hwrites
  · exact hwrites
  · exact hwrites.calm (samePlan_attachEnvironment env' w')

/-! ### All operations -/

lemma writes_tick (budget : Nat) (w : World) :
    Writes w (stampsIn (turnsOfUnits budget w.beginTick.units.keys w.beginTick))
      ((tick budget).on w).2 := by
  simp only [tick, Action.on_modify_bind, Action.on_get_bind]
  have hwrites := (samePlan_beginTick w).writes.append
    (writes_turnsOfUnits budget w.beginTick.units.keys w.beginTick)
  rw [List.nil_append] at hwrites
  rw [Action.on_bind]
  revert hwrites
  rcases (w.beginTick.units.keys.forM (runScriptsNoting budget)).on w.beginTick with
    ⟨_ | _, w₁⟩ <;> intro hwrites
  · exact hwrites
  · have hpieces := trans_of SamePlan (quiet_stepPieces w₁).plan
      (quiet_stepProjectiles w₁.stepPieces).plan
    have hswept := (hwrites.calm hpieces).append (writes_sweep w₁.stepPieces.stepProjectiles)
    rwa [List.append_nil] at hswept

/-- An operation writes its stamps on the plan, one after the other, and no others. -/
theorem writes_after (o : Operation) (w : World) : Writes w (o.stamps w) (o.after w) := by
  cases o with
  | addFeature t f =>
    rcases after_addFeature_cases t f w with ⟨hafter, -⟩ | ⟨r, -, -, h⟩
    · rw [hafter]
      exact .refl
    · exact (Write.land h).writes
  | addUnit =>
    rw [← Operation.respond_on]
    exact writes_addUnit ..
  | spawnUnit =>
    rw [← Operation.respond_on]
    exact writes_trySpawnUnit ..
  | moveUnit id position =>
    rw [← Operation.respond_on]
    show Writes w [] ((tryMoveUnit id position).on w).2
    rcases tryMoveUnit_cases id position w with h | ⟨b, t, old, new, g, -, -, h⟩
    · rw [h]
      exact .refl
    · exact (Write.move h).writes
  | setYardOpen id isOpen => exact writes_setYardOpen id isOpen w
  | startScript id function params =>
    exact SamePlan.writes
      (Respects.bind (R := SamePlan) (samePlan_startScript function params) (fun _ => .pure _) w)
  | runQuery budget id function params =>
    rw [← Operation.respond_on]
    exact writes_runQuery budget id function params w
  | runUnitScripts budget id => exact writes_runUnitScripts budget id w
  | tick budget => exact writes_tick budget w
  | _ => exact (quiet_after (by trivial) w).plan.writes

/-- A battle goes from write to write, and its stamps are those that it leaves on the plan. -/
theorem Run.writes {s : Setup} {past : List Step} (h : Run s past w) :
    ∃ start, World.new s = .ok start ∧ Writes start (stamps past) w := by
  induction h with
  | start h => exact ⟨_, h, .refl⟩
  | @step past w o _ _ ih =>
    obtain ⟨start, hstart, hwrites⟩ := ih
    rw [stamps, List.flatMap_append, List.flatMap_singleton]
    exact ⟨start, hstart, hwrites.append (writes_after o w)⟩

end Lockstep.World
