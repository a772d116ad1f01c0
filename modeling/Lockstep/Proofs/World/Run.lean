import Lockstep.Proofs.World.Scripted
/-!
# Battles

A battle goes on by operations in any order: players join, units and features are put on the map,
units are moved, their yards and pieces are operated, scripts run, and ticks pass.  A run is a
battle so far, with the operations that were carried out and the worlds that they began from.  An
operation may be refused; what does not belong to a run are operations that stop altogether.

The units themselves are changed only by operations.  What such an operation does to the plan of the
map is an `Episode`; it is either a single write or the work of scripts, after which dead units may
be taken off the map.
-/

namespace Lockstep.World

/-- Something that is asked of the world. -/
inductive Operation where
  /-- A player joins. -/
  | addPlayer (p : Player)
  /-- The books of a player are changed. -/
  | changePlayer (id : PlayerId) (f : Player → Player)
  /-- A feature is put on the map. -/
  | addFeature (t : FeatureType) (f : Feature)
  /-- A unit is created and put on the map; its script does not begin. -/
  | addUnit (typeName : String) (owner : PlayerId) (position : Vector3) (rotation : Option Angle)
  /-- A unit is put on the map and its script begins. -/
  | spawnUnit (typeName : String) (owner : PlayerId) (position : Vector3) (rotation : Option Angle)
  /-- A unit is moved. -/
  | moveUnit (id : UnitId) (position : Vector3)
  /-- The yard of a unit is opened or closed. -/
  | setYardOpen (id : UnitId) (isOpen : Bool)
  /-- A unit waits for a path. -/
  | requestPath (id : UnitId)
  /-- The next unit gets its path. -/
  | popPathRequest
  /-- All units on the footprint of a unit are told to leave it. -/
  | emitBuggerOff (id : UnitId)
  /-- A unit begins or stops to tell others to leave. -/
  | setBuggerOff (id : UnitId) (value : Bool)
  /-- A unit is told to leave a rectangle. -/
  | tellToBuggerOff (id : UnitId) (rect : Rect)
  /-- A unit reports what it consumes and produces. -/
  | report (id : UnitId) (apparentEnergy : Energy) (apparentMetal : Metal) (actualEnergy : Energy)
    (actualMetal : Metal)
  /-- A projectile is made. -/
  | createProjectile (owner : PlayerId) (weapon : String) (position direction : Vector3)
    (distance : Scalar)
  /-- A projectile is put in flight. -/
  | insertProjectile (p : Projectile)
  /-- A weapon is fired. -/
  | fire (owner : PlayerId) (weapon : String) (position direction : Vector3) (distance : Scalar)
  /-- A piece is shown or hidden. -/
  | setPieceVisible (id : UnitId) (name : String) (value : Bool)
  /-- A piece is lit or not. -/
  | setPieceShaded (id : UnitId) (name : String) (value : Bool)
  /-- A piece begins to move. -/
  | movePiece (id : UnitId) (name : String) (axis : Axis) (target speed : Scalar)
  /-- A piece is moved at once. -/
  | movePieceNow (id : UnitId) (name : String) (axis : Axis) (target : Scalar)
  /-- A piece begins to turn. -/
  | turnPiece (id : UnitId) (name : String) (axis : Axis) (target : Angle) (speed : Int32)
  /-- A piece is turned at once. -/
  | turnPieceNow (id : UnitId) (name : String) (axis : Axis) (target : Angle)
  /-- A piece begins to spin. -/
  | spinPiece (id : UnitId) (name : String) (axis : Axis) (targetSpeed acceleration : Int32)
  /-- The spin of a piece runs down. -/
  | stopSpinPiece (id : UnitId) (name : String) (axis : Axis) (deceleration : Int32)
  /-- A unit is switched on or off. -/
  | setActivation (id : UnitId) (value : Bool)
  /-- A unit enters or leaves its build stance. -/
  | setBuildStance (id : UnitId) (value : Bool)
  /-- A unit is killed. -/
  | quietlyKill (id : UnitId)
  /-- A function of the script of a unit is started. -/
  | startScript (id : UnitId) (function : String) (params : List Int32)
  /-- A function of the script of a unit is run at once. -/
  | runQuery (budget : Nat) (id : UnitId) (function : String) (params : List Int32)
  /-- The threads of a unit are resumed. -/
  | runUnitScripts (budget : Nat) (id : UnitId)
  /-- Somebody asks for the events. -/
  | takeEvents
  /-- Somebody asks for the notices. -/
  | takeNotices
  /-- A tick passes. -/
  | tick (budget : Nat)

namespace Operation

/-- Carries an operation out, whatever it answers. -/
def perform : Operation → Action Unit
  | addPlayer p => modify fun w => (w.addPlayer p).2
  | changePlayer id f => updatePlayer id f
  | addFeature t f => do let _ ← World.addFeature t f
  | addUnit typeName owner position rotation => do
    let u ← Action.require ((← get).createUnit typeName owner position rotation)
    let _ ← tryAddUnit u
  | spawnUnit typeName owner position rotation => do
    let _ ← trySpawnUnit typeName owner position rotation
  | moveUnit id position => do let _ ← tryMoveUnit id position
  | setYardOpen id isOpen => World.setYardOpen id isOpen
  | requestPath id => modify fun w => w.requestPath id
  | popPathRequest => modify fun w => w.popPathRequest.2
  | emitBuggerOff id => World.emitBuggerOff id
  | setBuggerOff id value => World.setBuggerOff id value
  | tellToBuggerOff id rect => World.tellToBuggerOff id rect
  | report id apparentEnergy apparentMetal actualEnergy actualMetal => do
    let _ ← reportActual id apparentEnergy apparentMetal actualEnergy actualMetal
  | createProjectile owner weapon position direction distance => do
    let _ ← World.createProjectile owner weapon position direction distance
  | insertProjectile p => do let _ ← World.insertProjectile p
  | fire owner weapon position direction distance => do
    let _ ← World.fire owner weapon position direction distance
  | setPieceVisible id name value => World.setPieceVisible id name value
  | setPieceShaded id name value => World.setPieceShaded id name value
  | movePiece id name axis target speed => World.movePiece id name axis target speed
  | movePieceNow id name axis target => World.movePieceNow id name axis target
  | turnPiece id name axis target speed => World.turnPiece id name axis target speed.toInt
  | turnPieceNow id name axis target => World.turnPieceNow id name axis target
  | spinPiece id name axis targetSpeed acceleration =>
    World.spinPiece id name axis targetSpeed.toInt acceleration.toInt
  | stopSpinPiece id name axis deceleration =>
    World.stopSpinPiece id name axis deceleration.toInt
  | setActivation id value => World.setActivation id value
  | setBuildStance id value => World.setBuildStance id value
  | quietlyKill id => World.quietlyKill id
  | startScript id function params => do let _ ← World.startScript id function params
  | runQuery budget id function params => do let _ ← World.runQuery budget id function params
  | runUnitScripts budget id => World.runUnitScripts budget id
  | takeEvents => modify fun w => w.takeEvents.2
  | takeNotices => modify fun w => w.takeNotices.2
  | tick budget => World.tick budget

/-- The world after an operation. -/
def after (o : Operation) (w : World) : World := (o.perform.on w).2

/-- An operation answers or is refused. -/
def Completes (o : Operation) (w : World) : Prop :=
  ∀ cause, (o.perform.on w).1 ≠ .error (.halt cause)

instance (o : Operation) (w : World) : Decidable (o.Completes w) :=
  match h : (o.perform.on w).1 with
  | .error (.halt cause) => .isFalse fun hc => hc cause h
  | .error (.refused _) => .isTrue fun _ hc => by rw [h] at hc; cases hc
  | .ok _ => .isTrue fun _ hc => by rw [h] at hc; cases hc

/-- All of some operations, carried out one after the other, complete. -/
def AllComplete : List Operation → World → Prop
  | [], _ => True
  | o :: rest, w => o.Completes w ∧ AllComplete rest (o.after w)

instance decidableAllComplete : (os : List Operation) → (w : World) → Decidable (AllComplete os w)
  | [], _ => .isTrue trivial
  | o :: rest, w =>
    have := decidableAllComplete rest (o.after w)
    inferInstanceAs (Decidable (o.Completes w ∧ AllComplete rest (o.after w)))

end Operation

/-- An operation that was carried out, and the world it began from. -/
structure Step where
  /-- The world before. -/
  before : World
  /-- The operation. -/
  operation : Operation

/-- The battles that begin from a setup, with what has happened in them and the worlds they have
come to. -/
inductive Run (s : Setup) : List Step → World → Prop
  | start {w : World} : World.new s = .ok w → Run s [] w
  | step {past : List Step} {w : World} (o : Operation) :
    Run s past w → o.Completes w → Run s (past ++ [⟨w, o⟩]) (o.after w)

/-- Carries operations out one after the other, keeping what has happened. -/
def replay : List Operation → List Step → World → List Step × World
  | [], past, w => (past, w)
  | o :: rest, past, w => replay rest (past ++ [⟨w, o⟩]) (o.after w)

lemma Run.replay {s : Setup} {past : List Step} {w : World} {os : List Operation}
    (h : Run s past w) (hos : Operation.AllComplete os w) :
    Run s (World.replay os past w).1 (World.replay os past w).2 := by
  induction os generalizing past w with
  | nil => exact h
  | cons o rest ih => exact ih (h.step o hos.1) hos.2

lemma replay_append (os : List Operation) (past : List Step) (w : World) :
    replay os past w = (past ++ (replay os [] w).1, (replay os [] w).2) := by
  induction os generalizing past w with
  | nil => simp [replay]
  | cons o os ih =>
    rw [replay, replay, ih, ih ([] ++ [_])]
    simp

lemma replay_cons (o : Operation) (os : List Operation) (w : World) :
    replay (o :: os) [] w =
      (⟨w, o⟩ :: (replay os [] (o.after w)).1, (replay os [] (o.after w)).2) :=
  replay_append os [⟨w, o⟩] (o.after w)

lemma Run.replay_append {s : Setup} {past : List Step} {w : World} {os : List Operation}
    (h : Run s past w) (hos : Operation.AllComplete os w) :
    Run s (past ++ (World.replay os [] w).1) (World.replay os [] w).2 := by
  have hrun := h.replay hos
  rwa [World.replay_append] at hrun

/-- The world at the beginning of a battle that can begin. -/
structure Initial (s : Setup) (w : World) : Prop where
  valid : s.validate = .ok ()
  definitions : w.definitions = s.definitions
  units : w.units = .empty
  cells : ∀ {x y c}, w.occupancy.at? x y = some c → c = Occupancy.free

lemma exists_of_bind_eq_ok {ε α β : Type} {a : Except ε α} {f : α → Except ε β} {b : β}
    (h : (a >>= f) = .ok b) : ∃ x, a = .ok x ∧ f x = .ok b := by
  cases a with
  | error e => cases h
  | ok x => exact ⟨x, rfl, h⟩

lemma eq_ok_of_mapError {ε ε' α : Type} {f : ε → ε'} {a : Except ε α} {x : α}
    (h : a.mapError f = .ok x) : a = .ok x := by
  cases a with
  | error e => cases h
  | ok y => cases h; rfl

lemma initial_new {s : Setup} {w : World} (h : World.new s = .ok w) : Initial s w := by
  rw [World.new] at h
  obtain ⟨_, hv, h⟩ := exists_of_bind_eq_ok h
  obtain ⟨occupancy, ho, h⟩ := exists_of_bind_eq_ok h
  obtain ⟨metal, -, h⟩ := exists_of_bind_eq_ok h
  cases h
  exact ⟨hv, rfl, rfl, fun hc => Grid.at?_fill (eq_ok_of_mapError ho) hc⟩

lemma Initial.body?_eq_none {s : Setup} {w : World} (h : Initial s w) (id : UnitId) :
    w.body? id = none := by
  rw [body?, h.units]
  rfl

/-! ### Episodes -/

/-- A single write that at most takes a unit off the map. -/
inductive Clearing (w w' : World) : Prop
  | calm (h : SamePlan w w')
  | remove (id : UnitId) (h : Removed w w' id)

/-- What an operation on units does to the plan. -/
inductive Episode (w w' : World) : Prop
  | unit {m : World} (write : Change w m) (calm : SamePlan m w')
  | script {m : World} (yards : YardWrites w m)
    (clearings : Relation.ReflTransGen Clearing m w')

variable {w w' : World} {id : UnitId}

lemma SamePlan.episode (h : SamePlan w w') : Episode w w' :=
  .unit (.calm (refl_of SamePlan w)) h

lemma Change.episode (h : Change w w') : Episode w w' := .unit h (refl_of SamePlan w')

lemma YardWrites.episode (h : YardWrites w w') : Episode w w' := .script h .refl

lemma YardWrite.change (h : YardWrite w w') : Change w w' := by
  cases h with
  | calm h => exact .calm h
  | toggle id b isOpen t r yard h => exact .toggle id b isOpen t r yard h

lemma Clearing.change (h : Clearing w w') : Change w w' := by
  cases h with
  | calm h => exact .calm h
  | remove id h => exact .remove id h

/-- An episode is a sequence of single writes. -/
lemma Episode.changes (h : Episode w w') : Relation.ReflTransGen Change w w' := by
  cases h with
  | unit write calm => exact .tail (.single write) (.calm calm)
  | script yards clearings =>
    exact (Relation.ReflTransGen.mono (fun _ _ => YardWrite.change) _ _ yards).trans
      (Relation.ReflTransGen.mono (fun _ _ => Clearing.change) _ _ clearings)

/-- A property of worlds that single writes keep is kept by episodes. -/
lemma Episode.invariant {P : World → Prop} (hP : ∀ {w w'}, Change w w' → P w → P w')
    (h : Episode w w') (hw : P w) : P w' := by
  have hchanges := h.changes
  clear h
  induction hchanges with
  | refl => exact hw
  | tail _ write ih => exact hP write ih

lemma Episode.ground (h : Episode w w') : SameGround w w' :=
  h.invariant (P := SameGround w) (fun write hw => hw.trans write.ground) (.refl w)

/-! ### The episodes of the operations -/

/-- An operation that goes on without touching the plan leaves the plan of its first part. -/
lemma samePlan_bind {α β : Type} {a : Action α} {f : α → Action β}
    (hf : ∀ x, Respects SamePlan (f x)) (w : World) : SamePlan (a.on w).2 ((a >>= f).on w).2 := by
  rw [Action.on_bind]
  rcases a.on w with ⟨_ | x, w₁⟩
  · exact refl_of SamePlan w₁
  · exact hf x w₁

lemma change_tryAddUnit (u : UnitState) (w : World) : Change w ((tryAddUnit u).on w).2 := by
  rcases tryAddUnit_cases u w with ⟨_, h, -⟩ | ⟨t, r, next, g, w', hon, -, h | ⟨yard, h⟩⟩
  · rw [h]
    exact .calm (refl_of SamePlan w)
  · rw [hon]
    exact .place _ _ t r h
  · rw [hon]
    exact .build _ _ t r yard h

lemma change_tryMoveUnit (position : Vector3) (w : World) :
    Change w ((tryMoveUnit id position).on w).2 := by
  rcases tryMoveUnit_cases id position w with h | ⟨b, t, old, new, g, -, -, h⟩
  · rw [h]
    exact .calm (refl_of SamePlan w)
  · exact .move id b position t old new h

lemma episode_addUnit (typeName : String) (owner : PlayerId) (position : Vector3)
    (rotation : Option Angle) (w : World) :
    Episode w ((Operation.addUnit typeName owner position rotation).after w) := by
  simp only [Operation.after, Operation.perform, Action.on_get_bind, Action.on_require_bind]
  cases w.createUnit typeName owner position rotation with
  | error cause => exact (refl_of SamePlan w).episode
  | ok u => exact .unit (change_tryAddUnit u w) (samePlan_bind (fun _ => .pure _) w)

lemma episode_trySpawnUnit (typeName : String) (owner : PlayerId) (position : Vector3)
    (rotation : Option Angle) (w : World) :
    Episode w ((trySpawnUnit typeName owner position rotation).on w).2 := by
  simp only [trySpawnUnit, Action.on_get_bind, Action.on_require_bind]
  cases w.createUnit typeName owner position rotation with
  | error cause => exact (refl_of SamePlan w).episode
  | ok u =>
  simp only
  cases w.definitions.unitType typeName with
  | error cause => exact (refl_of SamePlan w).episode
  | ok t =>
  refine .unit (change_tryAddUnit _ w) (samePlan_bind (fun answer => ?_) w)
  cases answer with
  | none => exact .pure _
  | some id =>
    exact Respects.bind (samePlan_startScript _ _) fun _ =>
      Respects.bind (.modify fun w => (quiet_tell _ w).plan) fun _ => .pure _

lemma clearings_sweep (w : World) : Relation.ReflTransGen Clearing w w.sweep := by
  refine rel_sweep (R := Relation.ReflTransGen Clearing) (fun w id => ?_) w
  by_cases h : w.unitExists id = true
  · exact .tail (.single (.remove id (removed_removeUnit h))) (.calm (quiet_tell _ _).plan)
  · refine .single (.calm ?_)
    rw [sweepUnit, removeUnit, if_neg h]
    exact (quiet_tell _ w).plan

lemma yardWrites_runScriptsNoting (budget : Nat) :
    Respects YardWrites (runScriptsNoting budget id) :=
  Action.respects_orElse (yardWrites_runUnitScripts budget) fun _ =>
    .modify fun w => (quiet_note _ w).plan.yardWrites

lemma episode_tick (budget : Nat) (w : World) : Episode w ((tick budget).on w).2 := by
  simp only [tick, Action.on_modify_bind, Action.on_get_bind]
  rw [Action.on_bind]
  have hscripts : YardWrites w.beginTick
      ((w.beginTick.units.keys.forM (runScriptsNoting budget)).on w.beginTick).2 :=
    Respects.forM (R := YardWrites) (fun _ _ => yardWrites_runScriptsNoting budget) w.beginTick
  have hbegin := trans_of YardWrites (samePlan_beginTick w).yardWrites hscripts
  revert hbegin
  rcases (w.beginTick.units.keys.forM (runScriptsNoting budget)).on w.beginTick with
    ⟨_ | _, w₁⟩ <;> intro hbegin
  · exact hbegin.episode
  · have hpieces := trans_of SamePlan (quiet_stepPieces w₁).plan
      (quiet_stepProjectiles w₁.stepPieces).plan
    exact .script (trans_of YardWrites hbegin hpieces.yardWrites) (clearings_sweep _)

/-- An operation that is neither about what stands on the map nor about scripts. -/
def Operation.IsQuiet : Operation → Prop
  | addFeature .. | addUnit .. | spawnUnit .. | moveUnit .. | setYardOpen .. => False
  | startScript .. | runQuery .. | runUnitScripts .. | tick .. => False
  | _ => True

theorem quiet_after {o : Operation} (ho : o.IsQuiet) (w : World) : Quiet w (o.after w) := by
  cases o with
  | addPlayer p =>
    have hsize : w.players.size ≤ (w.players.push p).size := by simp
    exact .of_units rfl rfl rfl rfl rfl rfl rfl hsize
  | changePlayer id f => exact quiet_updatePlayer id f w
  | requestPath id => exact quiet_requestPath w
  | popPathRequest => exact quiet_popPathRequest w
  | emitBuggerOff id => exact quiet_emitBuggerOff w
  | setBuggerOff id value => exact quiet_setBuggerOff value w
  | tellToBuggerOff id rect => exact quiet_tellToBuggerOff rect w
  | report => exact Action.respects_discard (quiet_reportActual _ _ _ _) w
  | createProjectile => exact Action.respects_discard (quiet_createProjectile _ _ _ _ _) w
  | insertProjectile p => exact Action.respects_discard (quiet_insertProjectile p) w
  | fire => exact Action.respects_discard (quiet_fire _ _ _ _ _) w
  | setPieceVisible id name value => exact quiet_setPieceVisible name value w
  | setPieceShaded id name value => exact quiet_setPieceShaded name value w
  | movePiece id name axis =>
    exact quiet_updatePiece name (fun h => .of_ok (h.moveTo axis _ _)) w
  | movePieceNow id name axis =>
    exact quiet_updatePiece name (fun h => .of_ok (h.moveNow axis _)) w
  | turnPiece id name axis target speed =>
    exact quiet_updatePiece name
      (fun h => .of_ok (h.turnTo axis _ (fitsSigned_toInt speed))) w
  | turnPieceNow id name axis =>
    exact quiet_updatePiece name (fun h => .of_ok (h.turnNow axis _)) w
  | spinPiece id name axis targetSpeed =>
    exact quiet_updatePiece name (fun h hq => h.spin (fitsSigned_toInt targetSpeed) hq) w
  | stopSpinPiece id name => exact quiet_updatePiece name (fun h hq => h.stopSpin hq) w
  | setActivation id value => exact quiet_setActivation value w
  | setBuildStance id value => exact quiet_setBuildStance value w
  | quietlyKill id => exact quiet_quietlyKill w
  | takeEvents => exact .of_units rfl rfl rfl rfl rfl rfl rfl (Nat.le_refl _)
  | takeNotices => exact .of_units rfl rfl rfl rfl rfl rfl rfl (Nat.le_refl _)
  | _ => exact absurd ho id

/-- Only a feature that is added writes on the plan in another way than by an episode. -/
theorem episode_after {o : Operation} (ho : ∀ t f, o ≠ .addFeature t f) (w : World) :
    Episode w (o.after w) := by
  cases o with
  | addFeature t f => exact absurd rfl (ho t f)
  | addUnit typeName owner position rotation => exact episode_addUnit _ _ _ _ w
  | spawnUnit typeName owner position rotation =>
    rw [Operation.after, Operation.perform, Action.on_discard]
    exact episode_trySpawnUnit typeName owner position rotation w
  | moveUnit id position =>
    rw [Operation.after, Operation.perform, Action.on_discard]
    exact (change_tryMoveUnit position w).episode
  | setYardOpen id isOpen => exact YardWrites.episode (scripted_setYardOpen isOpen w).plan
  | startScript id function params =>
    exact SamePlan.episode
      (Respects.bind (R := SamePlan) (samePlan_startScript function params) (fun _ => .pure _) w)
  | runQuery budget id function params =>
    exact YardWrites.episode
      (Respects.bind (R := YardWrites) (yardWrites_runQuery budget function params)
        (fun _ => .pure _) w)
  | runUnitScripts budget id => exact YardWrites.episode (yardWrites_runUnitScripts budget w)
  | tick budget => exact episode_tick budget w
  | _ => exact SamePlan.episode (quiet_after (by trivial) w).plan

lemma Operation.addFeature_or (o : Operation) :
    (∃ t f, o = .addFeature t f) ∨ ∀ t f, o ≠ .addFeature t f := by
  simp only [← not_exists]
  exact em _

/-- A feature lands with the next number, or nothing happens. -/
lemma after_addFeature_cases (t : FeatureType) (f : Feature) (w : World) :
    ((Operation.addFeature t f).after w = w ∧
        ∀ id, ((addFeature t f).on w).1 ≠ .ok (some id)) ∨
      ∃ r, w.footprint f.position t.width t.depth = .ok r ∧
        ((addFeature t f).on w).1 = .ok (some ⟨w.nextFeature⟩) ∧
        Landed w ((Operation.addFeature t f).after w) ⟨w.nextFeature⟩ t r := by
  have hafter : (Operation.addFeature t f).after w = ((addFeature t f).on w).2 :=
    Action.on_discard _ w
  rw [hafter]
  rcases addFeature_cases t f w with ⟨answer, hon, hanswer⟩ | ⟨r, hr, hanswer, -, h⟩
  · rw [hon]
    exact .inl ⟨rfl, hanswer⟩
  · exact .inr ⟨r, hr, hanswer, h⟩

/-! ### A small battle -/

namespace Sample

/-- A script that sleeps for a second again and again. -/
def program : Script.Program where
  words := #[Script.Opcode.word .pushConstant, 1000, Script.Opcode.word .sleep,
    Script.Opcode.word .jump, 0]
  functions := [⟨"Create", 0⟩]
  pieces := []
  staticCount := 0

/-- A type of units with a footprint and a yard of one cell. -/
def unitType (name : String) (isMobile : Bool) (cell : YardCell) : UnitType where
  name := name
  model := "BOX"
  isMobile := isMobile
  floats := false
  hovers := false
  maxHitPoints := 100
  movement := .own ⟨"", 1, 1, 0, 0, 0, 0⟩
  yardMap := some ⟨1, 1, #[cell], Nat.one_pos, Nat.one_pos, rfl⟩
  weapons := Vector.replicate 3 none

/-- A mobile type and two types of buildings, whose yards are passable always or while they are
open. -/
def definitions : Definitions :=
  ["TANK", "PAD", "LAB"].foldl (fun d name => d.addScript name program)
    (Definitions.empty.addModel "BOX" ⟨0, []⟩)
  |>.addUnitType (unitType "TANK" true .always)
  |>.addUnitType (unitType "PAD" false .always)
  |>.addUnitType (unitType "LAB" false .groundWhenOpen)

/-- A level map of three by three cells. -/
def setup : Setup where
  terrain := ⟨⟨4, 4, Array.replicate 16 0, by decide, by decide, rfl⟩, 0⟩
  definitions := definitions
  seed := 0
  surfaceMetal := 0

/-- The world at the beginning. -/
def start : World where
  time := ⟨0⟩
  terrain := setup.terrain
  definitions := definitions
  occupancy := ⟨3, 3, Array.replicate 9 Occupancy.free, by decide, by decide, rfl⟩
  metal := ⟨3, 3, Array.replicate 9 0, by decide, by decide, rfl⟩
  players := #[]
  units := .empty
  nextUnit := 1
  features := .empty
  nextFeature := 0
  projectiles := .empty
  nextProjectile := 0
  pathRequests := []
  random := .ofSeed 0
  events := #[]
  notices := #[]

lemma new_setup : World.new setup = .ok start := by
  have hvalid : setup.validate = .ok () := by decide +kernel
  rw [World.new, hvalid]
  rfl

/-- The battle in which operations are carried out one after the other. -/
def battle (os : List Operation) : List Step × World := replay os [] start

lemma run_battle {os : List Operation} (h : Operation.AllComplete os start) :
    Run setup (battle os).1 (battle os).2 :=
  (Run.start new_setup).replay h

/-- The same map with tanks only, of a given model and script. -/
def drill (pieces : List PieceDefinition) (p : Script.Program) : Setup where
  terrain := setup.terrain
  definitions := ((Definitions.empty.addModel "BOX" ⟨0, pieces⟩).addScript "TANK" p).addUnitType
    (unitType "TANK" true .always)
  seed := 0
  surfaceMetal := 0

/-- The world at the beginning of a drill. -/
def lineup (s : Setup) : World := { start with definitions := s.definitions }

end Sample

end Lockstep.World
