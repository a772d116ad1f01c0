import Lockstep.Proofs.Script.Abreast
import Lockstep.World.Tick
/-!
# Nobody looks at the queue of events

Two worlds that differ only in the events still queued are not told apart by anything that happens
in them: no operation, no script and no tick looks at the queue.  What is told meanwhile is added at
the end of both queues.  Here the first world is the second without some of its oldest events
(`Behind`), and each operation is in step with itself on the two (`Oblivious`).
-/

namespace Lockstep.World

open Script (Effect Environment Exec Host Machine Motion Thread)

variable {α β : Type} {older : List Event} {w w' : World} {id : UnitId}

/-- A world with further events at the front of the queue. -/
def withOlder (w : World) (older : List Event) : World :=
  { w with events := older.toArray ++ w.events }

/-- The second world has some older events queued; else the two are the same. -/
def Behind (older : List Event) (w w' : World) : Prop := w' = w.withOlder older

/-- An operation that does not look at the queue. -/
def Oblivious (a : Action α) : Prop := ∀ older, InStep (Behind older) a a

lemma Behind.of_eq {f : World → World} (h : ∀ w, f (w.withOlder older) = (f w).withOlder older)
    (hw : Behind older w w') : Behind older (f w) (f w') := by
  subst hw
  exact h w

lemma Behind.tell (e : Event) (hw : Behind older w w') : Behind older (w.tell e) (w'.tell e) := by
  refine hw.of_eq (f := (World.tell · e)) fun w => ?_
  simp [World.tell, withOlder]

namespace Oblivious

lemma bind {a : Action α} {f : α → Action β} (ha : Oblivious a) (hf : ∀ x, Oblivious (f x)) :
    Oblivious (a >>= f) :=
  fun older => (ha older).bind fun x => hf x older

lemma pure (x : α) : Oblivious (pure x) := fun _ => .pure x

lemma require (r : Except Refusal α) : Oblivious (Action.require r) :=
  fun _ => Action.inStep_require r

lemma checked (r : Except Overflow α) : Oblivious (Action.checked r) :=
  fun _ => Action.inStep_checked r

lemma ofExcept (r : Except Failure α) : Oblivious (Action.ofExcept r) :=
  fun _ => Action.inStep_ofExcept r

lemma modify {f : World → World}
    (h : ∀ (w : World) older, f (w.withOlder older) = (f w).withOlder older) :
    Oblivious (modify f : Action Unit) :=
  fun _ => .modify fun _ _ hw => hw.of_eq fun w => h w _

lemma forM {ι : Type} {l : List ι} {f : ι → Action PUnit} (h : ∀ i, Oblivious (f i)) :
    Oblivious (l.forM f) :=
  fun older => .forM fun i _ => h i older

lemma foldlM {ι : Type} {l : List ι} {f : β → ι → Action β} (h : ∀ b i, Oblivious (f b i)) (b : β) :
    Oblivious (l.foldlM f b) :=
  fun older => .foldlM (fun b i _ => h b i older) b

lemma orElse {a : Action α} {f : Refusal → Action α} (ha : Oblivious a)
    (hf : ∀ cause, Oblivious (f cause)) : Oblivious (a.orElse f) :=
  fun older => Action.inStep_orElse (ha older) fun cause => hf cause older

/-- A look at the world is harmless as long as what comes of it does not depend on the queue. -/
lemma get_bind {f : World → Action α}
    (h : ∀ (w : World) older, InStep (Behind older) (f w) (f (w.withOlder older))) :
    Oblivious (get >>= f) := by
  refine fun older => .get_bind ?_
  rintro w _ rfl
  exact h w older

end Oblivious

lemma oblivious_tell (e : Event) : Oblivious (modify (·.tell e) : Action Unit) :=
  fun _ => .modify fun _ _ hw => hw.tell e

/-! ### Units and players -/

lemma oblivious_updateUnit (f : UnitState → UnitState) : Oblivious (updateUnit id f) :=
  .get_bind fun w older => .bind (Oblivious.require (w.unit id) older) fun _ =>
    Oblivious.modify (fun _ _ => rfl) older

lemma oblivious_updatePlayer (id : PlayerId) (f : Player → Player) :
    Oblivious (updatePlayer id f) :=
  .get_bind fun w older => .bind (Oblivious.require (w.player id) older) fun _ =>
    Oblivious.modify (fun _ _ => rfl) older

lemma oblivious_updatePiece (name : String) (f : Piece → Except Overflow Piece) :
    Oblivious (updatePiece id name f) := by
  refine .get_bind fun w older => .bind (Oblivious.require (w.unit id) older) fun u => ?_
  split
  · exact .throw _
  · split
    · exact .throw _
    · exact .bind (Oblivious.checked _ older) fun p => Oblivious.modify (fun _ _ => rfl) older

lemma oblivious_reportActual (apparentEnergy : Energy) (apparentMetal : Metal)
    (actualEnergy : Energy) (actualMetal : Metal) :
    Oblivious (reportActual id apparentEnergy apparentMetal actualEnergy actualMetal) := by
  refine .get_bind fun w older => .bind (Oblivious.require (w.unit id) older) fun u =>
    .bind (Oblivious.require (w.player u.owner) older) fun p => ?_
  exact .bind (Oblivious.modify (fun _ _ => rfl) older) fun _ =>
    .bind (Oblivious.modify (fun _ _ => rfl) older) fun _ => .pure _

/-! ### The map -/

lemma oblivious_addFeature (t : FeatureType) (f : Feature) : Oblivious (addFeature t f) := by
  refine .get_bind fun w older =>
    .bind (Oblivious.checked (w.footprint f.position t.width t.depth) older) fun rect =>
    .ite (.pure none) ?_
  refine .bind (Oblivious.checked (Overflow.successor w.nextFeature) older) fun next =>
    .bind (.set rfl) fun _ => .pure _

lemma oblivious_tryAddUnit (u : UnitState) : Oblivious (tryAddUnit u) := by
  refine .get_bind fun w older =>
    .bind (Oblivious.require (w.definitions.unitType u.unitType) older) fun t =>
    .bind (Oblivious.ofExcept (w.classFootprint u.position t.movement) older) fun rect =>
    .ite (.pure none) ?_
  have hoccupancy : (w.withOlder older).occupancy = w.occupancy := rfl
  rw [hoccupancy]
  split
  · exact .pure none
  · refine .bind (Oblivious.require _ older) fun yardMap =>
      .bind (Oblivious.checked (Overflow.successor w.nextUnit) older) fun next => ?_
    split
    · exact .bind (.pure _) fun _ => .bind (.set rfl) fun _ => .pure _
    · exact .bind (Oblivious.checked _ older) fun _ => .bind (.set rfl) fun _ => .pure _

lemma oblivious_startScript (function : String) (params : List Int32) :
    Oblivious (startScript id function params) := by
  refine .get_bind fun w older => .bind (Oblivious.require (w.unit id) older) fun u => ?_
  split
  · exact .bind (Oblivious.modify (fun _ _ => rfl) older) fun _ => .pure _
  · split
    · exact .bind (Oblivious.modify (fun _ _ => rfl) older) fun _ => .pure _
    · exact .throw _
    · exact .pure _

lemma oblivious_trySpawnUnit (typeName : String) (owner : PlayerId) (position : Vector3)
    (rotation : Option Angle) : Oblivious (trySpawnUnit typeName owner position rotation) := by
  refine .get_bind fun w older =>
    .bind (Oblivious.require (w.createUnit typeName owner position rotation) older) fun u =>
    .bind (Oblivious.require (w.definitions.unitType typeName) older) fun t =>
    .bind (oblivious_tryAddUnit _ older) fun answer => ?_
  split
  · exact .pure _
  · exact .bind (oblivious_startScript _ _ older) fun _ =>
      .bind (oblivious_tell _ older) fun _ => .pure _

lemma oblivious_moveOccupiedArea (old new : Rect) : Oblivious (moveOccupiedArea old new id) :=
  .get_bind fun w older => .bind (Oblivious.require (w.footprintRegion id old) older) fun _ =>
    .bind (Oblivious.require (w.footprintRegion id new) older) fun _ => .set rfl

lemma oblivious_tryMoveUnit (position : Vector3) : Oblivious (tryMoveUnit id position) := by
  refine .get_bind fun w older => .bind (Oblivious.require (w.unit id) older) fun u =>
    .bind (Oblivious.require (w.definitions.unitType u.unitType) older) fun t =>
    .ite (.pure _) ?_
  refine .bind (Oblivious.ofExcept (w.classFootprint u.position t.movement) older) fun old =>
    .bind (Oblivious.ofExcept (w.classFootprint position t.movement) older) fun new =>
    .ite (.pure _) ?_
  exact .bind (oblivious_moveOccupiedArea old new older) fun _ =>
    .bind (oblivious_updateUnit _ older) fun _ => .pure _

lemma oblivious_trySetYardOpen (isOpen : Bool) : Oblivious (trySetYardOpen id isOpen) := by
  refine .get_bind fun w older => .bind (Oblivious.ofExcept (w.unitFootprint id) older) fun rect =>
    .bind (Oblivious.require (w.unit id) older) fun u =>
    .bind (Oblivious.require (w.definitions.unitType u.unitType) older) fun t => ?_
  split
  · exact .throw _
  · rename_i yard _
    refine .bind (Oblivious.require (w.footprintRegion id rect) older) fun region =>
      .bind (Oblivious.checked (w.isYardBlocked (UInt32.ofNat region.x) (UInt32.ofNat region.y) yard
        isOpen) older) fun blocked => .ite (.pure _) ?_
    exact .bind (Oblivious.checked (claim w.occupancy region yard id isOpen) older) fun _ =>
      .bind (.set rfl) fun _ => .bind (oblivious_updateUnit _ older) fun _ => .pure _

lemma oblivious_setYardOpen (isOpen : Bool) : Oblivious (setYardOpen id isOpen) :=
  (oblivious_trySetYardOpen isOpen).bind fun _ => .pure _

lemma oblivious_emitBuggerOff : Oblivious (emitBuggerOff id) :=
  .get_bind fun w older => .bind (Oblivious.ofExcept (w.unitFootprint id) older) fun rect =>
    .bind (Oblivious.require (w.footprintRegion id rect) older) fun _ =>
    Oblivious.forM (fun _ => oblivious_updateUnit _) older

lemma oblivious_setBuggerOff (value : Bool) : Oblivious (setBuggerOff id value) := by
  rw [setBuggerOff]
  split
  · exact oblivious_emitBuggerOff
  · exact .pure _

lemma oblivious_setActivation (value : Bool) : Oblivious (setActivation id value) :=
  (oblivious_updateUnit _).bind fun _ => oblivious_tell _

lemma oblivious_popPathRequest :
    Oblivious (modifyGet popPathRequest : Action (Option UnitId)) := by
  refine fun older => .modifyGet ?_
  rintro w _ rfl
  have hqueue : (w.withOlder older).pathRequests = w.pathRequests := rfl
  rw [popPathRequest, popPathRequest, hqueue]
  split <;> exact ⟨rfl, rfl⟩

/-! ### Projectiles -/

lemma oblivious_createProjectile (owner : PlayerId) (weaponName : String)
    (position direction : Vector3) (distance : Scalar) :
    Oblivious (createProjectile owner weaponName position direction distance) := by
  refine .get_bind fun w older =>
    .bind (Oblivious.require (w.definitions.weapon weaponName) older) fun weapon => ?_
  have htime : (w.withOlder older).time = w.time := rfl
  have hrandom : (w.withOlder older).random = w.random := rfl
  simp only [htime, hrandom]
  split
  · exact .bind (.set rfl) fun _ => .bind (.pure _) fun _ => .pure _
  · exact .bind (.pure _) fun _ => .pure _
  · exact .bind (.pure _) fun _ => .pure _

lemma oblivious_insertProjectile (p : Projectile) : Oblivious (insertProjectile p) :=
  .get_bind fun w older =>
    .bind (Oblivious.checked (Overflow.successor w.nextProjectile) older) fun _ =>
    .bind (.set rfl) fun _ => .pure _

lemma oblivious_fire (owner : PlayerId) (weaponName : String) (position direction : Vector3)
    (distance : Scalar) : Oblivious (fire owner weaponName position direction distance) :=
  (oblivious_createProjectile _ _ _ _ _).bind fun _ => oblivious_insertProjectile _

/-! ### Scripts -/

lemma alike_reporting {operation : String} {a : Action Unit} (ha : Oblivious a)
    (hw : Behind older w w') :
    Alike (Behind older) (reporting operation a w) (reporting operation a w') := by
  have hon : (a.on w).1 = (a.on w').1 ∧ Behind older (a.on w).2 (a.on w').2 := ha older w w' hw
  rw [reporting, reporting]
  revert hon
  rcases a.on w with ⟨answer, w₁⟩
  rcases a.on w' with ⟨answer', w₁'⟩
  rintro ⟨rfl, rfl⟩
  rcases answer with (cause | cause) | _
  · exact .ok rfl
  · exact .error cause
  · exact .ok rfl

lemma alike_applyEffect (id : UnitId) (e : Effect) (hw : Behind older w w') :
    Alike (Behind older) (applyEffect id e w) (applyEffect id e w') := by
  cases e with
  | visible | shaded => exact alike_reporting (oblivious_updatePiece _ _) hw
  | emit piece effect => exact .ok (hw.tell _)
  | activation value => exact alike_reporting (oblivious_setActivation value) hw
  | yard value => exact alike_reporting (oblivious_setYardOpen value) hw
  | buggerOff value => exact alike_reporting (oblivious_setBuggerOff value) hw
  | buildStance | moveOrders | fireOrders | armored =>
    exact alike_reporting (oblivious_updateUnit _) hw

/-- No script can find out what is queued. -/
lemma impartial_host : host.Impartial (Behind older) where
  random {w _} low high hw := by
    subst hw
    show Alike _ ((w.random.betweenSigned low high).map fun p => (p.1, { w with random := p.2 }))
      ((w.random.betweenSigned low high).map fun p =>
        (p.1, { w.withOlder older with random := p.2 }))
    cases w.random.betweenSigned low high with
    | error cause => exact .error cause
    | ok p => exact .ok ⟨rfl, rfl⟩
  unit? id hw := hw ▸ rfl
  piecePosition? id piece hw := hw ▸ rfl
  groundHeight x z hw := hw ▸ rfl
  minUnit hw := hw ▸ rfl
  maxUnit hw := hw ▸ rfl
  apply id e hw := alike_applyEffect id e hw

/-- The worlds differ in the queue; the script state and the thread are the same. -/
abbrev Paired (older : List Event) : Machine World → Machine World → Prop :=
  Machine.Abreast (Behind older) Eq

lemma paired (older : List Event) (w : World) (env : Environment) (t : Thread) :
    Paired older ⟨w, env, t⟩ ⟨w.withOlder older, env, t⟩ := Machine.Abreast.mk rfl rfl

lemma oblivious_motionAction (piece : String) (axis : Axis) (motion : Motion) :
    Oblivious (motionAction id piece axis motion) := by
  cases motion <;> exact oblivious_updatePiece _ _

lemma inStep_applyMotion (piece : UInt32) (axis : Axis) (motion : Motion) :
    InStep (Paired older) (applyMotion id piece axis motion)
      (applyMotion id piece axis motion) := by
  have hname : Machine.Routine host id (Machine.pieceName piece) := .pieceName piece
  refine .bind (hname.inStep impartial_host Script.stackLaw_eq) fun name => .get_bind ?_
  rintro _ _ (@⟨w, w', env, t, l, hw, rfl⟩)
  have hon : ((motionAction id name axis motion).on w).1 =
      ((motionAction id name axis motion).on w').1 ∧
        Behind older ((motionAction id name axis motion).on w).2
          ((motionAction id name axis motion).on w').2 :=
    oblivious_motionAction name axis motion older w w' hw
  revert hon
  simp only
  rcases (motionAction id name axis motion).on w with ⟨answer, w₁⟩
  rcases (motionAction id name axis motion).on w' with ⟨answer', w₁'⟩
  rintro ⟨rfl, rfl⟩
  rcases answer with (cause | cause) | _
  · exact .set (.mk rfl rfl)
  · exact .bind (.set (.mk rfl rfl)) fun _ => .throw _
  · exact .set (.mk rfl rfl)

lemma inStep_resume (budget : Nat) :
    InStep (Paired older) (resume id budget) (resume id budget) := by
  induction budget with
  | zero => exact .throw _
  | succ budget ih =>
    rw [resume]
    refine .bind (Machine.Routine.step.inStep impartial_host Script.stackLaw_eq) fun status => ?_
    split
    · exact ih
    · exact .pure _
    · exact .bind (inStep_applyMotion _ _ _) fun _ => ih
    · exact .pure _
    · exact .pure _
    · refine .get_bind ?_
      rintro _ _ ⟨rfl, -⟩
      exact .pure _

lemma oblivious_resumeThread (budget : Nat) (thread : ThreadId) (t : Thread)
    (env : Environment) : Oblivious (resumeThread budget id thread t env) := by
  refine .get_bind fun w older => ?_
  have hinStep : InStep (Paired older) (resume id budget) (resume id budget) := inStep_resume budget
  have hresume := hinStep _ _ (paired older w env { t with state := .ready })
  revert hresume
  rcases (resume id budget).run.run ⟨w, env, { t with state := .ready }⟩ with ⟨answer, m⟩
  rcases (resume id budget).run.run ⟨w.withOlder older, env, { t with state := .ready }⟩ with
    ⟨answer', m'⟩
  rintro ⟨rfl, @⟨w₁, _, env₁, t₁, _, rfl, rfl⟩⟩
  rcases answer with (error | cause) | (_ | state)
  · exact .bind (.set rfl) fun _ => .pure _
  · exact .bind (.set rfl) fun _ => .throw _
  · exact .bind (.set rfl) fun _ => .pure _
  · exact .bind (.set rfl) fun _ => .pure _

lemma oblivious_runForAnswer (budget : Nat) (function : String) (t : Thread)
    (env : Environment) : Oblivious (runForAnswer budget id function t env) := by
  refine .get_bind fun w older => ?_
  have hinStep : InStep (Paired older) (resume id budget) (resume id budget) := inStep_resume budget
  have hresume := hinStep _ _ (paired older w env t)
  revert hresume
  rcases (resume id budget).run.run ⟨w, env, t⟩ with ⟨answer, m⟩
  rcases (resume id budget).run.run ⟨w.withOlder older, env, t⟩ with ⟨answer', m'⟩
  rintro ⟨rfl, @⟨w₁, _, env₁, t₁, _, rfl, rfl⟩⟩
  rcases answer with (error | cause) | (_ | state)
  · exact .bind (.set rfl) fun _ => .pure _
  · exact .bind (.set rfl) fun _ => .throw _
  · exact .bind (.set rfl) fun _ => .pure _
  · exact .bind (.set rfl) fun _ => .pure _

lemma oblivious_visitThread (budget : Nat) (env : Environment) (thread : ThreadId) :
    Oblivious (visitThread budget id env thread) := by
  rw [visitThread]
  split
  · exact .pure _
  · refine .get_bind fun w older => ?_
    have hreadiness (p : Script.Program) (state : Script.ThreadState) :
        (w.withOlder older).readiness id p state = w.readiness id p state := by
      cases state <;> rfl
    rw [hreadiness]
    split
    · exact .pure _
    · exact .bind (Oblivious.modify (fun _ _ => rfl) older) fun _ => .pure _
    · exact oblivious_resumeThread _ _ _ _ older
    · exact .bind (Oblivious.modify (fun _ _ => rfl) older) fun _ =>
        oblivious_resumeThread _ _ _ _ older

lemma oblivious_runUnitScripts (budget : Nat) : Oblivious (runUnitScripts budget id) := by
  refine .get_bind fun w older => .bind (Oblivious.require (w.unit id) older) fun u => ?_
  split
  · exact .pure _
  · exact .bind (Oblivious.modify (fun _ _ => rfl) older) fun _ =>
      .bind (Oblivious.foldlM (oblivious_visitThread budget) _ older) fun env =>
      Oblivious.modify (fun _ _ => rfl) older

lemma oblivious_runQuery (budget : Nat) (function : String) (params : List Int32) :
    Oblivious (runQuery budget id function params) := by
  refine .get_bind fun w older => .bind (Oblivious.require (w.unit id) older) fun u => ?_
  split
  · exact .pure _
  · refine .bind (Oblivious.modify (fun _ _ => rfl) older) fun _ => ?_
    -- whatever the answer is, the script state that comes with it is put back
    have attach : ∀ (answer : Option (List Int32)) (env : Environment), Oblivious
        (do modify (·.attachEnvironment id env); return answer : Action (Option (List Int32))) :=
      fun answer env => (Oblivious.modify fun _ _ => rfl).bind fun _ => .pure _
    split
    · exact .bind (.throw _) fun p => attach p.1 p.2 older
    · exact .bind (.pure _) fun p => attach p.1 p.2 older
    · exact .bind (.pure _) fun p => attach p.1 p.2 older
    · split
      · exact .bind (.pure _) fun p => attach p.1 p.2 older
      · exact .bind (oblivious_runForAnswer _ _ _ _ older) fun p => attach p.1 p.2 older

/-! ### Ticks -/

lemma sweepUnit_withOlder (w : World) (older : List Event) (id : UnitId) :
    (w.withOlder older).sweepUnit id = (w.sweepUnit id).withOlder older := by
  have hremove : (w.withOlder older).removeUnit id = (w.removeUnit id).withOlder older := by
    rw [removeUnit, removeUnit]
    have hexists : (w.withOlder older).unitExists id = w.unitExists id := rfl
    rw [hexists]
    split <;> rfl
  rw [sweepUnit, hremove]
  exact Behind.tell (.removed id) rfl

lemma sweep_withOlder (w : World) (older : List Event) :
    (w.withOlder older).sweep = w.sweep.withOlder older := by
  have hdead : (w.withOlder older).deadUnits = w.deadUnits := rfl
  rw [sweep, sweep, hdead]
  clear hdead
  generalize w.deadUnits = dead
  induction dead generalizing w with
  | nil => rfl
  | cons id dead ih => rw [List.foldl_cons, List.foldl_cons, sweepUnit_withOlder, ih]

theorem oblivious_tick (budget : Nat) : Oblivious (tick budget) := by
  refine (Oblivious.modify fun _ _ => rfl).bind fun _ => ?_
  refine .get_bind fun w older => .bind ?_ fun _ => ?_
  · exact Oblivious.forM (fun id => (oblivious_runUnitScripts budget).orElse fun _ =>
      Oblivious.modify fun _ _ => rfl) older
  · exact Oblivious.modify (fun w _ => sweep_withOlder w.stepPieces.stepProjectiles _) older

end Lockstep.World
