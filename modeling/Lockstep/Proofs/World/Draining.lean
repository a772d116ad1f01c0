import Lockstep.Proofs.World.Oblivious
import Lockstep.Proofs.World.Run
/-!
# Draining the queue of events

Those who draw the world take its events away whenever it suits them.  This never has any influence
on the battle: if the same operations are carried out, once with the queue drained at arbitrary
moments and once without, every operation answers the same and leaves the same world behind but for
the queue, and the same events are heard in the end.
-/

namespace Lockstep.World

namespace Operation

/-- What an operation answers. -/
def Answer : Operation → Type
  | addPlayer _ => PlayerId
  | addFeature .. => Option FeatureId
  | addUnit .. | spawnUnit .. | popPathRequest => Option UnitId
  | moveUnit .. | setYardOpen .. | report .. => Bool
  | createProjectile .. => Projectile
  | insertProjectile .. | fire .. => ProjectileId
  | startScript .. => Option ThreadId
  | runQuery .. => Option (List Int32)
  | takeEvents => List Event
  | takeNotices => List Notice
  | _ => Unit

/-- Carries an operation out for its answer. -/
def respond : (o : Operation) → Action o.Answer
  | addPlayer p => modifyGet fun w => w.addPlayer p
  | changePlayer id f => updatePlayer id f
  | addFeature t f => World.addFeature t f
  | addUnit typeName owner position rotation => do
    let u ← Action.require ((← get).createUnit typeName owner position rotation)
    tryAddUnit u
  | spawnUnit typeName owner position rotation => trySpawnUnit typeName owner position rotation
  | moveUnit id position => tryMoveUnit id position
  | setYardOpen id isOpen => trySetYardOpen id isOpen
  | requestPath id => modify fun w => w.requestPath id
  | popPathRequest => modifyGet World.popPathRequest
  | emitBuggerOff id => World.emitBuggerOff id
  | setBuggerOff id value => World.setBuggerOff id value
  | tellToBuggerOff id rect => World.tellToBuggerOff id rect
  | report id apparentEnergy apparentMetal actualEnergy actualMetal =>
    reportActual id apparentEnergy apparentMetal actualEnergy actualMetal
  | createProjectile owner weapon position direction distance =>
    World.createProjectile owner weapon position direction distance
  | insertProjectile p => World.insertProjectile p
  | fire owner weapon position direction distance =>
    World.fire owner weapon position direction distance
  | setPieceVisible id name value => World.setPieceVisible id name value
  | setPieceShaded id name value => World.setPieceShaded id name value
  | movePiece id name axis target speed => World.movePiece id name axis target speed
  | movePieceNow id name axis target => World.movePieceNow id name axis target
  | turnPiece id name axis target speed => World.turnPiece id name axis target speed.toInt
  | turnPieceNow id name axis target => World.turnPieceNow id name axis target
  | spinPiece id name axis targetSpeed acceleration =>
    World.spinPiece id name axis targetSpeed.toInt acceleration.toInt
  | stopSpinPiece id name axis deceleration =>
    World.stopSpinPiece id name axis deceleration.toInt
  | setActivation id value => World.setActivation id value
  | setBuildStance id value => World.setBuildStance id value
  | quietlyKill id => World.quietlyKill id
  | startScript id function params => World.startScript id function params
  | runQuery budget id function params => World.runQuery budget id function params
  | runUnitScripts budget id => World.runUnitScripts budget id
  | takeEvents => modifyGet World.takeEvents
  | takeNotices => modifyGet World.takeNotices
  | tick budget => World.tick budget

/-- An operation does the same, whether anybody listens to its answer or not. -/
lemma respond_on (o : Operation) (w : World) : (o.respond.on w).2 = o.after w := by
  cases o with
  | addUnit typeName owner position rotation =>
    show ((do
      let u ← Action.require ((← get).createUnit typeName owner position rotation)
      tryAddUnit u : Action (Option UnitId)).on w).2 = _
    simp only [after, perform, Action.on_get_bind, Action.on_require_bind]
    cases w.createUnit typeName owner position rotation with
    | error cause => rfl
    | ok u => exact (Action.on_discard _ w).symm
  | addFeature | spawnUnit | moveUnit | setYardOpen | report | createProjectile
  | insertProjectile | fire | startScript | runQuery => exact (Action.on_discard _ w).symm
  | _ => rfl

/-- Whether the queue of events is drained. -/
def isDrain : Operation → Bool
  | takeEvents => true
  | _ => false

lemma oblivious_respond {o : Operation} (ho : o.isDrain = false) : Oblivious o.respond := by
  cases o with
  | changePlayer id f => exact oblivious_updatePlayer id f
  | addFeature t f => exact oblivious_addFeature t f
  | addUnit typeName owner position rotation =>
    exact .get_bind fun w older =>
      .bind (Oblivious.require (w.createUnit typeName owner position rotation) older) fun u =>
        oblivious_tryAddUnit u older
  | spawnUnit => exact oblivious_trySpawnUnit _ _ _ _
  | moveUnit => exact oblivious_tryMoveUnit _
  | setYardOpen => exact oblivious_trySetYardOpen _
  | emitBuggerOff => exact oblivious_emitBuggerOff
  | setBuggerOff => exact oblivious_setBuggerOff _
  | report => exact oblivious_reportActual _ _ _ _
  | createProjectile => exact oblivious_createProjectile _ _ _ _ _
  | insertProjectile => exact oblivious_insertProjectile _
  | fire => exact oblivious_fire _ _ _ _ _
  | setPieceVisible | setPieceShaded | movePiece | movePieceNow | turnPiece | turnPieceNow
  | spinPiece | stopSpinPiece => exact oblivious_updatePiece _ _
  | setActivation => exact oblivious_setActivation _
  | tellToBuggerOff | setBuildStance | quietlyKill => exact oblivious_updateUnit _
  | startScript => exact oblivious_startScript _ _
  | runQuery => exact oblivious_runQuery _ _ _
  | runUnitScripts => exact oblivious_runUnitScripts _
  | tick => exact oblivious_tick _
  | addPlayer | requestPath | takeNotices =>
    rintro older w _ rfl
    exact ⟨rfl, rfl⟩
  | popPathRequest => exact oblivious_popPathRequest
  | takeEvents => cases ho

end Operation

/-! ### What is heard and seen of a battle -/

/-- The events that the answer to an operation hands out. -/
def Operation.handedOut : (o : Operation) → o.Answer → List Event
  | takeEvents, events => events
  | _, _ => []

/-- The events that a step hands out, as it answers them. -/
def Step.drained (s : Step) : List Event :=
  match (s.operation.respond.on s.before).1 with
  | .ok answer => s.operation.handedOut answer
  | .error _ => []

/-- All events of a battle so far, drained or queued, the oldest first. -/
def heard (past : List Step) (w : World) : List Event :=
  past.flatMap Step.drained ++ w.events.toList

/-- A world without its queue of events. -/
def silent (w : World) : World := { w with events := #[] }

/-- What is seen of an operation. -/
structure Report where
  /-- The operation. -/
  operation : Operation
  /-- What it answered, or how it failed. -/
  answer : Except Failure operation.Answer
  /-- The fingerprint of the world after it. -/
  print : Fingerprint
  /-- The world after it, but for the queue of events. -/
  world : World

/-- What is seen of a step. -/
def Step.report (s : Step) : Report where
  operation := s.operation
  answer := (s.operation.respond.on s.before).1
  print := fingerprint (s.operation.after s.before)
  world := (s.operation.after s.before).silent

/-- What is seen of the operations of a battle other than drains. -/
def reports (past : List Step) : List Report :=
  (past.filter fun s => !s.operation.isDrain).map Step.report

lemma Operation.after_withOlder {o : Operation} (ho : o.isDrain = false) (w : World)
    (older : List Event) : o.after (w.withOlder older) = (o.after w).withOlder older := by
  rw [← o.respond_on, ← o.respond_on]
  exact (o.oblivious_respond ho older w _ rfl).2

lemma Step.report_withOlder {o : Operation} (ho : o.isDrain = false) (w : World)
    (older : List Event) : Step.report ⟨w.withOlder older, o⟩ = Step.report ⟨w, o⟩ := by
  have hanswer : (o.respond.on (w.withOlder older)).1 = (o.respond.on w).1 :=
    (o.oblivious_respond ho older w _ rfl).1.symm
  simp only [Step.report, o.after_withOlder ho, hanswer]
  rfl

/-- A drain answers with all events in the queue, the oldest first; nothing else hands events out.
-/
lemma Step.drained_eq (s : Step) :
    s.drained = if s.operation.isDrain then s.before.events.toList else [] := by
  obtain ⟨w, o⟩ := s
  cases o with
  | takeEvents => rfl
  | _ =>
    rw [drained]
    split <;> rfl

/-- Draining moves events from the queue to those that were drained, and nothing else. -/
lemma Operation.after_drain {o : Operation} (ho : o.isDrain = true) (w : World)
    (older : List Event) :
    w.withOlder older = (o.after w).withOlder (older ++ w.events.toList) := by
  cases o with
  | takeEvents =>
    show _ = withOlder { w with events := #[] } _
    simp [withOlder]
  | _ => cases ho

/-- The battle without drains keeps up with the one with drains; its queue is longer by what was
drained.  The induction is on the operations, and each of them keeps the two worlds in step. -/
lemma replay_filter_isDrain (os : List Operation) (w : World) (older : List Event) :
    reports (replay (os.filter fun o => !o.isDrain) [] (w.withOlder older)).1 =
        reports (replay os [] w).1 ∧
      (replay (os.filter fun o => !o.isDrain) [] (w.withOlder older)).2 =
        (replay os [] w).2.withOlder (older ++ (replay os [] w).1.flatMap Step.drained) ∧
      (replay (os.filter fun o => !o.isDrain) [] (w.withOlder older)).1.flatMap Step.drained =
        [] := by
  induction os generalizing w older with
  | nil => simp [replay]
  | cons o os ih =>
    rw [replay_cons]
    cases ho : o.isDrain with
    | true =>
      -- the battle without drains does nothing, and its queue is ahead by one drain more
      rw [o.after_drain ho w older]
      obtain ⟨hreports, hworld, hdrained⟩ := ih (o.after w) (older ++ w.events.toList)
      rw [List.filter_cons_of_neg (by simp [ho])]
      refine ⟨?_, ?_, hdrained⟩
      · rw [hreports, reports, reports, List.filter_cons_of_neg (by simp [ho])]
      · rw [hworld, List.flatMap_cons, Step.drained_eq, if_pos ho, List.append_assoc]
    | false =>
      -- both battles carry the operation out, and neither notices the longer queue
      rw [List.filter_cons_of_pos (by simp [ho]), replay_cons, o.after_withOlder ho]
      obtain ⟨hreports, hworld, hdrained⟩ := ih (o.after w) older
      refine ⟨?_, ?_, ?_⟩
      · rw [reports, reports, List.filter_cons_of_pos (by simp [ho]),
          List.filter_cons_of_pos (by simp [ho]), List.map_cons, List.map_cons,
          Step.report_withOlder ho]
        exact congrArg _ hreports
      · rw [hworld, List.flatMap_cons, Step.drained_eq, if_neg (by simp [ho]), List.nil_append]
      · rw [List.flatMap_cons, Step.drained_eq, if_neg (by simp [ho]), List.nil_append, hdrained]

/-- Whenever the queue of events is drained, the other operations answer the same, after each of
them the world has the same fingerprint and is the same but for the queue, and so is the world in
the end; and the events that the drains answer with and those still queued are the same events in
the same order. -/
theorem drains_go_unnoticed (os : List Operation) (w : World) :
    reports (replay os [] w).1 = reports (replay (os.filter fun o => !o.isDrain) [] w).1 ∧
      (replay os [] w).2 = { (replay (os.filter fun o => !o.isDrain) [] w).2 with
        events := (replay os [] w).2.events } ∧
      heard (replay os [] w).1 (replay os [] w).2 =
        heard (replay (os.filter fun o => !o.isDrain) [] w).1
          (replay (os.filter fun o => !o.isDrain) [] w).2 := by
  have hw : w.withOlder [] = w := by simp [withOlder]
  have hinStep := replay_filter_isDrain os w []
  rw [hw] at hinStep
  obtain ⟨hreports, hworld, hdrained⟩ := hinStep
  refine ⟨hreports.symm, ?_, ?_⟩
  · rw [hworld]
    rfl
  · rw [heard, heard, hdrained, hworld]
    simp [withOlder]

end Lockstep.World
