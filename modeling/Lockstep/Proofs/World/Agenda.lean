import Lockstep.Proofs.World.Isolation
import Lockstep.Proofs.World.Run
/-!
# The clock, the queue for paths and the projectiles

Ticks, requests for paths and serves are the only operations that write the clock or the queue of
units that wait for a path, and only ticks and those operations that put a projectile in flight
write the projectiles.  Whatever else is asked of the world, scripts included, leaves all of this as
it is (`sameFlights_after`, `sameAgenda_after`).
-/

namespace Lockstep.World

/-- Two worlds at the same time, in which the same units wait for a path in the same order. -/
structure SameAgenda (w w' : World) : Prop where
  time : w'.time = w.time
  pathRequests : w'.pathRequests = w.pathRequests

/-- Two such worlds with the same projectiles in flight. -/
structure SameFlights (w w' : World) : Prop where
  time : w'.time = w.time
  pathRequests : w'.pathRequests = w.pathRequests
  projectiles : w'.projectiles = w.projectiles
  nextProjectile : w'.nextProjectile = w.nextProjectile

instance : IsPreorder World SameAgenda where
  refl _ := ⟨rfl, rfl⟩
  trans _ _ _ h h' := ⟨h'.time.trans h.time, h'.pathRequests.trans h.pathRequests⟩

instance : IsPreorder World SameFlights where
  refl _ := ⟨rfl, rfl, rfl, rfl⟩
  trans _ _ _ h h' :=
    ⟨h'.time.trans h.time, h'.pathRequests.trans h.pathRequests,
      h'.projectiles.trans h.projectiles, h'.nextProjectile.trans h.nextProjectile⟩

variable {w w' : World} {o : Operation} {id : UnitId}

lemma SameFlights.agenda (h : SameFlights w w') : SameAgenda w w' := ⟨h.time, h.pathRequests⟩

lemma Isolated.sameFlights (h : Isolated id w w') : SameFlights w w' :=
  ⟨h.time, h.pathRequests, h.projectiles, h.nextProjectile⟩

/-! ### Single units -/

lemma sameFlights_updateUnit (f : UnitState → UnitState) :
    Respects SameFlights (updateUnit id f) :=
  Respects.get.bind fun _ => (Action.respects_require _).bind fun _ =>
    .modify fun _ => ⟨rfl, rfl, rfl, rfl⟩

lemma sameFlights_updatePiece (name : String) (f : Piece → Except Overflow Piece) :
    Respects SameFlights (updatePiece id name f) :=
  respects_updatePiece (fun _ _ _ => ⟨rfl, rfl, rfl, rfl⟩) name

lemma sameFlights_setActivation (value : Bool) : Respects SameFlights (setActivation id value) :=
  (sameFlights_updateUnit _).bind fun _ => .modify fun _ => ⟨rfl, rfl, rfl, rfl⟩

lemma sameFlights_setBuggerOff (value : Bool) : Respects SameFlights (setBuggerOff id value) := by
  rw [setBuggerOff]
  split
  · exact isolated_emitBuggerOff.mono fun _ _ h => h.sameFlights
  · exact .pure _

/-! ### Players and projectiles -/

lemma sameFlights_updatePlayer (player : PlayerId) (f : Player → Player) :
    Respects SameFlights (updatePlayer player f) :=
  Respects.get.bind fun _ => (Action.respects_require _).bind fun _ =>
    .modify fun _ => ⟨rfl, rfl, rfl, rfl⟩

lemma sameFlights_reportActual (apparentEnergy : Energy) (apparentMetal : Metal)
    (actualEnergy : Energy) (actualMetal : Metal) :
    Respects SameFlights (reportActual id apparentEnergy apparentMetal actualEnergy actualMetal) :=
  Respects.get.bind fun _ => (Action.respects_require _).bind fun _ =>
    (Action.respects_require _).bind fun _ =>
    Respects.bind (.modify fun _ => ⟨rfl, rfl, rfl, rfl⟩) fun _ =>
    Respects.bind (.modify fun _ => ⟨rfl, rfl, rfl, rfl⟩) fun _ => .pure _

lemma sameFlights_createProjectile (owner : PlayerId) (weaponName : String)
    (position direction : Vector3) (distance : Scalar) :
    Respects SameFlights (createProjectile owner weaponName position direction distance) :=
  respects_createProjectile fun _ _ => ⟨rfl, rfl, rfl, rfl⟩

lemma sameAgenda_insertProjectile (p : Projectile) : Respects SameAgenda (insertProjectile p) :=
  respects_insertProjectile fun _ => ⟨rfl, rfl⟩

lemma sameAgenda_fire (owner : PlayerId) (weaponName : String) (position direction : Vector3)
    (distance : Scalar) :
    Respects SameAgenda (fire owner weaponName position direction distance) :=
  respects_fire (fun _ _ => ⟨rfl, rfl⟩) fun _ _ => ⟨rfl, rfl⟩

/-! ### The map -/

lemma sameFlights_addFeature (t : FeatureType) (f : Feature) :
    Respects SameFlights (addFeature t f) :=
  respects_addFeature (fun _ _ _ _ _ => ⟨rfl, rfl, rfl, rfl⟩) t f

lemma sameFlights_tryAddUnit (u : UnitState) : Respects SameFlights (tryAddUnit u) := by
  intro w
  show SameFlights w ((tryAddUnit u).on w).2
  rcases tryAddUnit_cases u w with ⟨answer, hon, -⟩ | ⟨t, r, next, g, w', hon, hw', -⟩
  · rw [hon]
    exact refl_of SameFlights w
  · rw [hon, hw']
    exact ⟨rfl, rfl, rfl, rfl⟩

lemma sameFlights_tryMoveUnit (position : Vector3) :
    Respects SameFlights (tryMoveUnit id position) :=
  respects_tryMoveUnit fun _ _ => ⟨rfl, rfl, rfl, rfl⟩

/-! ### Scripts -/

lemma scriptLaw_sameFlights (id : UnitId) : ScriptLaw id SameFlights :=
  (scriptLaw_isolated id).mono fun _ _ h => h.sameFlights

lemma sameFlights_startScript (function : String) (params : List Int32) :
    Respects SameFlights (startScript id function params) :=
  respects_startScript (fun _ _ => ⟨rfl, rfl, rfl, rfl⟩) fun _ _ _ => ⟨rfl, rfl, rfl, rfl⟩

lemma sameFlights_trySpawnUnit (typeName : String) (owner : PlayerId) (position : Vector3)
    (rotation : Option Angle) :
    Respects SameFlights (trySpawnUnit typeName owner position rotation) := by
  refine Respects.get.bind fun w => (Action.respects_require _).bind fun u =>
    (Action.respects_require _).bind fun t => (sameFlights_tryAddUnit _).bind fun answer => ?_
  cases answer with
  | none => exact .pure _
  | some id =>
    exact (sameFlights_startScript _ _).bind fun _ =>
      Respects.bind (.modify fun _ => ⟨rfl, rfl, rfl, rfl⟩) fun _ => .pure _

lemma sameFlights_runQuery (budget : Nat) (function : String) (params : List Int32) :
    Respects SameFlights (runQuery budget id function params) :=
  (isolated_runQuery budget id function params).mono fun _ _ h => h.sameFlights

lemma sameFlights_runUnitScripts (budget : Nat) :
    Respects SameFlights (runUnitScripts budget id) :=
  (isolated_runUnitScripts budget id).mono fun _ _ h => h.sameFlights

lemma sameFlights_runScriptsNoting (budget : Nat) (id : UnitId) :
    Respects SameFlights (runScriptsNoting budget id) :=
  Action.respects_orElse (sameFlights_runUnitScripts budget) fun _ =>
    .modify fun _ => ⟨rfl, rfl, rfl, rfl⟩

lemma sameAgenda_runScriptsNoting (budget : Nat) (id : UnitId) :
    Respects SameAgenda (runScriptsNoting budget id) :=
  (sameFlights_runScriptsNoting budget id).mono fun _ _ h => h.agenda

/-! ### The operations -/

namespace Operation

/-- Whether the clock or the queue for paths is written. -/
def WritesAgenda : Operation → Prop
  | requestPath _ | popPathRequest | tick _ => True
  | _ => False

/-- Whether a projectile is put in flight. -/
def Launches : Operation → Prop
  | insertProjectile _ | fire .. => True
  | _ => False

end Operation

theorem sameFlights_after (ho : ¬o.WritesAgenda) (hlaunch : ¬o.Launches) (w : World) :
    SameFlights w (o.after w) := by
  cases o with
  | requestPath | popPathRequest | tick => exact absurd trivial ho
  | insertProjectile | fire => exact absurd trivial hlaunch
  | addPlayer | takeEvents | takeNotices => exact ⟨rfl, rfl, rfl, rfl⟩
  | changePlayer id f => exact sameFlights_updatePlayer id f w
  | addFeature t f => exact Action.respects_discard (sameFlights_addFeature t f) w
  | addUnit typeName owner position rotation =>
    have hperform : Respects SameFlights
        (Operation.addUnit typeName owner position rotation).perform :=
      Respects.get.bind fun _ => (Action.respects_require _).bind fun _ =>
        (sameFlights_tryAddUnit _).bind fun _ => .pure _
    exact hperform w
  | spawnUnit => exact Action.respects_discard (sameFlights_trySpawnUnit _ _ _ _) w
  | moveUnit => exact Action.respects_discard (sameFlights_tryMoveUnit _) w
  | setYardOpen id isOpen =>
    have hyard : Respects SameFlights (setYardOpen id isOpen) :=
      ((scriptLaw_sameFlights id).yard isOpen).bind fun _ => .pure _
    exact hyard w
  | emitBuggerOff id => exact (scriptLaw_sameFlights id).leave w
  | setBuggerOff id value => exact sameFlights_setBuggerOff value w
  | report => exact Action.respects_discard (sameFlights_reportActual _ _ _ _) w
  | createProjectile => exact Action.respects_discard (sameFlights_createProjectile _ _ _ _ _) w
  | setPieceVisible | setPieceShaded | movePiece | movePieceNow | turnPiece | turnPieceNow
  | spinPiece | stopSpinPiece => exact sameFlights_updatePiece _ _ w
  | tellToBuggerOff | setBuildStance | quietlyKill => exact sameFlights_updateUnit _ w
  | setActivation id value => exact sameFlights_setActivation value w
  | startScript => exact Action.respects_discard (sameFlights_startScript _ _) w
  | runQuery => exact Action.respects_discard (sameFlights_runQuery _ _ _) w
  | runUnitScripts budget id => exact sameFlights_runUnitScripts budget w

theorem sameAgenda_after (ho : ¬o.WritesAgenda) (w : World) : SameAgenda w (o.after w) := by
  by_cases hlaunch : o.Launches
  · cases o with
    | insertProjectile p => exact Action.respects_discard (sameAgenda_insertProjectile p) w
    | fire => exact Action.respects_discard (sameAgenda_fire _ _ _ _ _) w
    | _ => exact absurd hlaunch id
  · exact (sameFlights_after ho hlaunch w).agenda

end Lockstep.World
