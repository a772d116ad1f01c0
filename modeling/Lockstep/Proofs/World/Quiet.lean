import Lockstep.Proofs.World.Firing
import Lockstep.Proofs.World.Pieces
import Lockstep.World.Tick
/-!
# Operations that leave the plan and the scripts alone

Most of what happens to a world concerns neither its clock and its plan nor the script states and
the owners of its units, and makes no speeds that are not words.  Such operations are quiet, whether
they answer, refuse or stop.
-/

namespace Lockstep.World

/-- Two worlds with the same script states. -/
structure SameScripts (w w' : World) : Prop where
  nextUnit : w'.nextUnit = w.nextUnit
  environments : ∀ id,
    (w'.units.get? id).map UnitState.environment = (w.units.get? id).map UnitState.environment

/-- All players stay, and all units keep their owners. -/
structure SameOwners (w w' : World) : Prop where
  players : w.players.size ≤ w'.players.size
  owners : ∀ id, (w'.units.get? id).map UnitState.owner = (w.units.get? id).map UnitState.owner

/-- Two worlds with the same time, the same plan, the same script states and the same owners.  Units
that are bounded stay so. -/
structure Quiet (w w' : World) : Prop where
  time : w'.time = w.time
  plan : SamePlan w w'
  scripts : SameScripts w w'
  owners : SameOwners w w'
  bounded : w.Bounded → w'.Bounded

instance : IsPreorder World SameScripts where
  refl _ := ⟨rfl, fun _ => rfl⟩
  trans _ _ _ h h' :=
    ⟨h'.nextUnit.trans h.nextUnit, fun id => (h'.environments id).trans (h.environments id)⟩

instance : IsPreorder World SameOwners where
  refl _ := ⟨Nat.le_refl _, fun _ => rfl⟩
  trans _ _ _ h h' :=
    ⟨Nat.le_trans h.players h'.players, fun id => (h'.owners id).trans (h.owners id)⟩

instance : IsPreorder World Quiet where
  refl w := ⟨rfl, refl_of SamePlan w, refl_of SameScripts w, refl_of SameOwners w, fun h => h⟩
  trans _ _ _ h h' :=
    ⟨h'.time.trans h.time, trans_of SamePlan h.plan h'.plan,
      trans_of SameScripts h.scripts h'.scripts, trans_of SameOwners h.owners h'.owners,
      fun hw => h'.bounded (h.bounded hw)⟩

/-- A change of a unit that keeps its type, its place, its yard, its script state and its owner. -/
def Steady (f : UnitState → UnitState) : Prop :=
  ∀ u, (f u).body = u.body ∧ (f u).environment = u.environment ∧ (f u).owner = u.owner

variable {id : UnitId}

/-- What a sweep does is made of what is done to the dead units one after the other. -/
lemma rel_sweep {R : World → World → Prop} [IsPreorder World R]
    (h : ∀ (w : World) (id : UnitId), R w (w.sweepUnit id)) (w : World) : R w w.sweep := by
  rw [sweep]
  generalize w.deadUnits = dead
  induction dead generalizing w with
  | nil => exact refl_of R w
  | cons id dead ih => exact trans_of R (h w id) (ih (w.sweepUnit id))

/-! ### Writes -/

/-- What is not a unit can be written without further ado. -/
lemma Quiet.of_units {w w' : World} (htime : w'.time = w.time) (hterrain : w'.terrain = w.terrain)
    (hdefinitions : w'.definitions = w.definitions) (hoccupancy : w'.occupancy = w.occupancy)
    (hunits : w'.units = w.units) (hunit : w'.nextUnit = w.nextUnit)
    (hfeature : w'.nextFeature = w.nextFeature) (hplayers : w.players.size ≤ w'.players.size) :
    Quiet w w' :=
  ⟨htime,
    ⟨hterrain, hdefinitions, hoccupancy, fun id => by rw [body?, hunits, body?], hunit, hfeature⟩,
    ⟨hunit, fun id => by rw [hunits]⟩, ⟨hplayers, fun id => by rw [hunits]⟩,
    fun h => h.of_units hunits⟩

lemma quiet_tell (e : Event) (w : World) : Quiet w (w.tell e) :=
  .of_units rfl rfl rfl rfl rfl rfl rfl (Nat.le_refl _)

lemma quiet_note (n : Notice) (w : World) : Quiet w (w.note n) :=
  .of_units rfl rfl rfl rfl rfl rfl rfl (Nat.le_refl _)

lemma quiet_modifyPlayer (player : PlayerId) (f : Player → Player) (w : World) :
    Quiet w (w.modifyPlayer player f) :=
  .of_units rfl rfl rfl rfl rfl rfl rfl (Nat.le_of_eq Array.size_modify.symm)

/-- Steady changes of single units, whatever they are for, are quiet, if they make no speeds that
are not words. -/
lemma quiet_mapUnits {f : UnitId → UnitState → UnitState} (hf : ∀ id, Steady (f id)) (w : World)
    (hbounded : w.Bounded → ∀ id u, u.Bounded → (f id u).Bounded) :
    Quiet w { w with units := w.units.mapWithKey f } := by
  refine ⟨rfl, ⟨rfl, rfl, rfl, fun id => ?_, rfl, rfl⟩, ⟨rfl, fun id => ?_⟩,
    ⟨Nat.le_refl _, fun id => ?_⟩, fun hw => hw.mapUnits (hbounded hw)⟩
  all_goals
    simp only [body?, SortedTable.get?_mapWithKey, Option.map_map]
    congr 1
    funext u
  · exact (hf id u).1
  · exact (hf id u).2.1
  · exact (hf id u).2.2

lemma quiet_modifyUnit {f : UnitState → UnitState} (hf : Steady f) (w : World)
    (hbounded : w.Bounded → ∀ u, u.Bounded → (f u).Bounded) : Quiet w (w.modifyUnit id f) :=
  quiet_mapUnits (fun k u => by split <;> simp [hf u]) w fun hw k u hu => by
    split
    · exact hbounded hw u hu
    · exact hu

/-! ### Single units -/

lemma quiet_updateUnit {f : UnitState → UnitState} (hf : Steady f)
    (hpieces : ∀ u, (f u).pieces = u.pieces) : Respects Quiet (updateUnit id f) :=
  Respects.get.bind fun _ => (Action.respects_require _).bind fun _ =>
    .modify fun w => quiet_modifyUnit hf w fun _ u hu => hu.of_pieces (hpieces u)

lemma quiet_updatePlayer (player : PlayerId) (f : Player → Player) :
    Respects Quiet (updatePlayer player f) :=
  Respects.get.bind fun _ => (Action.respects_require _).bind fun _ =>
    .modify (quiet_modifyPlayer player f)

lemma quiet_updatePiece (name : String) {f : Piece → Except Overflow Piece}
    (hf : ∀ {p q : Piece}, p.Bounded → f p = .ok q → q.Bounded) :
    Respects Quiet (updatePiece id name f) := by
  refine respects_updatePiece (fun {w u i p q} hu hp hq => ?_) name
  have hsteady : Steady fun v => v.setPiece i q := fun _ => ⟨rfl, rfl, rfl⟩
  refine quiet_modifyUnit hsteady w fun hw v hv => ?_
  exact hv.setPiece i (hf (hw id u hu p (List.mem_of_getElem? hp)) hq)

lemma quiet_setPieceVisible (name : String) (value : Bool) :
    Respects Quiet (setPieceVisible id name value) :=
  quiet_updatePiece name fun h => .of_ok (h.of_turns rfl)

lemma quiet_setPieceShaded (name : String) (value : Bool) :
    Respects Quiet (setPieceShaded id name value) :=
  quiet_updatePiece name fun h => .of_ok (h.of_turns rfl)

lemma quiet_setActivation (value : Bool) : Respects Quiet (setActivation id value) := by
  rw [setActivation]
  exact Respects.bind (quiet_updateUnit (fun _ => ⟨rfl, rfl, rfl⟩) fun _ => rfl) fun _ =>
    .modify (quiet_tell _)

lemma quiet_setBuildStance (value : Bool) : Respects Quiet (setBuildStance id value) := by
  rw [setBuildStance]
  exact quiet_updateUnit (fun _ => ⟨rfl, rfl, rfl⟩) fun _ => rfl

lemma quiet_quietlyKill : Respects Quiet (quietlyKill id) := by
  rw [quietlyKill]
  exact quiet_updateUnit (fun _ => ⟨rfl, rfl, rfl⟩) fun _ => rfl

/-! ### Orders, reports and projectiles -/

lemma quiet_tellToBuggerOff (rect : Rect) : Respects Quiet (tellToBuggerOff id rect) := by
  rw [tellToBuggerOff]
  refine quiet_updateUnit (fun u => ?_) fun u => ?_
  · split <;> exact ⟨rfl, rfl, rfl⟩
  · split <;> rfl

lemma quiet_emitBuggerOff : Respects Quiet (emitBuggerOff id) :=
  Respects.get.bind fun _ => (Action.respects_ofExcept _).bind fun _ =>
    (Action.respects_require _).bind fun _ => .forM fun _ _ => quiet_tellToBuggerOff _

lemma quiet_setBuggerOff (value : Bool) : Respects Quiet (setBuggerOff id value) := by
  rw [setBuggerOff]
  split
  · exact quiet_emitBuggerOff
  · exact .pure _

lemma quiet_requestPath (w : World) : Quiet w (w.requestPath id) :=
  .of_units rfl rfl rfl rfl rfl rfl rfl (Nat.le_refl _)

lemma quiet_popPathRequest (w : World) : Quiet w w.popPathRequest.2 := by
  rw [popPathRequest]
  split <;> exact .of_units rfl rfl rfl rfl rfl rfl rfl (Nat.le_refl _)

lemma quiet_reportActual (apparentEnergy : Energy) (apparentMetal : Metal)
    (actualEnergy : Energy) (actualMetal : Metal) :
    Respects Quiet (reportActual id apparentEnergy apparentMetal actualEnergy actualMetal) := by
  refine Respects.get.bind fun _ => (Action.respects_require _).bind fun _ =>
    (Action.respects_require _).bind fun _ => ?_
  have hsteady : Steady fun u => { u with
      energy := u.energy.book apparentEnergy, metal := u.metal.book apparentMetal } :=
    fun _ => ⟨rfl, rfl, rfl⟩
  have hunit : Respects Quiet (modify (·.modifyUnit id fun u => { u with
      energy := u.energy.book apparentEnergy, metal := u.metal.book apparentMetal }) :
      Action Unit) :=
    .modify fun w => quiet_modifyUnit hsteady w fun _ _ h => h.of_pieces rfl
  exact hunit.bind fun _ => Respects.bind (.modify (quiet_modifyPlayer _ _)) fun _ => .pure _

lemma quiet_createProjectile (owner : PlayerId) (weaponName : String)
    (position direction : Vector3) (distance : Scalar) :
    Respects Quiet (createProjectile owner weaponName position direction distance) :=
  respects_createProjectile fun _ _ => .of_units rfl rfl rfl rfl rfl rfl rfl (Nat.le_refl _)

lemma quiet_insertProjectile (p : Projectile) : Respects Quiet (insertProjectile p) :=
  respects_insertProjectile fun _ => .of_units rfl rfl rfl rfl rfl rfl rfl (Nat.le_refl _)

lemma quiet_fire (owner : PlayerId) (weaponName : String) (position direction : Vector3)
    (distance : Scalar) : Respects Quiet (fire owner weaponName position direction distance) :=
  Respects.bind (quiet_createProjectile _ _ _ _ _) fun _ => quiet_insertProjectile _

/-! ### The clock and the pieces -/

lemma quiet_rememberPlaces (w : World) :
    Quiet w { w with units := w.units.map UnitState.rememberPlace } :=
  quiet_mapUnits (f := fun _ => UnitState.rememberPlace) (fun _ _ => ⟨rfl, rfl, rfl⟩) w
    fun _ _ _ h => h

/-- At the beginning of a tick only the clock goes on. -/
lemma samePlan_beginTick (w : World) : SamePlan w w.beginTick :=
  { (quiet_rememberPlaces w).plan with }

lemma sameScripts_beginTick (w : World) : SameScripts w w.beginTick :=
  { (quiet_rememberPlaces w).scripts with }

lemma sameOwners_beginTick (w : World) : SameOwners w w.beginTick :=
  { (quiet_rememberPlaces w).owners with }

lemma quiet_stepPieces (w : World) : Quiet w w.stepPieces :=
  quiet_mapUnits (f := fun _ => UnitState.stepPieces) (fun _ _ => ⟨rfl, rfl, rfl⟩) w
    fun _ _ _ h => h.stepPieces

lemma quiet_stepProjectiles (w : World) : Quiet w w.stepProjectiles :=
  .of_units rfl rfl rfl rfl rfl rfl rfl (Nat.le_refl _)

end Lockstep.World
