import Lockstep.Proofs.World.Lineage
/-!
# What operations tell

Apart from units that come onto the map or are taken off it, an operation leaves the same units in
the world and at most adds events to the queue.  `Tells` says so, with a condition on the events
that are added; for most operations there are none at all, and what scripts tell is about their own
unit.
-/

namespace Lockstep

namespace Event

/-- The unit that an event is about. -/
def unit : Event → UnitId
  | spawned unit | activated unit | deactivated unit | effect unit _ _ | removed unit => unit

/-- Something that happens to a unit while it is on the map. -/
def IsMidway : Event → Prop
  | spawned _ | removed _ => False
  | activated _ | deactivated _ | effect _ _ _ => True

end Event

namespace World

open Script (Environment)

variable {P : Event → Prop} {w w' : World} {id : UnitId}

/-- The same units and the same next number; further events with a property are queued. -/
structure Tells (P : Event → Prop) (w w' : World) : Prop where
  nextUnit : w'.nextUnit = w.nextUnit
  units : ∀ id, w'.unitExists id = w.unitExists id
  events : ∃ news, (∀ e ∈ news, P e) ∧ w'.events.toList = w.events.toList ++ news

instance : IsPreorder World (Tells P) where
  refl w := ⟨rfl, fun _ => rfl, [], nofun, by simp⟩
  trans w₁ w₂ w₃ h h' := by
    obtain ⟨news, hnews, heq⟩ := h.events
    obtain ⟨more, hmore, heq'⟩ := h'.events
    refine ⟨h'.nextUnit.trans h.nextUnit, fun id => (h'.units id).trans (h.units id), news ++ more,
      fun e he => ?_, ?_⟩
    · exact (List.mem_append.1 he).elim (hnews e) (hmore e)
    · rw [heq', heq, List.append_assoc]

lemma Tells.mono {Q : Event → Prop} (h : Tells P w w') (hPQ : ∀ e, P e → Q e) : Tells Q w w' := by
  obtain ⟨news, hnews, heq⟩ := h.events
  exact ⟨h.nextUnit, h.units, news, fun e he => hPQ e (hnews e he), heq⟩

/-- What touches neither the units nor the queue tells nothing. -/
lemma Tells.of_same (hnext : w'.nextUnit = w.nextUnit)
    (hunits : ∀ id, w'.unitExists id = w.unitExists id) (hevents : w'.events = w.events) :
    Tells P w w' :=
  ⟨hnext, hunits, [], nofun, by rw [hevents, List.append_nil]⟩

lemma tells_tell {e : Event} (he : P e) (w : World) : Tells P w (w.tell e) :=
  ⟨rfl, fun _ => rfl, [e], by simpa using he, by simp [tell]⟩

/-! ### Units and players -/

lemma tells_modifyUnit (f : UnitState → UnitState) (w : World) : Tells P w (w.modifyUnit id f) :=
  .of_same rfl (unitExists_modifyUnit w f id) rfl

lemma tells_updateUnit (f : UnitState → UnitState) : Respects (Tells P) (updateUnit id f) :=
  Respects.get.bind fun _ => (Action.respects_require _).bind fun _ =>
    .modify (tells_modifyUnit f)

lemma tells_updatePlayer (id : PlayerId) (f : Player → Player) :
    Respects (Tells P) (updatePlayer id f) :=
  Respects.get.bind fun _ => (Action.respects_require _).bind fun _ =>
    .modify fun _ => .of_same rfl (fun _ => rfl) rfl

lemma tells_updatePiece (name : String) (f : Piece → Except Overflow Piece) :
    Respects (Tells P) (updatePiece id name f) :=
  respects_updatePiece (fun _ _ _ => tells_modifyUnit _ _) name

lemma tells_reportActual (apparentEnergy : Energy) (apparentMetal : Metal)
    (actualEnergy : Energy) (actualMetal : Metal) :
    Respects (Tells P) (reportActual id apparentEnergy apparentMetal actualEnergy actualMetal) :=
  Respects.get.bind fun _ => (Action.respects_require _).bind fun _ =>
    (Action.respects_require _).bind fun _ =>
    Respects.bind (.modify (tells_modifyUnit _)) fun _ =>
    Respects.bind (.modify fun _ => .of_same rfl (fun _ => rfl) rfl) fun _ => .pure _

/-! ### The map -/

lemma tells_addFeature (t : FeatureType) (f : Feature) : Respects (Tells P) (addFeature t f) :=
  respects_addFeature (fun _ _ _ _ _ => .of_same rfl (fun _ => rfl) rfl) t f

lemma tells_tryMoveUnit (position : Vector3) : Respects (Tells P) (tryMoveUnit id position) :=
  respects_tryMoveUnit fun w _ => .of_same rfl (unitExists_modifyUnit w _ id) rfl

lemma tells_trySetYardOpen (isOpen : Bool) : Respects (Tells P) (trySetYardOpen id isOpen) := by
  intro w
  show Tells P w ((trySetYardOpen id isOpen).on w).2
  rcases trySetYardOpen_cases id isOpen w with ⟨h, -⟩ | ⟨b, t, r, yard, g, -, h, -⟩
  · rw [h]
    exact refl_of (Tells P) w
  · rw [h]
    exact .of_same rfl (unitExists_modifyUnit w _ id) rfl

lemma tells_setYardOpen (isOpen : Bool) : Respects (Tells P) (setYardOpen id isOpen) :=
  (tells_trySetYardOpen isOpen).bind fun _ => .pure _

lemma tells_emitBuggerOff : Respects (Tells P) (emitBuggerOff id) :=
  Respects.get.bind fun _ => (Action.respects_ofExcept _).bind fun _ =>
    (Action.respects_require _).bind fun _ => .forM fun _ _ => tells_updateUnit _

lemma tells_setBuggerOff (value : Bool) : Respects (Tells P) (setBuggerOff id value) := by
  rw [setBuggerOff]
  split
  · exact tells_emitBuggerOff
  · exact .pure _

lemma tells_popPathRequest (w : World) : Tells P w w.popPathRequest.2 := by
  rw [popPathRequest]
  split <;> exact .of_same rfl (fun _ => rfl) rfl

/-! ### Projectiles -/

lemma tells_createProjectile (owner : PlayerId) (weaponName : String)
    (position direction : Vector3) (distance : Scalar) :
    Respects (Tells P) (createProjectile owner weaponName position direction distance) :=
  respects_createProjectile fun _ _ => .of_same rfl (fun _ => rfl) rfl

lemma tells_insertProjectile (p : Projectile) : Respects (Tells P) (insertProjectile p) :=
  respects_insertProjectile fun _ => .of_same rfl (fun _ => rfl) rfl

/-! ### Scripts -/

lemma tells_startScript (function : String) (params : List Int32) :
    Respects (Tells P) (startScript id function params) :=
  respects_startScript (fun _ _ => .of_same rfl (fun _ => rfl) rfl) fun _ _ _ =>
    tells_modifyUnit _ _

/-- What scripts tell is about their own unit. -/
lemma scriptLaw_tells (id : UnitId) : ScriptLaw id (Tells (OfScript id)) where
  draw _ _ := .of_same rfl (fun _ => rfl) rfl
  tell he w := tells_tell he w
  note _ _ := .of_same rfl (fun _ => rfl) rfl
  own _ w _ := tells_modifyUnit _ w
  yard := tells_trySetYardOpen
  leave := tells_emitBuggerOff

lemma tells_runUnitScripts (budget : Nat) :
    Respects (Tells (OfScript id)) (runUnitScripts budget id) :=
  (scriptLaw_tells id).respects_runUnitScripts (tells_modifyUnit _) (fun _ => tells_modifyUnit _)
    budget

lemma tells_runQuery (budget : Nat) (function : String) (params : List Int32) :
    Respects (Tells (OfScript id)) (runQuery budget id function params) :=
  (scriptLaw_tells id).respects_runQuery (tells_modifyUnit _) (fun _ => tells_modifyUnit _)
    budget function params

lemma tells_setActivation (value : Bool) :
    Respects (Tells (OfScript id)) (setActivation id value) :=
  (tells_updateUnit _).bind fun _ => .modify (tells_tell (by cases value <;> rfl))

/-! ### What is told between ticks -/

/-- Something that happens to a unit of the world while it is on the map. -/
def Midway (w : World) (e : Event) : Prop := e.IsMidway ∧ w.unitExists e.unit = true

/-- No unit comes or goes, and what is told is about units of the world. -/
def Narrates (w w' : World) : Prop := Tells (Midway w) w w'

instance : IsPreorder World Narrates where
  refl w := refl_of (Tells (Midway w)) w
  trans w _ _ h h' := trans_of (Tells (Midway w)) h
    (h'.mono fun e he => ⟨he.1, (h.units e.unit).symm.trans he.2⟩)

/-- A unit that is missing has nothing to tell. -/
lemma narrates_of_script {α : Type} {a : Action α} (ha : Respects (Tells (OfScript id)) a)
    (hmissing : ∀ w : World, w.units.get? id = none → (a.on w).2 = w) : Respects Narrates a := by
  intro w
  show Narrates w (a.on w).2
  cases hu : w.units.get? id with
  | none =>
    rw [hmissing w hu]
    exact refl_of Narrates w
  | some u =>
    -- whatever is told is about this very unit, which is in the world
    have hexists : w.unitExists id = true := unitExists_of_get? hu
    refine Tells.mono (ha w) fun e he => ?_
    cases e with
    | spawned | removed => cases he
    | activated | deactivated | effect =>
      cases he
      exact ⟨trivial, hexists⟩

lemma unit_of_get?_eq_none (h : w.units.get? id = none) :
    w.unit id = .error (.unknownUnit id) := by
  rw [World.unit, h]

lemma narrates_runUnitScripts (budget : Nat) : Respects Narrates (runUnitScripts budget id) :=
  narrates_of_script (tells_runUnitScripts budget) fun w h => by
    simp only [runUnitScripts, Action.on_get_bind, Action.on_require_bind,
      unit_of_get?_eq_none h]

lemma narrates_runQuery (budget : Nat) (function : String) (params : List Int32) :
    Respects Narrates (runQuery budget id function params) :=
  narrates_of_script (tells_runQuery budget function params) fun w h => by
    simp only [runQuery, Action.on_get_bind, Action.on_require_bind, unit_of_get?_eq_none h]

lemma narrates_setActivation (value : Bool) : Respects Narrates (setActivation id value) :=
  narrates_of_script (tells_setActivation value) fun w h => by
    have hupdate (f : UnitState → UnitState) :
        (updateUnit id f).on w = (.error (.refused (.unknownUnit id)), w) := by
      simp only [updateUnit, Action.on_get_bind, Action.on_require_bind, unit_of_get?_eq_none h]
    rw [setActivation, Action.on_bind, hupdate]

lemma narrates_runScriptsNoting (budget : Nat) :
    Respects Narrates (runScriptsNoting budget id) :=
  Action.respects_orElse (narrates_runUnitScripts budget) fun _ =>
    .modify fun _ => .of_same rfl (fun _ => rfl) rfl

/-- Whether units come or go, or the queue is drained. -/
def Operation.IsTurn : Operation → Prop
  | addUnit .. | spawnUnit .. | takeEvents | tick _ => True
  | _ => False

theorem narrates_after {o : Operation} (ho : ¬o.IsTurn) (w : World) : Narrates w (o.after w) := by
  cases o with
  | addUnit | spawnUnit | takeEvents | tick => exact absurd trivial ho
  | addPlayer | requestPath | takeNotices => exact .of_same rfl (fun _ => rfl) rfl
  | popPathRequest => exact tells_popPathRequest w
  | changePlayer id f => exact tells_updatePlayer id f w
  | addFeature t f => exact Action.respects_discard (tells_addFeature t f) w
  | moveUnit id position => exact Action.respects_discard (tells_tryMoveUnit position) w
  | setYardOpen id isOpen => exact tells_setYardOpen isOpen w
  | emitBuggerOff => exact tells_emitBuggerOff w
  | setBuggerOff id value => exact tells_setBuggerOff value w
  | report => exact Action.respects_discard (tells_reportActual _ _ _ _) w
  | createProjectile => exact Action.respects_discard (tells_createProjectile _ _ _ _ _) w
  | insertProjectile p => exact Action.respects_discard (tells_insertProjectile p) w
  | fire =>
    exact Action.respects_discard
      (Respects.bind (tells_createProjectile _ _ _ _ _) fun _ => tells_insertProjectile _) w
  | setPieceVisible | setPieceShaded | movePiece | movePieceNow | turnPiece | turnPieceNow
  | spinPiece | stopSpinPiece => exact tells_updatePiece _ _ w
  | tellToBuggerOff | setBuildStance | quietlyKill => exact tells_updateUnit _ w
  | setActivation id value => exact narrates_setActivation value w
  | startScript id function params =>
    exact Action.respects_discard (tells_startScript function params) w
  | runQuery budget id function params =>
    exact Action.respects_discard (narrates_runQuery budget function params) w
  | runUnitScripts budget id => exact narrates_runUnitScripts budget w

end World

end Lockstep
