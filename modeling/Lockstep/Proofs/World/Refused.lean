import Lockstep.Proofs.World.Walls
import Lockstep.Proofs.World.Lineage
/-!
# Operations that decline

An operation that does not do what it is asked for either answers so or is refused.  Most of them
look up, check and count before they write, in several steps, and an operation on the world keeps
what it had done before it failed.  None of those that put something on the map, move it, book an
amount, start a script or fire a weapon has done anything yet when it declines.
-/

namespace Lockstep.World

variable {α : Type} {no : α → Prop}

/-- What comes of an operation that declines: an answer that says no, or a refusal. -/
inductive Declined (no : α → Prop) : Except Failure α → Prop
  | answer {a : α} (h : no a) : Declined no (.ok a)
  | refused (cause : Refusal) : Declined no (.error (.refused cause))

/-- Whenever an operation declines, whatever the world is like, the world stays exactly as it
was. -/
def Inert (no : α → Prop) (a : Action α) : Prop :=
  ∀ w, Declined no (a.on w).1 → (a.on w).2 = w

lemma Declined.not_ok {a : α} (h : ¬no a) : ¬Declined no (.ok a) := by
  rintro ⟨hno⟩
  exact h hno

/-- It is enough to look at what changes the world. -/
lemma Inert.of_changes {a : Action α}
    (h : ∀ w, (a.on w).2 = w ∨ ¬Declined no (a.on w).1) : Inert no a :=
  fun w hw => (h w).resolve_right (not_not_intro hw)

/-- An operation that does not get as far as its next part does what its first part does, and the
next part does not decline. -/
lemma Inert.bind {β : Type} {a : Action β} {f : β → Action α} (ha : Inert (fun _ => False) a)
    (hf : ∀ x w, ¬Declined no ((f x).on w).1) : Inert no (a >>= f) := by
  intro w hw
  have hkept := ha w
  rw [Action.on_bind] at hw ⊢
  revert hw hkept
  rcases a.on w with ⟨failure | x, w'⟩ <;> intro hw hkept
  · obtain ⟨cause⟩ : ∃ cause, failure = .refused cause := by
      cases hw
      exact ⟨_, rfl⟩
    subst failure
    exact hkept (.refused cause)
  · exact absurd hw (hf x w')

/-! ### Units and features -/

lemma inert_tryAddUnit (u : UnitState) : Inert (· = none) (tryAddUnit u) := by
  refine .of_changes fun w => ?_
  rcases tryAddUnit_joins u w with ⟨answer, hon, -⟩ | ⟨w', hon, -⟩
  · rw [hon]
    exact .inl rfl
  · rw [hon]
    exact .inr (Declined.not_ok nofun)

/-- What could go wrong once the unit is on the map is whether its script begins, which it does. -/
lemma inert_trySpawnUnit (typeName : String) (owner : PlayerId) (position : Vector3)
    (rotation : Option Angle) :
    Inert (· = none) (trySpawnUnit typeName owner position rotation) := by
  refine .of_changes fun w => ?_
  rcases trySpawnUnit_cases typeName owner position rotation w with
    ⟨answer, hon, -⟩ | ⟨u, program, w₁, w', -, -, -, -, -, hon⟩
  · rw [hon]
    exact .inl rfl
  · rw [hon]
    exact .inr (Declined.not_ok nofun)

lemma inert_addFeature (t : FeatureType) (f : Feature) :
    Inert (· = none) (addFeature t f) := by
  refine .of_changes fun w => ?_
  rcases addFeature_cases t f w with ⟨answer, hon, -⟩ | ⟨r, -, hanswer, -, -⟩
  · rw [hon]
    exact .inl rfl
  · rw [hanswer]
    exact .inr (Declined.not_ok nofun)

lemma inert_moveOccupiedArea (old new : Rect) (id : UnitId) :
    Inert (fun _ => False) (moveOccupiedArea old new id) := by
  refine .of_changes fun w => ?_
  simp only [moveOccupiedArea, Action.on_get_bind, Action.on_require_bind]
  -- both rectangles are found on the map before the first one is vacated
  cases w.footprintRegion id old with
  | error cause => exact .inl rfl
  | ok oldRegion =>
  cases w.footprintRegion id new with
  | error cause => exact .inl rfl
  | ok newRegion => exact .inr (Declined.not_ok not_false)

lemma inert_tryMoveUnit (id : UnitId) (position : Vector3) :
    Inert (· = false) (tryMoveUnit id position) := by
  refine .of_changes fun w => ?_
  rcases tryMoveUnit_cases id position w with h | ⟨b, t, old, new, g, hanswer, -⟩
  · exact .inl h
  · rw [hanswer]
    exact .inr (Declined.not_ok nofun)

lemma inert_trySetYardOpen (id : UnitId) (isOpen : Bool) :
    Inert (· = false) (trySetYardOpen id isOpen) := by
  refine .of_changes fun w => ?_
  rcases trySetYardOpen_cases id isOpen w with ⟨h, -⟩ | ⟨b, t, r, yard, g, hanswer, -⟩
  · exact .inl h
  · rw [hanswer]
    exact .inr (Declined.not_ok nofun)

/-! ### Reports, scripts and weapons -/

lemma inert_reportActual (id : UnitId) (apparentEnergy : Energy) (apparentMetal : Metal)
    (actualEnergy : Energy) (actualMetal : Metal) :
    Inert (fun _ => False)
      (reportActual id apparentEnergy apparentMetal actualEnergy actualMetal) := by
  refine .of_changes fun w => ?_
  simp only [reportActual, Action.on_get_bind, Action.on_require_bind]
  cases w.unit id with
  | error cause => exact .inl rfl
  | ok u =>
  simp only
  -- a unit may be of a player who does not exist
  cases w.player u.owner with
  | error cause => exact .inl rfl
  | ok p => exact .inr (Declined.not_ok not_false)

lemma inert_startScript (id : UnitId) (function : String) (params : List Int32) :
    Inert (fun _ => False) (startScript id function params) := by
  refine .of_changes fun w => ?_
  simp only [startScript, Action.on_get_bind, Action.on_require_bind]
  cases w.unit id with
  | error cause => exact .inl rfl
  | ok u =>
  simp only
  cases u.environment with
  | none => exact .inr (Declined.not_ok not_false)
  | some env =>
  simp only
  cases env.startNamed function params with
  | ok started => exact .inr (Declined.not_ok not_false)
  | error failure =>
  cases failure with
  | halt cause => exact .inl rfl
  | fault e => exact .inl rfl

/-- The weapon is looked up before a number is drawn. -/
lemma inert_createProjectile (owner : PlayerId) (weaponName : String)
    (position direction : Vector3) (distance : Scalar) :
    Inert (fun _ => False) (createProjectile owner weaponName position direction distance) := by
  refine .of_changes fun w => ?_
  cases hweapon : w.definitions.weapon weaponName with
  | error cause =>
    rw [createProjectile_of_unknown hweapon]
    exact .inl rfl
  | ok weapon =>
    rw [createProjectile_on hweapon]
    exact .inr (Declined.not_ok not_false)

lemma not_declined_insertProjectile (p : Projectile) (w : World) :
    ¬Declined (fun _ => False) ((insertProjectile p).on w).1 := by
  rw [insertProjectile_on]
  cases Overflow.successor w.nextProjectile with
  | error cause => nofun
  | ok next => exact Declined.not_ok not_false

lemma inert_fire (owner : PlayerId) (weaponName : String) (position direction : Vector3)
    (distance : Scalar) :
    Inert (fun _ => False) (fire owner weaponName position direction distance) :=
  .bind (inert_createProjectile owner weaponName position direction distance)
    not_declined_insertProjectile

/-! ### Together -/

/-- Operations that decline change nothing, in whatever world they are carried out and whatever they
are asked for: nothing on the map, no unit, feature, projectile or player, no counter, no source of
random numbers, no queue and no event. -/
theorem declined_change_nothing :
    (∀ typeName owner position rotation,
        Inert (· = none) (trySpawnUnit typeName owner position rotation)) ∧
      (∀ u, Inert (· = none) (tryAddUnit u)) ∧
      (∀ t f, Inert (· = none) (addFeature t f)) ∧
      (∀ id position, Inert (· = false) (tryMoveUnit id position)) ∧
      (∀ id isOpen, Inert (· = false) (trySetYardOpen id isOpen)) ∧
      (∀ old new id, Inert (fun _ => False) (moveOccupiedArea old new id)) ∧
      (∀ id apparentEnergy apparentMetal actualEnergy actualMetal, Inert (fun _ => False)
        (reportActual id apparentEnergy apparentMetal actualEnergy actualMetal)) ∧
      (∀ id function params, Inert (fun _ => False) (startScript id function params)) ∧
      (∀ owner weaponName position direction distance, Inert (fun _ => False)
        (createProjectile owner weaponName position direction distance)) ∧
      ∀ owner weaponName position direction distance, Inert (fun _ => False)
        (fire owner weaponName position direction distance) :=
  ⟨inert_trySpawnUnit, inert_tryAddUnit, inert_addFeature, inert_tryMoveUnit, inert_trySetYardOpen,
    inert_moveOccupiedArea, inert_reportActual, inert_startScript, inert_createProjectile,
    inert_fire⟩

/-- While a tank stands on the open yard of a lab, the lab cannot close it, no other tank can be put
there, and scripts of other units cannot be started. -/
theorem declined_change_nothing_yard :
    let w := (Sample.battle Sample.inTheYard).2
    (((trySetYardOpen ⟨1⟩ false).on w).1 = .ok false ∧ ((trySetYardOpen ⟨1⟩ false).on w).2 = w) ∧
      (((trySpawnUnit "tank" ⟨0⟩ 0 none).on w).1 = .ok none ∧
        ((trySpawnUnit "tank" ⟨0⟩ 0 none).on w).2 = w) ∧
      ((startScript ⟨3⟩ "Create" []).on w).1 = .error (.refused (.unknownUnit ⟨3⟩)) ∧
        ((startScript ⟨3⟩ "Create" []).on w).2 = w := by
  intro w
  obtain ⟨hspawn, -, -, -, hyard, -, -, hstart, -⟩ := declined_change_nothing
  have hanswers : ((trySetYardOpen ⟨1⟩ false).on w).1 = .ok false ∧
      ((trySpawnUnit "tank" ⟨0⟩ 0 none).on w).1 = .ok none ∧
      ((startScript ⟨3⟩ "Create" []).on w).1 = .error (.refused (.unknownUnit ⟨3⟩)) := by
    decide +kernel
  obtain ⟨hshut, hblocked, hmissing⟩ := hanswers
  exact ⟨⟨hshut, hyard _ _ w (hshut ▸ .answer rfl)⟩,
    ⟨hblocked, hspawn _ _ _ _ w (hblocked ▸ .answer rfl)⟩,
    hmissing, hstart _ _ _ w (hmissing ▸ .refused _)⟩

end Lockstep.World
