import Mathlib.Logic.Relation
import Lockstep.Proofs.World.Driver
import Lockstep.Proofs.World.Quiet
/-!
# What scripts can do to the world

Whatever words the threads of a unit run, the only trace that they leave on the plan are yards that
were opened or closed, and the script states of the units in the world stay what they were: the
state of the unit whose threads run is not in the world meanwhile.
-/

namespace Lockstep.World

open Script (Environment)

/-- A single write on the plan that leaves every unit where it is. -/
inductive YardWrite (w w' : World) : Prop
  | calm (h : SamePlan w w')
  | toggle (id : UnitId) (b : Body) (isOpen : Bool) (t : UnitType) (r : Rect) (yard : YardMap)
    (h : Toggled w w' id b isOpen t r yard)

/-- Any number of such writes. -/
def YardWrites : World → World → Prop := Relation.ReflTransGen YardWrite

/-- What scripts do to the world. -/
structure Scripted (w w' : World) : Prop where
  plan : YardWrites w w'
  scripts : SameScripts w w'

instance : IsPreorder World YardWrites :=
  inferInstanceAs (IsPreorder World (Relation.ReflTransGen YardWrite))

instance : IsPreorder World Scripted where
  refl w := ⟨refl_of YardWrites w, refl_of SameScripts w⟩
  trans _ _ _ h h' :=
    ⟨trans_of YardWrites h.plan h'.plan, trans_of SameScripts h.scripts h'.scripts⟩

variable {w w' : World} {id : UnitId}

lemma SamePlan.yardWrites (h : SamePlan w w') : YardWrites w w' := .single (.calm h)

lemma Quiet.scripted (h : Quiet w w') : Scripted w w' := ⟨h.plan.yardWrites, h.scripts⟩

/-! ### The writes of scripts -/

lemma environments_modify (f : UnitState → UnitState) (other : UnitId) :
    ((w.units.modify id f).get? other).map UnitState.environment =
      if other = id then (w.units.get? other).map fun u => (f u).environment
      else (w.units.get? other).map UnitState.environment := by
  rw [SortedTable.get?_modify]
  simp only [Ranked.rank_eq_iff]
  split
  · exact Option.map_map ..
  · rfl

/-- A change of a unit that keeps its script state keeps all script states. -/
lemma environments_modify_of_eq {f : UnitState → UnitState}
    (hf : ∀ u, (f u).environment = u.environment) (other : UnitId) :
    ((w.units.modify id f).get? other).map UnitState.environment =
      (w.units.get? other).map UnitState.environment := by
  rw [environments_modify]
  simp only [hf, ite_self]

lemma scripted_trySetYardOpen (isOpen : Bool) : Respects Scripted (trySetYardOpen id isOpen) := by
  intro w
  show Scripted w ((trySetYardOpen id isOpen).on w).2
  rcases trySetYardOpen_cases id isOpen w with ⟨h, -⟩ | ⟨b, t, r, yard, g, -, hw, h⟩
  · rw [h]
    exact refl_of Scripted w
  · refine ⟨.single (.toggle id b isOpen t r yard h), h.nextUnit, fun other => ?_⟩
    rw [hw]
    exact environments_modify_of_eq (f := fun u => { u with yardOpen := isOpen })
      (fun _ => rfl) other

lemma scripted_setYardOpen (isOpen : Bool) : Respects Scripted (setYardOpen id isOpen) :=
  (scripted_trySetYardOpen isOpen).bind fun _ => .pure _

/-- What scripts write in their own unit is steady. -/
lemma Personal.steady {f : UnitState → UnitState} (hf : Personal f) : Steady f := fun u => by
  rw [hf u]
  exact ⟨rfl, rfl, rfl⟩

lemma calmLaw_quiet (id : UnitId) : CalmLaw id Quiet where
  draw _ _ := .of_units rfl rfl rfl rfl rfl rfl rfl (Nat.le_refl _)
  tell _ w := quiet_tell _ w
  note n w := quiet_note n w
  own hf w hbounded := quiet_modifyUnit hf.steady w hbounded
  leave := quiet_emitBuggerOff

theorem scriptLaw_scripted (id : UnitId) : ScriptLaw id Scripted where
  toCalmLaw := (calmLaw_quiet id).mono fun _ _ => Quiet.scripted
  yard := scripted_trySetYardOpen

lemma scriptLaw_yardWrites (id : UnitId) : ScriptLaw id YardWrites :=
  (scriptLaw_scripted id).mono fun _ _ => Scripted.plan

/-! ### The script state in and out of the unit -/

lemma samePlan_modifyUnit {f : UnitState → UnitState} (hf : ∀ u, (f u).body = u.body)
    (w : World) : SamePlan w (w.modifyUnit id f) := by
  refine ⟨rfl, rfl, rfl, fun other => ?_, rfl, rfl⟩
  rw [body?, modifyUnit, SortedTable.get?_modify, body?]
  split
  · rw [Option.map_map]
    congr 1
    funext u
    exact hf u
  · rfl

lemma samePlan_detachEnvironment (w : World) : SamePlan w (w.detachEnvironment id) :=
  samePlan_modifyUnit (f := fun u => { u with environment := none }) (fun _ => rfl) w

lemma samePlan_attachEnvironment (env : Environment) (w : World) :
    SamePlan w (w.attachEnvironment id env) :=
  samePlan_modifyUnit (f := fun u => { u with environment := some env }) (fun _ => rfl) w

lemma samePlan_startScript (function : String) (params : List Int32) :
    Respects SamePlan (startScript id function params) :=
  respects_startScript (fun n w => (quiet_note n w).plan) fun _ _ _ =>
    samePlan_attachEnvironment _ _

theorem yardWrites_runUnitScripts (budget : Nat) :
    Respects YardWrites (runUnitScripts budget id) :=
  (scriptLaw_yardWrites id).respects_runUnitScripts
    (fun w => (samePlan_detachEnvironment w).yardWrites)
    (fun env w => (samePlan_attachEnvironment env w).yardWrites) budget

theorem yardWrites_runQuery (budget : Nat) (function : String) (params : List Int32) :
    Respects YardWrites (runQuery budget id function params) :=
  (scriptLaw_yardWrites id).respects_runQuery
    (fun w => (samePlan_detachEnvironment w).yardWrites)
    (fun env w => (samePlan_attachEnvironment env w).yardWrites) budget function params

end Lockstep.World
