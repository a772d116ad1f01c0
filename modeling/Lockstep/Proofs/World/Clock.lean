import Lockstep.Proofs.World.Agenda
import Lockstep.Proofs.World.Course
/-!
# The clock

The clock goes on at the beginning of a tick and at no other time.  So a tick has one time
throughout: all turns of threads in it, and all that is done in them, see the same clock.
-/

namespace Lockstep.World

open Script (Environment Machine)

/-- Two worlds at the same time. -/
def SameTime (w w' : World) : Prop := w'.time = w.time

instance : IsPreorder World SameTime where
  refl _ := rfl
  trans _ _ _ h h' := h'.trans h

variable {s : Setup} {past : List Step} {w w' : World} {o : Operation} {id : UnitId}
  {env : Environment} {budget : Nat}

/-! ### The operations -/

lemma scriptLaw_sameTime (id : UnitId) : ScriptLaw id SameTime :=
  (scriptLaw_isolated id).mono fun _ _ h => h.time

lemma sameTime_runScriptsNoting (budget : Nat) (id : UnitId) :
    Respects SameTime (runScriptsNoting budget id) :=
  (sameAgenda_runScriptsNoting budget id).mono fun _ _ h => h.time

/-- Nothing but a tick lets the clock go on. -/
lemma sameTime_after (ho : ∀ budget, o ≠ .tick budget) (w : World) : SameTime w (o.after w) := by
  cases o with
  | requestPath id => rfl
  | popPathRequest => exact (quiet_popPathRequest w).time
  | tick budget => exact absurd rfl (ho budget)
  | _ => exact (sameAgenda_after (by nofun) w).time

lemma time_sweep (w : World) : SameTime w w.sweep := by
  refine rel_sweep (R := SameTime) (fun w id => ?_) w
  rw [sweepUnit, removeUnit]
  split <;> rfl

theorem time_after_tick (budget : Nat) (w : World) :
    ((Operation.tick budget).after w).time = w.time + ⟨1⟩ := by
  have hscripts : SameTime w.beginTick
      ((w.beginTick.units.keys.forM (runScriptsNoting budget)).on w.beginTick).2 :=
    Respects.forM (fun id _ => sameTime_runScriptsNoting budget id) w.beginTick
  rw [Operation.after, Operation.perform, tick, Action.on_modify_bind, Action.on_get_bind,
    Action.on_bind]
  revert hscripts
  rcases (w.beginTick.units.keys.forM (runScriptsNoting budget)).on w.beginTick with
    ⟨_ | _, w₁⟩ <;> intro hscripts
  · exact hscripts
  · have hpieces : SameTime w₁ w₁.stepPieces.stepProjectiles := rfl
    have hend : SameTime w.beginTick w₁.stepPieces.stepProjectiles.sweep :=
      trans_of SameTime hscripts (trans_of SameTime hpieces (time_sweep _))
    exact hend

lemma toNat_succ (t : Tick) :
    (t + ⟨1⟩).val.toNat = min (t.val.toNat + 1) (UInt32.size - 1) :=
  Tick.toNat_add t ⟨1⟩

lemma time_le_after (o : Operation) (w : World) :
    w.time.val.toNat ≤ (o.after w).time.val.toNat := by
  by_cases ho : ∃ budget, o = .tick budget
  · obtain ⟨budget, rfl⟩ := ho
    have htime := w.time.val.toNat_lt
    have hsize : UInt32.size = 4294967296 := rfl
    rw [time_after_tick, toNat_succ]
    omega
  · have hsame := sameTime_after (fun budget h => ho ⟨budget, h⟩) w
    exact Nat.le_of_eq (congrArg (fun t => t.val.toNat) hsame.symm)

/-- The clock never goes back. -/
theorem Run.time_le (h : Run s past w) {st : Step} (hst : st ∈ past) :
    (st.operation.after st.before).time.val.toNat ≤ w.time.val.toNat := by
  induction h with
  | start => cases hst
  | @step past w o _ _ ih =>
    rcases List.mem_append.1 hst with hst | hst
    · exact Nat.le_trans (ih hst) (time_le_after o w)
    · cases List.mem_singleton.1 hst
      exact Nat.le_refl _

/-! ### The turns of a tick -/

lemma time_of_mem_unitTurns {T : Turn} (hT : T ∈ unitTurns budget id w) :
    T.world.time = w.time := by
  cases henv : w.environment? id with
  | none =>
    rw [unitTurns_eq_nil henv] at hT
    cases hT
  | some env =>
    rw [unitTurns_eq henv] at hT
    have hdetach : (w.detachEnvironment id).time = w.time := rfl
    refine forall_mem_turnsOf (I := fun w' _ => w'.time = w.time) ?_ hdetach T hT
    intro n w₁ env₁ env' w' htime hon
    have hvisit : SameTime w₁ ((visitThread budget id env₁ n).on w₁).2 :=
      (scriptLaw_sameTime id).respects_visitThread budget env₁ n w₁
    rw [hon] at hvisit
    exact hvisit.trans htime

/-- In a tick every thread sees the clock one further. -/
lemma time_of_mem_turns {T : Turn} (hT : T ∈ (Operation.tick budget).turns w) :
    T.world.time = w.time + ⟨1⟩ := by
  refine forall_mem_turnsOfUnits (J := fun w' => w'.time = w.time + ⟨1⟩)
    (Q := fun T => T.world.time = w.time + ⟨1⟩) ?_ ?_ rfl T hT
  · intro id w' hw' T hT
    exact (time_of_mem_unitTurns hT).trans hw'
  · intro id w' hw'
    exact (sameTime_runScriptsNoting budget id w').trans hw'

/-- While a thread runs, the clock stands still. -/
lemma time_of_mem_trail {m m' : Machine World} (hm' : m' ∈ World.trail id budget m) :
    m'.world.time = m.world.time := by
  have : IsPreorder Environment fun _ _ => True :=
    { refl := fun _ => trivial, trans := fun _ _ _ _ _ => trivial }
  have law := scriptLaw_sameTime id
  refine forall_mem_trail (P := fun m' => m'.world.time = m.world.time) ?_ ?_ rfl m' hm'
  · intro m₁ hm₁
    have hstep : SameTime m₁.world ((Machine.step host id).run.run m₁).2.world :=
      ((law.machineLaw ScriptLaw.environmentLaw_true).respects_step m₁).2
    exact hstep.trans hm₁
  · intro piece axis motion m₁ hm₁
    have hmotion : SameTime m₁.world ((applyMotion id piece axis motion).run.run m₁).2.world :=
      (law.respects_applyMotion (E := fun _ _ => True) piece axis motion m₁).2
    exact hmotion.trans hm₁

lemma Turn.time_of_mem_trail {T : Turn} {m : Machine World} (hm : m ∈ T.trail) :
    m.world.time = T.world.time := by
  rw [trail] at hm
  cases hstart : T.start? with
  | none =>
    rw [hstart] at hm
    cases hm
  | some m₀ =>
    rw [hstart] at hm
    obtain ⟨t, -, hawake⟩ := Turn.start?_eq_some hstart
    have hworld : m₀.world.time = T.world.time := by cases hawake <;> rfl
    exact (World.time_of_mem_trail hm).trans hworld

end Lockstep.World
