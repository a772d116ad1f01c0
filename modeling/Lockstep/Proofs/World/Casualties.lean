import Lockstep.Proofs.World.Due
import Lockstep.Proofs.World.Sturdy
import Lockstep.Proofs.World.Sweeping
/-!
# Units that are killed

A unit that is killed stays on the map until the end of the next tick.  In that tick it is still a
unit like any other: its scripts run once more, and if one of its threads is due, it acts.  At the
end of the tick nothing is left of it, while every unit that was not killed before is still there,
since no script kills.
-/

namespace Lockstep.World

variable {w w' : World} {id other : UnitId} {budget : Nat} {record : List (UnitId × ThreadId)}

/-! ### Nobody is killed by scripts -/

/-- Nobody comes, goes or is killed. -/
def SameLives (w w' : World) : Prop :=
  ∀ id, (w'.units.get? id).map UnitState.life = (w.units.get? id).map UnitState.life

instance : IsPreorder World SameLives where
  refl _ _ := rfl
  trans _ _ _ h h' id := (h' id).trans (h id)

lemma Isolated.sameLives (h : Isolated other w w') : SameLives w w' := fun _ =>
  h.map_eq fun _ _ hconfined => by rw [hconfined.own]

lemma sameLives_runScriptsNoting (budget : Nat) :
    Respects SameLives (runScriptsNoting budget id) :=
  Action.respects_orElse ((isolated_runUnitScripts budget id).mono fun _ _ h => h.sameLives)
    fun _ => .modify fun _ _ => rfl

lemma sameLives_of_map {f : UnitState → UnitState} (hf : ∀ u, (f u).life = u.life)
    (h : w'.units = w.units.map f) : SameLives w w' := fun id => by
  simp [h, SortedTable.map, SortedTable.get?_mapWithKey, Function.comp_def, hf]

lemma sameLives_afterScripts (budget : Nat) (w : World) : SameLives w (w.afterScripts budget) := by
  have hbegin : SameLives w w.beginTick :=
    sameLives_of_map (f := UnitState.rememberPlace) (fun _ => rfl) rfl
  have hscripts : SameLives w.beginTick (w.afterScripts budget) :=
    Respects.forM (R := SameLives) (fun _ _ => sameLives_runScriptsNoting budget) w.beginTick
  exact trans_of SameLives hbegin hscripts

lemma SameLives.mem_deadUnits_iff (h : SameLives w w') : id ∈ w'.deadUnits ↔ id ∈ w.deadUnits := by
  have hdead (v : World) :
      id ∈ v.deadUnits ↔ (v.units.get? id).map UnitState.life = some .dead := by
    simp [mem_deadUnits, UnitState.isDead]
  rw [hdead, hdead, h]

/-! ### The end of a tick -/

/-- A tick that is gone through with ends with a sweep. -/
lemma after_tick (hw : Scheduled record w) (ho : (Operation.tick budget).Completes w) :
    (Operation.tick budget).after w =
      (w.afterScripts budget).stepPieces.stepProjectiles.sweep := by
  have hscripts := forM_cases budget w.beginTick.units.nodup_keys (forM_of_completes ho)
    (hw.same (sameScripts_beginTick w)) ⟨0⟩
  show ((tick budget).on w).2 = _
  simp only [tick, Action.on_modify_bind, Action.on_get_bind, afterScripts]
  rw [Action.on_bind]
  revert hscripts
  rcases (w.beginTick.units.keys.forM (runScriptsNoting budget)).on w.beginTick with
    ⟨_ | _, w₁⟩ <;> intro hscripts
  · cases hscripts.1
  · rfl

/-- A unit that was killed before a tick acts in it if and only if one of its threads is due when
the tick has begun; if none is, its scripts change nothing but notices and its script state.  In
either case, when the tick is over it is gone, and no cell and no wish for a path is about it; all
units that were not killed are still there. -/
theorem killed_units_act_if_due {s : Setup} {past : List Step} {u : UnitState} (h : Run s past w)
    (ho : (Operation.tick budget).Completes w) (hu : w.units.get? id = some u)
    (hdead : u.isDead = true) :
    ((∃ n, (Operation.tick budget).Executes w id n) ↔ w.beginTick.HasDue id) ∧
      (¬w.beginTick.HasDue id → Still id (w.scriptsBegin budget id) (w.scriptsEnd budget id)) ∧
      (((Operation.tick budget).after w).unitExists id = false ∧
        ¬((Operation.tick budget).after w).Mentions id) ∧
      ∀ other v, w.units.get? other = some v → v.isDead = false →
        ((Operation.tick budget).after w).unitExists other = true := by
  have hexists : w.unitExists id = true := unitExists_of_get? hu
  obtain ⟨hacts, hstill⟩ := acts_iff_hasDue h.scheduled ho hexists
  rw [after_tick h.scheduled ho]
  have hpieces : SameLives (w.afterScripts budget)
      (w.afterScripts budget).stepPieces.stepProjectiles :=
    sameLives_of_map (f := UnitState.stepPieces) (fun _ => rfl) rfl
  have hlives := trans_of SameLives (sameLives_afterScripts budget w) hpieces
  -- nobody was killed since the tick began, so the sweep takes those that were dead before it
  generalize (w.afterScripts budget).stepPieces.stepProjectiles = w₁ at hlives
  have hswept : id ∈ w₁.deadUnits := hlives.mem_deadUnits_iff.2 (mem_deadUnits.2 ⟨u, hu, hdead⟩)
  refine ⟨hacts, hstill, ⟨?_, not_mentions_sweep hswept⟩, fun other v hv halive => ?_⟩
  · rw [unitExists_sweep]
    simp [hswept]
  · have hspared : other ∉ w₁.deadUnits := by
      rw [hlives.mem_deadUnits_iff, mem_deadUnits, hv]
      simp [halive]
    rw [unitExists_sweep, unitExists_congr (hlives other), unitExists_of_get? hv]
    simp [hspared]

namespace Sample

/-- A script that draws a number, lets smoke of that kind rise, and sleeps for a second. -/
def flare : Script.Program where
  words := #[
    Script.Opcode.word .pushConstant, 1, Script.Opcode.word .pushConstant, 6,
    Script.Opcode.word .random, Script.Opcode.word .emitSmoke, 0,
    Script.Opcode.word .pushConstant, 1000, Script.Opcode.word .sleep,
    Script.Opcode.word .jump, 0]
  functions := [⟨"Create", 0⟩]
  pieces := ["base"]
  staticCount := 0

/-- Tanks with that script. -/
def beacon : Setup := drill [⟨"base", 0, none⟩] flare

/-- One of them is put on the map, and killed after a number of ticks. -/
def wreck (ticks : Nat) : List Operation :=
  [.addPlayer (.new .human "" 0), .spawnUnit "tank" ⟨0⟩ 0 none] ++
    List.replicate ticks (.tick 9) ++ [.quietlyKill ⟨1⟩]

/-- The world after that. -/
def wrecked (ticks : Nat) : World := (replay (wreck ticks) [] (lineup beacon)).2

lemma run_wrecked {ticks : Nat} (h : Operation.AllComplete (wreck ticks) (lineup beacon)) :
    Run beacon (replay (wreck ticks) [] (lineup beacon)).1 (wrecked ticks) := by
  have hnew : World.new beacon = .ok (lineup beacon) := by decide +kernel
  exact (Run.start hnew).replay h

end Sample

/-- The tank that was killed at once lights its flare in the next tick; the one that was killed
while it slept does not. -/
theorem killed_units_act_if_due_wreck :
    (Run Sample.beacon (replay (Sample.wreck 0) [] (Sample.lineup Sample.beacon)).1
        (Sample.wrecked 0) ∧
      (Sample.wrecked 0).beginTick.HasDue ⟨1⟩ ∧
      ((Operation.tick 9).after (Sample.wrecked 0)).unitExists ⟨1⟩ = false) ∧
    (Run Sample.beacon (replay (Sample.wreck 1) [] (Sample.lineup Sample.beacon)).1
        (Sample.wrecked 1) ∧
      ¬(Sample.wrecked 1).beginTick.HasDue ⟨1⟩ ∧
      Still ⟨1⟩ ((Sample.wrecked 1).scriptsBegin 9 ⟨1⟩) ((Sample.wrecked 1).scriptsEnd 9 ⟨1⟩) ∧
      ((Operation.tick 9).after (Sample.wrecked 1)).unitExists ⟨1⟩ = false) := by
  obtain ⟨hcomplete, htick, hdead, hacts, hidle⟩ :
      (∀ k < 2, Operation.AllComplete (Sample.wreck k) (Sample.lineup Sample.beacon)) ∧
      (∀ k < 2, (Operation.tick 9).Completes (Sample.wrecked k)) ∧
      (∀ k < 2, ((Sample.wrecked k).units.get? ⟨1⟩).map UnitState.isDead = some true) ∧
      (Operation.tick 9).Executes (Sample.wrecked 0) ⟨1⟩ ⟨0⟩ ∧
      ((Operation.tick 9).deeds (Sample.wrecked 1)).isEmpty = true := by
    decide +kernel
  obtain ⟨u, hu, hu'⟩ := Option.map_eq_some_iff.1 (hdead 0 (by decide))
  obtain ⟨hiff, -, ⟨hgone, -⟩, -⟩ := killed_units_act_if_due
    (Sample.run_wrecked (hcomplete 0 (by decide))) (htick 0 (by decide)) hu hu'
  obtain ⟨v, hv, hv'⟩ := Option.map_eq_some_iff.1 (hdead 1 (by decide))
  obtain ⟨hiff', hstill, ⟨hgone', -⟩, -⟩ := killed_units_act_if_due
    (Sample.run_wrecked (hcomplete 1 (by decide))) (htick 1 (by decide)) hv hv'
  have hasleep : ¬(Sample.wrecked 1).beginTick.HasDue ⟨1⟩ := by
    rw [← hiff']
    rintro ⟨n, d, hd, -⟩
    rw [List.isEmpty_iff.1 hidle] at hd
    cases hd
  exact ⟨⟨Sample.run_wrecked (hcomplete 0 (by decide)), hiff.1 ⟨_, hacts⟩, hgone⟩,
    Sample.run_wrecked (hcomplete 1 (by decide)), hasleep, hstill hasleep, hgone'⟩

/-- In the tick after it was killed the tank executes instructions: it draws a number, so that
others are drawn later, and smoke rises. -/
theorem killed_unit_acts :
    Run Sample.beacon (replay (Sample.wreck 0) [] (Sample.lineup Sample.beacon)).1
        (Sample.wrecked 0) ∧
      (Operation.tick 9).Completes (Sample.wrecked 0) ∧
      ((Sample.wrecked 0).units.get? ⟨1⟩).map UnitState.isDead = some true ∧
      (Operation.tick 9).Executes (Sample.wrecked 0) ⟨1⟩ ⟨0⟩ ∧
      ((Operation.tick 9).after (Sample.wrecked 0)).random ≠ (Sample.wrecked 0).random ∧
      ((Operation.tick 9).after (Sample.wrecked 0)).events =
        #[.spawned ⟨1⟩, .effect ⟨1⟩ "base" (.smoke 4), .removed ⟨1⟩] := by
  have hcomplete : Operation.AllComplete (Sample.wreck 0) (Sample.lineup Sample.beacon) := by
    decide +kernel
  refine ⟨Sample.run_wrecked hcomplete, ?_⟩
  decide +kernel

end Lockstep.World
