import Lockstep.Proofs.World.Draining
import Lockstep.Proofs.World.Sweeping
import Lockstep.Proofs.World.Telling
/-!
# The stream of events

All events of a battle, those that have been drained and those that are still queued, make up one
stream.  If units come onto the map only by being spawned, the stream tells faithfully who is there:
units come in ascending order of their numbers, what is told of a unit lies between its coming and
its going, and the units in the world are those that have come and not gone.
-/

namespace Lockstep

/-- The units that came onto the map, in the order in which it was told. -/
def arrivals (l : List Event) : List UnitId :=
  l.filterMap fun
    | .spawned id => some id
    | _ => none

lemma arrivals_append (l m : List Event) : arrivals (l ++ m) = arrivals l ++ arrivals m :=
  List.filterMap_append

lemma mem_arrivals {l : List Event} {id : UnitId} : id ∈ arrivals l ↔ .spawned id ∈ l := by
  simp only [arrivals, List.mem_filterMap]
  constructor
  · rintro ⟨e, he, heq⟩
    cases e <;> cases heq
    exact he
  · intro h
    exact ⟨_, h, rfl⟩

namespace Event

/-- What is told of a unit, but for its coming, is told after it came and before it goes. -/
def Timely (before : List Event) (e : Event) : Prop :=
  (∀ id, e ≠ .spawned id) → .spawned e.unit ∈ before ∧ .removed e.unit ∉ before

lemma IsMidway.ne_spawned {e : Event} (h : e.IsMidway) (id : UnitId) : e ≠ .spawned id := by
  rintro rfl
  exact h

lemma IsMidway.ne_removed {e : Event} (h : e.IsMidway) (id : UnitId) : e ≠ .removed id := by
  rintro rfl
  exact h

end Event

/-- A further event leaves those before it in their places. -/
lemma timely_concat {l : List Event} {e : Event}
    (h : ∀ before e after, l = before ++ e :: after → Event.Timely before e)
    (he : e.Timely l) (before : List Event) (e' : Event) (after : List Event)
    (heq : l ++ [e] = before ++ e' :: after) : e'.Timely before := by
  rcases List.eq_nil_or_concat after with rfl | ⟨rest, last, rfl⟩
  · obtain ⟨rfl, hlast⟩ := List.append_inj' heq rfl
    cases hlast
    exact he
  · rw [List.concat_eq_append, ← List.cons_append, ← List.append_assoc] at heq
    exact h before e' rest (List.append_inj' heq rfl).1

namespace World

variable {l d : List Event} {w w' : World} {id : UnitId} {e : Event}

/-- A list of events tells faithfully who is in a world. -/
structure Faithful (l : List Event) (w : World) : Prop where
  ascending : (arrivals l).Pairwise fun i j => i.val < j.val
  number : ∀ id, .spawned id ∈ l → id.val < w.nextUnit
  timely : ∀ before e after, l = before ++ e :: after → Event.Timely before e
  present : ∀ id, w.unitExists id = true ↔ .spawned id ∈ l ∧ .removed id ∉ l

namespace Faithful

lemma congr (h : Faithful l w) (hnext : w'.nextUnit = w.nextUnit)
    (hunits : ∀ id, w'.unitExists id = w.unitExists id) : Faithful l w' where
  ascending := h.ascending
  number id hid := hnext ▸ h.number id hid
  timely := h.timely
  present id := hunits id ▸ h.present id

/-- Nobody goes who has not come. -/
lemma spawned_of_removed (h : Faithful l w) (hid : .removed id ∈ l) : .spawned id ∈ l := by
  obtain ⟨before, after, rfl⟩ := List.append_of_mem hid
  have htimely := h.timely before (.removed id) after rfl (fun _ => nofun)
  exact List.mem_append_left _ htimely.1

lemma midway (h : Faithful l w) (he : Midway w e) : Faithful (l ++ [e]) w where
  ascending := by
    have hnone : arrivals [e] = [] := by
      obtain ⟨hmidway, -⟩ := he
      cases e with
      | spawned => exact hmidway.elim
      | _ => rfl
    rw [arrivals_append, hnone, List.append_nil]
    exact h.ascending
  number id hid := by
    rcases List.mem_append.1 hid with hid | hid
    · exact h.number id hid
    · exact absurd (List.mem_singleton.1 hid).symm (he.1.ne_spawned id)
  timely := timely_concat h.timely fun _ => (h.present e.unit).1 he.2
  present id := by
    simp [h.present id, (he.1.ne_spawned id).symm, (he.1.ne_removed id).symm]

lemma narrates (h : Faithful (d ++ w.events.toList) w) (hw : Narrates w w') :
    Faithful (d ++ w'.events.toList) w' := by
  obtain ⟨news, hnews, hevents⟩ := hw.events
  rw [hevents, ← List.append_assoc]
  refine congr ?_ hw.nextUnit hw.units
  -- what is told is told one by one, and no unit comes or goes in between
  generalize d ++ w.events.toList = l at h
  clear hevents
  induction news generalizing l with
  | nil => simpa using h
  | cons e news ih =>
    rw [List.append_cons]
    exact ih (fun e he => hnews e (List.mem_cons_of_mem _ he)) (l ++ [e])
      (h.midway (hnews e List.mem_cons_self))

end Faithful

/-! ### Units that come -/

/-- A unit comes onto the map with the next number, and this is told. -/
structure Arrives (w w' : World) : Prop where
  nextUnit : w'.nextUnit.toNat = w.nextUnit.toNat + 1
  units : ∀ id, w'.unitExists id = (decide (id = ⟨w.nextUnit⟩) || w.unitExists id)
  events : w'.events.toList = w.events.toList ++ [.spawned ⟨w.nextUnit⟩]

/-- A unit that was put on the map has come as soon as this is told. -/
lemma arrives_tell {u : UnitState} {m : World} (hjoins : Joins w m u)
    (hevents : m.events = w.events) (hcalm : Tells (fun _ => False) m w') :
    Arrives w (w'.tell (.spawned ⟨w.nextUnit⟩)) where
  nextUnit := (congrArg UInt32.toNat hcalm.nextUnit).trans hjoins.nextUnit
  units id := by
    show w'.unitExists id = _
    rw [hcalm.units, unitExists, unitExists, SortedTable.contains, SortedTable.contains,
      hjoins.units, SortedTable.get?_insert]
    by_cases h : id = ⟨w.nextUnit⟩ <;> simp [h]
  events := by
    obtain ⟨news, hnews, heq⟩ := hcalm.events
    have hnone : news = [] := List.eq_nil_iff_forall_not_mem.2 hnews
    simp [tell, heq, hnone, hevents]

lemma trySpawnUnit_arrives (typeName : String) (owner : PlayerId) (position : Vector3)
    (rotation : Option Angle) (w : World) :
    ((trySpawnUnit typeName owner position rotation).on w).2 = w ∨
      Arrives w ((trySpawnUnit typeName owner position rotation).on w).2 := by
  simp only [trySpawnUnit, Action.on_get_bind, Action.on_require_bind]
  cases hu : w.createUnit typeName owner position rotation with
  | error cause => exact .inl rfl
  | ok u =>
  simp only
  cases ht : w.definitions.unitType typeName with
  | error cause => exact .inl rfl
  | ok t =>
  obtain ⟨program, hcreated⟩ := createUnit_eq_ok hu
  have hlift := hcreated.lift w.terrain.seaLevel t
  simp only
  generalize liftToSea w.terrain.seaLevel t u = u at hlift ⊢
  rw [Action.on_bind]
  rcases tryAddUnit_cases u w with ⟨answer, hon, hanswer⟩ | ⟨t, r, next, g, m, hon, hm, hchange⟩
  · rw [hon]
    rcases answer with _ | _ | id
    · exact .inl rfl
    · exact .inl rfl
    · exact absurd rfl (hanswer id)
  · have hjoins : Joins w m u := by
      refine ⟨by rw [hm], ?_, by rw [hm]⟩
      rcases hchange with h | ⟨yard, h⟩
      · exact h.nextUnit
      · exact h.nextUnit
    have hunit : m.units.get? ⟨w.nextUnit⟩ = some u := by
      rw [hjoins.units, SortedTable.get?_insert, if_pos rfl]
    -- `Create` is started before the coming of the unit is told, but only a tick runs it
    have hcalm : Tells (fun _ => False) m ((startScript ⟨w.nextUnit⟩ "Create" []).on m).2 :=
      tells_startScript "Create" [] m
    obtain ⟨n, hn⟩ := startScript_new hunit hlift.environment "Create" []
    rw [hon]
    simp only
    rw [Action.on_bind]
    revert hn hcalm
    rcases (startScript ⟨w.nextUnit⟩ "Create" []).on m with ⟨_ | n', m'⟩ <;> intro hcalm hn
    · cases hn
    · exact .inr (arrives_tell hjoins (by rw [hm]) hcalm)

lemma Faithful.arrives (h : Faithful (d ++ w.events.toList) w) (hw : Arrives w w') :
    Faithful (d ++ w'.events.toList) w' := by
  rw [hw.events, ← List.append_assoc]
  generalize d ++ w.events.toList = l at h
  -- the number was never given before, so nothing was ever told of the unit
  have hnew : .spawned ⟨w.nextUnit⟩ ∉ l := fun hmem =>
    UInt32.lt_irrefl _ (h.number ⟨w.nextUnit⟩ hmem)
  have hstays : .removed ⟨w.nextUnit⟩ ∉ l := fun hmem => hnew (h.spawned_of_removed hmem)
  have hlt : w.nextUnit < w'.nextUnit := by
    rw [UInt32.lt_iff_toNat_lt, hw.nextUnit]
    omega
  refine ⟨?_, fun id hid => ?_, timely_concat h.timely fun hne => absurd rfl (hne _), fun id => ?_⟩
  · rw [arrivals_append, List.pairwise_append]
    refine ⟨h.ascending, List.pairwise_singleton _ _, fun i hi j hj => ?_⟩
    cases List.mem_singleton.1 hj
    exact h.number i (mem_arrivals.1 hi)
  · rcases List.mem_append.1 hid with hid | hid
    · exact UInt32.lt_trans (h.number id hid) hlt
    · cases List.mem_singleton.1 hid
      exact hlt
  · rw [hw.units]
    by_cases hid : id = ⟨w.nextUnit⟩
    · simp [hid, hstays]
    · simp [hid, h.present id]

/-! ### Units that go -/

/-- A unit goes, and this is told. -/
lemma Faithful.sweepUnit (h : Faithful (d ++ w.events.toList) w) (hid : w.unitExists id = true) :
    Faithful (d ++ (w.sweepUnit id).events.toList) (w.sweepUnit id) := by
  have hevents : (w.sweepUnit id).events.toList = w.events.toList ++ [.removed id] := by
    rw [sweepUnit_of_exists hid, Array.toList_push]
  have hnext : (w.sweepUnit id).nextUnit = w.nextUnit := by rw [sweepUnit_of_exists hid]
  rw [hevents, ← List.append_assoc]
  generalize d ++ w.events.toList = l at h
  obtain ⟨hcame, hstayed⟩ := (h.present id).1 hid
  refine ⟨?_, fun other hother => ?_, timely_concat h.timely fun _ => ⟨hcame, hstayed⟩,
    fun other => ?_⟩
  · simpa [arrivals_append, arrivals] using h.ascending
  · rw [hnext]
    exact h.number other (by simpa using hother)
  · rw [unitExists_sweepUnit hid]
    by_cases hother : other = id
    · simp [hother]
    · simp [hother, h.present other]

lemma Faithful.sweep (h : Faithful (d ++ w.events.toList) w) :
    Faithful (d ++ w.sweep.events.toList) w.sweep :=
  sweep_induction (P := fun _ v => Faithful (d ++ v.events.toList) v)
    (fun hid hv => hv.sweepUnit hid) h

/-! ### Whole battles -/

/-- Ticks, whatever scripts run in them, and whether or not they are completed. -/
lemma Faithful.tick (h : Faithful (d ++ w.events.toList) w) (budget : Nat) :
    Faithful (d ++ ((World.tick budget).on w).2.events.toList) ((World.tick budget).on w).2 := by
  have hbegin : Narrates w w.beginTick :=
    .of_same rfl (unitExists_map w UnitState.rememberPlace) rfl
  have hscripts : Narrates w.beginTick
      ((w.beginTick.units.keys.forM (runScriptsNoting budget)).on w.beginTick).2 :=
    Respects.forM (R := Narrates) (fun _ _ => narrates_runScriptsNoting budget) w.beginTick
  have hrun := h.narrates (trans_of Narrates hbegin hscripts)
  simp only [World.tick, Action.on_modify_bind, Action.on_get_bind]
  rw [Action.on_bind]
  revert hrun
  rcases (w.beginTick.units.keys.forM (runScriptsNoting budget)).on w.beginTick with
    ⟨_ | _, w₁⟩ <;> intro hrun
  · exact hrun
  · have hpieces : Narrates w₁ w₁.stepPieces.stepProjectiles :=
      .of_same rfl (unitExists_map w₁ UnitState.stepPieces) rfl
    exact (hrun.narrates hpieces).sweep

/-- An operation that puts a unit on the map without telling so is the only one that the stream does
not follow. -/
lemma Faithful.after {o : Operation} (h : Faithful (d ++ w.events.toList) w)
    (ho : ∀ typeName owner position rotation, o ≠ .addUnit typeName owner position rotation) :
    Faithful (d ++ Step.drained ⟨w, o⟩ ++ (o.after w).events.toList) (o.after w) := by
  by_cases hturn : o.IsTurn
  · cases o with
    | addUnit => exact absurd rfl (ho _ _ _ _)
    | spawnUnit typeName owner position rotation =>
      have hafter : (Operation.spawnUnit typeName owner position rotation).after w =
          ((trySpawnUnit typeName owner position rotation).on w).2 := Action.on_discard _ w
      have hdrained : Step.drained ⟨w, .spawnUnit typeName owner position rotation⟩ = [] :=
        Step.drained_eq _
      rw [hafter, hdrained, List.append_nil]
      rcases trySpawnUnit_arrives typeName owner position rotation w with heq | harrives
      · rw [heq]
        exact h
      · exact h.arrives harrives
    | takeEvents =>
      have hqueue : d ++ Step.drained ⟨w, .takeEvents⟩ ++ ([] : List Event) =
          d ++ w.events.toList := List.append_nil _
      show Faithful (d ++ Step.drained ⟨w, .takeEvents⟩ ++ []) _
      rw [hqueue]
      exact h.congr rfl fun _ => rfl
    | tick budget =>
      have hdrained : Step.drained ⟨w, .tick budget⟩ = [] := Step.drained_eq _
      rw [hdrained, List.append_nil]
      exact h.tick budget
    | _ => exact hturn.elim
  · have hdrained : Step.drained ⟨w, o⟩ = [] := by
      rw [Step.drained_eq]
      cases o with
      | takeEvents => exact absurd trivial hturn
      | _ => rfl
    rw [hdrained, List.append_nil]
    exact h.narrates (narrates_after hturn w)

lemma events_new {s : Setup} (h : World.new s = .ok w) : w.events = #[] := by
  rw [World.new] at h
  obtain ⟨_, -, h⟩ := exists_of_bind_eq_ok h
  obtain ⟨occupancy, -, h⟩ := exists_of_bind_eq_ok h
  obtain ⟨metal, -, h⟩ := exists_of_bind_eq_ok h
  cases h
  rfl

/-- The induction is on the operations of the battle. -/
theorem Run.faithful {s : Setup} {past : List Step} (h : Run s past w)
    (hunits : ∀ st ∈ past, ∀ typeName owner position rotation,
      st.operation ≠ .addUnit typeName owner position rotation) : Faithful (heard past w) w := by
  induction h with
  | @start w h =>
    have hunits : w.units = .empty := (initial_new h).units
    have hheard : heard [] w = [] := by simp [heard, events_new h]
    rw [hheard]
    refine ⟨List.Pairwise.nil, fun _ hid => absurd hid List.not_mem_nil,
      fun before e after heq => by simp at heq, fun id => ?_⟩
    simp [unitExists, SortedTable.contains, hunits]
  | @step past w o _ _ ih =>
    have hbefore := ih fun st hst => hunits st (List.mem_append_left _ hst)
    have hlast := hunits ⟨w, o⟩ (List.mem_append_right _ (List.mem_singleton.2 rfl))
    have hafter := Faithful.after (d := past.flatMap Step.drained) hbefore hlast
    rw [heard, List.flatMap_append, List.flatMap_singleton]
    exact hafter

/-- Something that is not told when it has been told before is told once at most. -/
lemma count_le_one_of_split (h : ∀ before after, l = before ++ e :: after → e ∉ before) :
    l.count e ≤ 1 := by
  by_cases hmem : e ∈ l
  · obtain ⟨before, after, rfl⟩ := List.append_of_mem hmem
    have hbefore : e ∉ before := h before after rfl
    have hafter : e ∉ after := by
      intro hagain
      obtain ⟨between, rest, rfl⟩ := List.append_of_mem hagain
      have hearlier := h (before ++ e :: between) rest (by simp)
      simp at hearlier
    rw [List.count_append, List.count_cons_self, List.count_eq_zero.2 hbefore,
      List.count_eq_zero.2 hafter]
  · rw [List.count_eq_zero.2 hmem]
    exact Nat.zero_le 1

/-- Of all events of a battle in which units come onto the map only by being spawned, those that
have been drained and those that are still queued: units come in strictly ascending order of their
numbers, each goes at most once, whatever else is told of a unit is told after it came and not after
it went, and the units that came and did not go are those in the world. -/
theorem stream_is_faithful {s : Setup} {past : List Step} (h : Run s past w)
    (hspawned : ∀ st ∈ past, ∀ typeName owner position rotation,
      st.operation ≠ .addUnit typeName owner position rotation) :
    ((arrivals (heard past w)).Pairwise fun i j => i.val < j.val) ∧
      (∀ id, (heard past w).count (.removed id) ≤ 1) ∧
      (∀ before e after, heard past w = before ++ e :: after → (∀ id, e ≠ .spawned id) →
        .spawned e.unit ∈ before ∧ .removed e.unit ∉ before) ∧
      ∀ id, w.unitExists id = true ↔ .spawned id ∈ heard past w ∧ .removed id ∉ heard past w := by
  have hfaithful := h.faithful hspawned
  refine ⟨hfaithful.ascending, fun id => ?_, hfaithful.timely, hfaithful.present⟩
  refine count_le_one_of_split fun before after heq => ?_
  exact (hfaithful.timely before (.removed id) after heq fun _ => nofun).2

/-- A tank that is switched on and killed, and another one that comes after it. -/
def Sample.relay : List Operation :=
  [.addPlayer (.new .human "" 0), .spawnUnit "tank" ⟨0⟩ 0 none, .setActivation ⟨1⟩ true,
    .takeEvents, .quietlyKill ⟨1⟩, .tick 9, .spawnUnit "tank" ⟨0⟩ 0 none]

theorem stream_is_faithful_relay :
    let b := Sample.battle Sample.relay
    Run Sample.setup b.1 b.2 ∧
      (∀ st ∈ b.1, ∀ typeName owner position rotation,
        st.operation ≠ .addUnit typeName owner position rotation) ∧
      heard b.1 b.2 = [.spawned ⟨1⟩, .activated ⟨1⟩, .removed ⟨1⟩, .spawned ⟨2⟩] ∧
      (arrivals (heard b.1 b.2)).Pairwise (fun i j => i.val < j.val) ∧
      b.2.unitExists ⟨1⟩ = false ∧ b.2.unitExists ⟨2⟩ = true := by
  obtain ⟨hcomplete, hheard⟩ : Operation.AllComplete Sample.relay Sample.start ∧
      heard (Sample.battle Sample.relay).1 (Sample.battle Sample.relay).2 =
        [.spawned ⟨1⟩, .activated ⟨1⟩, .removed ⟨1⟩, .spawned ⟨2⟩] := by
    decide +kernel
  have hrun := Sample.run_battle hcomplete
  have hspawned : ∀ st ∈ (Sample.battle Sample.relay).1, ∀ typeName owner position rotation,
      st.operation ≠ .addUnit typeName owner position rotation := by
    simp [Sample.battle, Sample.relay, replay]
  obtain ⟨hascending, -, -, hpresent⟩ := stream_is_faithful hrun hspawned
  refine ⟨hrun, hspawned, hheard, hascending, ?_, ?_⟩
  · rw [Bool.eq_false_iff, ne_eq, hpresent, hheard]
    decide
  · rw [hpresent, hheard]
    decide

end World

end Lockstep
