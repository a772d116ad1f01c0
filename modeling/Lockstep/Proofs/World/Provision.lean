import Lockstep.Proofs.Text.Upcase
import Lockstep.Proofs.World.Clearance
import Lockstep.Proofs.World.Lineage
/-!
# What was checked is there when it is needed

Before a battle begins, each registered type is checked under its own name.  Later it is looked up
by other names: by whatever spelling an operation gives, and by the name in upper case that a unit
keeps.  All of them lead to the same entries (`Registered.unitType_eq_ok`), so nothing that was
found by the check is ever missing.  With the occupants and the owners of units, which are kept
right in every battle, this leaves an operation on a unit nothing to refuse.
-/

namespace Lockstep

/-! ### Names -/

lemma NameTable.mem_place {ν : Type} {name n : String} {value v : ν} {l : List (String × ν)}
    (h : (n, v) ∈ NameTable.place name value l) : n = name ∧ v = value ∨ (n, v) ∈ l := by
  induction l with
  | nil =>
    cases List.mem_singleton.1 h
    exact .inl ⟨rfl, rfl⟩
  | cons e l ih =>
    obtain ⟨n', v'⟩ := e
    rw [NameTable.place] at h
    split at h
    · rename_i hname
      rcases List.mem_cons.1 h with heq | hmem
      · cases heq
        exact .inl ⟨hname.symm, rfl⟩
      · exact .inr (List.mem_cons_of_mem _ hmem)
    · rcases List.mem_cons.1 h with heq | hmem
      · cases heq
        exact .inr List.mem_cons_self
      · exact (ih hmem).imp_right (List.mem_cons_of_mem _)

namespace Definitions

open Text (upcase upcase_upcase)

variable {d : Definitions} {key name : String} {t : UnitType}

/-- Definitions that were registered one after the other. -/
inductive Registered : Definitions → Prop
  | empty : Registered .empty
  | unitType {e : Definitions} (t : UnitType) : Registered e → Registered (e.addUnitType t)
  | model {e : Definitions} (name : String) (m : Model) :
    Registered e → Registered (e.addModel name m)
  | script {e : Definitions} (name : String) (p : Script.Program) :
    Registered e → Registered (e.addScript name p)
  | weapon {e : Definitions} (name : String) (w : Weapon) :
    Registered e → Registered (e.addWeapon name w)
  | movementClass {e : Definitions} (c : MovementClass) :
    Registered e → Registered (e.addMovementClass c)

/-- A type of units stands under its own name. -/
lemma Registered.key_eq (h : d.Registered) (ht : (key, t) ∈ d.unitTypes.toList) :
    key = upcase t.name := by
  induction h with
  | empty => cases ht
  | unitType t' _ ih =>
    rcases NameTable.mem_place ht with ⟨rfl, rfl⟩ | hmem
    · rfl
    · exact ih hmem
  | model _ _ _ ih => exact ih ht
  | script _ _ _ ih => exact ih ht
  | weapon _ _ _ ih => exact ih ht
  | movementClass _ _ ih => exact ih ht

/-- A type of units is found by each spelling of its name. -/
theorem Registered.unitType_eq_ok (h : d.Registered) (ht : (key, t) ∈ d.unitTypes.toList)
    (hname : upcase name = upcase t.name) : d.unitType name = .ok t := by
  have hget : d.unitTypes.get? (upcase name) = some t := by
    rw [hname, ← h.key_eq ht]
    exact NameTable.get?_eq_some_iff.2 ht
  rw [Definitions.unitType, require, hget]

/-- Scripts are found by each spelling of a name. -/
lemma script_congr {name' : String} (hname : upcase name = upcase name') :
    d.script name = d.script name' := by
  rw [Definitions.script, Definitions.script, require, require, hname]

end Definitions

namespace World

open Script (Program)

variable {s : Setup} {past : List Step} {w : World} {id : UnitId} {t : UnitType} {u : UnitState}

/-! ### Sizes -/

/-- The length of a side of so many cells does not fit a word. -/
def SideOverflows (cells : Nat) : Prop :=
  ¬Overflow.FitsSigned ((Int32.ofNat cells).toInt * Terrain.tile)

instance (cells : Nat) : Decidable (SideOverflows cells) := inferInstanceAs (Decidable ¬_)

lemma halfSide_eq (cells : Nat) : halfSide cells = if SideOverflows cells then .error .multiply
    else .ok (((Int32.ofNat cells).toInt * Terrain.tile).tdiv 2) := by
  rw [halfSide, Overflow.signed]
  by_cases h : Overflow.FitsSigned ((Int32.ofNat cells).toInt * Terrain.tile)
  · have hnot : ¬SideOverflows cells := not_not_intro h
    rw [if_pos h, if_neg hnot]
    rfl
  · have hover : SideOverflows cells := h
    rw [if_neg h, if_pos hover]
    rfl

/-- Whether a footprint can be computed depends on its size, but not on the place. -/
lemma footprint_eq (w : World) (p : Vector3) (width depth : Nat) :
    ((SideOverflows width ∨ SideOverflows depth) ∧
        w.footprint p width depth = .error .multiply) ∨
      ((¬SideOverflows width ∧ ¬SideOverflows depth) ∧
        ∃ r, w.footprint p width depth = .ok r) := by
  rw [footprint, halfSide_eq, halfSide_eq]
  by_cases hwidth : SideOverflows width
  · rw [if_pos hwidth]
    exact .inl ⟨.inl hwidth, rfl⟩
  · rw [if_neg hwidth]
    by_cases hdepth : SideOverflows depth
    · rw [if_pos hdepth]
      exact .inl ⟨.inr hdepth, rfl⟩
    · rw [if_neg hdepth]
      exact .inr ⟨⟨hwidth, hdepth⟩, _, rfl⟩

lemma classFootprint_eq {c : MovementClass} {choice : ClassChoice}
    (hc : w.definitions.movementClass choice = .ok c) (p : Vector3) :
    ((SideOverflows c.width ∨ SideOverflows c.depth) ∧
        w.classFootprint p choice = .error (.halt (.overflow .multiply))) ∨
      ((¬SideOverflows c.width ∧ ¬SideOverflows c.depth) ∧
        ∃ r, w.classFootprint p choice = .ok r) := by
  simp only [classFootprint, hc]
  rcases footprint_eq w p c.width c.depth with ⟨hsize, hf⟩ | ⟨hsize, r, hf⟩
  · rw [hf]
    exact .inl ⟨hsize, rfl⟩
  · rw [hf]
    exact .inr ⟨hsize, r, rfl⟩

/-- A unit that has a footprint at one place has one at every place. -/
lemma exists_classFootprint {p : Vector3} {choice : ClassChoice} {r : Rect}
    (h : w.classFootprint p choice = .ok r) (p' : Vector3) :
    ∃ r', w.classFootprint p' choice = .ok r' := by
  obtain ⟨c, hc, -⟩ := classFootprint_eq_ok h
  rcases classFootprint_eq hc p with ⟨-, herror⟩ | ⟨hsize, -⟩
  · rw [h] at herror
    cases herror
  · rcases classFootprint_eq hc p' with ⟨hsize', -⟩ | ⟨-, hok⟩
    · exact absurd hsize' (not_or.2 hsize)
    · exact hok

/-! ### Yards -/

lemma exists_claim {g : Grid Occupancy} {r : Rect} {region : Region}
    (hr : g.region? r = some region) (hlt : r.x < 2 ^ 31 ∧ r.y < 2 ^ 31) (yard : YardMap)
    (id : UnitId) (isOpen : Bool) : ∃ g', claim g region yard id isOpen = .ok g' := by
  obtain ⟨⟨hx, hy⟩, hxlt, hylt⟩ := corner_of_region? hr hlt
  exact Grid.exists_modifyOverlay _ g (hx ▸ hxlt) (hy ▸ hylt)

lemma exists_isYardBlocked {r : Rect} {region : Region}
    (hr : w.occupancy.region? r = some region) (hlt : r.x < 2 ^ 31 ∧ r.y < 2 ^ 31) (yard : YardMap)
    (isOpen : Bool) : ∃ blocked, w.isYardBlocked (UInt32.ofNat region.x) (UInt32.ofNat region.y)
      yard isOpen = .ok blocked := by
  obtain ⟨⟨hx, hy⟩, hxlt, hylt⟩ := corner_of_region? hr hlt
  exact Grid.exists_anyOverlay _ w.occupancy (hx ▸ hxlt) (hy ▸ hylt)

lemma exists_claimedYardMap (hd : w.definitions.Fitting)
    {name : String} (ht : w.definitions.unitType name = .ok t) (typeName : String) :
    ∃ yard, claimedYardMap t typeName = .ok yard := by
  rw [claimedYardMap]
  by_cases hm : t.isMobile = true
  · exact ⟨none, if_pos hm⟩
  · obtain ⟨-, yard, -, hyard, -⟩ := hd ht (by simpa using hm)
    exact ⟨some yard, by rw [if_neg hm, hyard]⟩

/-! ### Units that are to come -/

/-- What stops a unit of a type from being put on the map: there are no numbers left, or the type
has a footprint the length of which does not fit a word. -/
def Overflows (w : World) (t : UnitType) : Prop :=
  w.nextUnit.toNat + 1 = UInt32.size ∨ ∃ c, w.definitions.movementClass t.movement = .ok c ∧
    (SideOverflows c.width ∨ SideOverflows c.depth)

/-- An operation answers, or there is an overflow that it stops by. -/
def AnswersOrOverflows (w : World) (t : UnitType) {α : Type} (r : Except Failure α) : Prop :=
  (∃ answer, r = .ok answer) ∨ Overflows w t ∧ ∃ cause, r = .error (.halt (.overflow cause))

lemma exists_createUnit {p : Player} {m : Model} {program : Program} {typeName : String}
    {owner : PlayerId} (hp : w.player owner = .ok p)
    (ht : w.definitions.unitType typeName = .ok t) (hm : w.definitions.model t.model = .ok m)
    (hs : w.definitions.script typeName = .ok program) (position : Vector3)
    (rotation : Option Angle) : ∃ u, w.createUnit typeName owner position rotation = .ok u ∧
      u.unitType = Text.upcase t.name := by
  rw [createUnit, hp, ht]
  simp only [bind, Except.bind, hm, hs]
  exact ⟨_, rfl, rfl⟩

lemma tryAddUnit_answers (hd : w.definitions.Fitting)
    (ht : w.definitions.unitType u.unitType = .ok t) {c : MovementClass}
    (hc : w.definitions.movementClass t.movement = .ok c) :
    AnswersOrOverflows w t ((tryAddUnit u).on w).1 := by
  simp only [tryAddUnit, Action.on_get_bind, Action.on_require_bind, Action.on_ofExcept_bind, ht]
  rcases classFootprint_eq hc u.position with ⟨hsize, hf⟩ | ⟨-, r, hf⟩
  · rw [hf]
    exact .inr ⟨.inr ⟨c, hc, hsize⟩, _, rfl⟩
  rw [hf]
  simp only
  cases hb : w.isBlocked r with
  | true => exact .inl ⟨none, rfl⟩
  | false =>
  simp only [Bool.false_eq_true, if_false]
  cases hr : w.occupancy.region? r with
  | none => exact .inl ⟨none, rfl⟩
  | some region =>
  obtain ⟨yardMap, hy⟩ := exists_claimedYardMap hd ht u.unitType
  simp only [Action.on_require_bind, Action.on_checked_bind, hy, Overflow.successor]
  by_cases hnext : w.nextUnit.toNat + 1 < UInt32.size
  · rw [if_pos hnext]
    have hstands : Stands w u.body t r := ⟨ht, hf, by simp [hr]⟩
    cases yardMap with
    | none => exact .inl ⟨_, rfl⟩
    | some yard =>
      -- the corner of a footprint on the map is a pair of words, so no claim overflows
      obtain ⟨g, hg⟩ := exists_claim hr hstands.lt yard ⟨w.nextUnit⟩ u.yardOpen
      simp only [Action.on_checked_bind, hg]
      exact .inl ⟨_, rfl⟩
  · rw [if_neg hnext]
    have hlast : w.nextUnit.toNat + 1 = UInt32.size := by
      have := w.nextUnit.toNat_lt
      simp only [UInt32.size] at hnext ⊢
      omega
    exact .inr ⟨.inl hlast, _, rfl⟩

/-- What the script of a new unit begins with adds nothing to what can go wrong. -/
lemma trySpawnUnit_answers {typeName : String} {owner : PlayerId} {position : Vector3}
    {rotation : Option Angle} (hu : w.createUnit typeName owner position rotation = .ok u)
    (ht : w.definitions.unitType typeName = .ok t)
    (hadd : ∀ u', u'.unitType = u.unitType → AnswersOrOverflows w t ((tryAddUnit u').on w).1) :
    AnswersOrOverflows w t ((trySpawnUnit typeName owner position rotation).on w).1 := by
  obtain ⟨program, hcreated⟩ := createUnit_eq_ok hu
  have hlift := hcreated.lift w.terrain.seaLevel t
  have htype : (liftToSea w.terrain.seaLevel t u).unitType = u.unitType := by
    rw [liftToSea]
    split <;> rfl
  have hadd := hadd _ htype
  simp only [trySpawnUnit, Action.on_get_bind, Action.on_require_bind, hu, ht]
  generalize liftToSea w.terrain.seaLevel t u = u' at hlift hadd ⊢
  rw [Action.on_bind]
  rcases tryAddUnit_joins u' w with ⟨answer, hon, hanswer⟩ | ⟨w₁, hon, hjoins⟩
  · rw [hon] at hadd ⊢
    rcases hadd with ⟨_ | id, rfl⟩ | ⟨hover, cause, rfl⟩
    · exact .inl ⟨none, rfl⟩
    · exact absurd rfl (hanswer id)
    · exact .inr ⟨hover, cause, rfl⟩
  · have hunit : w₁.units.get? ⟨w.nextUnit⟩ = some u' := by
      rw [hjoins.units, SortedTable.get?_insert, if_pos rfl]
    obtain ⟨w', hbegin, -⟩ := begin_new hunit hlift.environment
    rw [hon]
    exact .inl ⟨_, congrArg Prod.fst hbegin⟩

/-! ### Units in the world -/

/-- Nothing that can be asked of a unit on the map is refused: it has its footprint there, it can be
moved, report to its owner and tell others to leave, and if it is a building its yard can be
operated. -/
structure Served (w : World) (id : UnitId) : Prop where
  footprint : ∃ r, w.unitFootprint id = .ok r ∧ (w.occupancy.region? r).isSome
  move : ∀ position, ∃ moved, ((tryMoveUnit id position).on w).1 = .ok moved
  report : ∀ energy metal, ∃ granted, ((World.report id energy metal).on w).1 = .ok granted
  reportActual : ∀ apparentEnergy apparentMetal actualEnergy actualMetal, ∃ granted,
    ((World.reportActual id apparentEnergy apparentMetal actualEnergy actualMetal).on w).1 =
      .ok granted
  buggerOff : ((emitBuggerOff id).on w).1 = .ok ()
  yard : ∃ u t, w.units.get? id = some u ∧ w.definitions.unitType u.unitType = .ok t ∧
    (t.isMobile = false → ∀ isOpen, ∃ changed, ((trySetYardOpen id isOpen).on w).1 = .ok changed)

lemma tryMoveUnit_answers (hw : Settled w) (hu : w.units.get? id = some u) (position : Vector3) :
    ∃ moved, ((tryMoveUnit id position).on w).1 = .ok moved := by
  obtain ⟨t, old, hs⟩ := hw.exists_stands hu
  have ht : w.definitions.unitType u.unitType = .ok t := hs.unitType
  have hold : w.classFootprint u.position t.movement = .ok old := hs.footprint
  obtain ⟨new, hnew⟩ := exists_classFootprint hold position
  obtain ⟨oldRegion, ho⟩ := Option.isSome_iff_exists.1 hs.onMap
  cases hm : t.isMobile with
  | false =>
    simp only [tryMoveUnit, Action.on_get_bind, Action.on_require_bind, unit_eq_ok.2 hu, ht, hm]
    exact ⟨false, rfl⟩
  | true =>
    rcases tryMoveUnit_on hu ht hm hold ho hnew with ⟨-, hon⟩ | ⟨-, newRegion, -, hon⟩
    · exact ⟨false, congrArg Prod.fst hon⟩
    · exact ⟨true, congrArg Prod.fst hon⟩

lemma reportActual_answers (hu : w.units.get? id = some u)
    (howner : u.owner.val.toNat < w.players.size) (apparentEnergy : Energy) (apparentMetal : Metal)
    (actualEnergy : Energy) (actualMetal : Metal) : ∃ granted,
      ((reportActual id apparentEnergy apparentMetal actualEnergy actualMetal).on w).1 =
        .ok granted := by
  have hp : w.player u.owner = .ok w.players[u.owner.val.toNat] := by
    rw [World.player, Array.getElem?_eq_getElem howner]
  simp only [reportActual, Action.on_get_bind, Action.on_require_bind, unit_eq_ok.2 hu, hp]
  exact ⟨_, rfl⟩

lemma trySetYardOpen_answers (hw : Settled w) (hd : w.definitions.Fitting)
    (hu : w.units.get? id = some u) (ht : w.definitions.unitType u.unitType = .ok t)
    (hm : t.isMobile = false) (isOpen : Bool) :
    ∃ changed, ((trySetYardOpen id isOpen).on w).1 = .ok changed := by
  obtain ⟨t', r, hs⟩ := hw.exists_stands hu
  obtain ⟨region, hregion⟩ := Option.isSome_iff_exists.1 hs.onMap
  obtain ⟨-, yard, -, hyard, -⟩ := hd ht hm
  obtain ⟨blocked, hblocked⟩ := exists_isYardBlocked hregion hs.lt yard isOpen
  obtain ⟨g, hg⟩ := exists_claim hregion hs.lt yard id isOpen
  simp only [trySetYardOpen, Action.on_get_bind, Action.on_ofExcept_bind, Action.on_require_bind,
    unitFootprint_eq_ok hu hs, unit_eq_ok.2 hu, ht, hyard, footprintRegion_eq_ok.2 hregion,
    Action.on_checked_bind, hblocked]
  cases blocked with
  | true => exact ⟨false, rfl⟩
  | false =>
    simp only [Bool.false_eq_true, if_false, Action.on_checked_bind, hg, Action.on_set_bind]
    rw [Action.on_bind, updateUnit_on (w := { w with occupancy := g }) hu]
    exact ⟨true, rfl⟩

/-- **What is checked before a battle is enough.**  A registered type can be spawned under each
spelling of its name, anywhere and for everybody who is there: the unit is put on the map or finds
no place, but nothing is missing.  What can still stop the operation are overflows, when the numbers
of units are used up or a footprint is too long to be measured.  And no unit on the map is ever
refused what it is asked. -/
theorem validation_suffices (hd : s.definitions.Registered) (h : Run s past w) :
    (∀ {key t name owner p}, (key, t) ∈ s.definitions.unitTypes.toList →
      Text.upcase name = Text.upcase t.name → w.player owner = .ok p → ∀ position rotation,
        (∃ answer, ((trySpawnUnit name owner position rotation).on w).1 = .ok answer) ∨
          Overflows w t ∧ ∃ cause, ((trySpawnUnit name owner position rotation).on w).1 =
            .error (.halt (.overflow cause))) ∧
    ∀ {id u}, w.units.get? id = some u → Served w id := by
  have hw := h.settled
  have hfitting : w.definitions.Fitting := h.fitting
  refine ⟨fun {key t name owner p} hmem hname hp position rotation => ?_, fun {id u} hu => ?_⟩
  · obtain ⟨m, program, c, hmodel, hscript, hclass, -⟩ :=
      Setup.checkUnitType_eq_ok (Setup.checkUnitType_of_validate h.valid hmem)
    have ht := hd.unitType_eq_ok hmem hname
    -- the check looked the script up under the name that the type has itself
    rw [← Definitions.script_congr hname] at hscript
    rw [← h.definitions] at ht hmodel hscript hclass
    obtain ⟨u, hu, htype⟩ := exists_createUnit hp ht hmodel hscript position rotation
    refine trySpawnUnit_answers hu ht fun u' hu' => tryAddUnit_answers hfitting ?_ hclass
    -- the unit keeps the name in upper case, which is one more spelling of it
    rw [hu', htype, h.definitions]
    exact hd.unitType_eq_ok hmem (Text.upcase_upcase t.name)
  · obtain ⟨t, r, hs⟩ := hw.exists_stands hu
    have hreport := reportActual_answers hu (h.founded.owner hu)
    exact
      { footprint := hw.footprint hu
        move := tryMoveUnit_answers hw hu
        report := fun energy metal => hreport energy metal energy metal
        reportActual := hreport
        buggerOff := by
          obtain ⟨_, _, -, -, hon⟩ := hw.emitBuggerOff_eq hu
          exact congrArg Prod.fst hon
        yard := ⟨u, t, hu, hs.unitType, trySetYardOpen_answers hw hfitting hu hs.unitType⟩ }

lemma Sample.registered_definitions : Sample.definitions.Registered :=
  .unitType _ <| .unitType _ <| .unitType _ <| .script "LAB" program <| .script "PAD" program <|
    .script "TANK" program <| .model "BOX" ⟨0, []⟩ .empty

/-- A tank and a lab, each spawned under a spelling of its own. -/
def Sample.spelled : List Operation :=
  [.addPlayer (.new .human "" 0), .spawnUnit "tAnK" ⟨0⟩ 0 none,
    .spawnUnit "Lab" ⟨0⟩ (.ofWholes 16 0 0) none]

theorem validation_suffices_lab :
    let w := (Sample.battle Sample.spelled).2
    Sample.setup.definitions.Registered ∧ Run Sample.setup (Sample.battle Sample.spelled).1 w ∧
      (∃ answer, ((trySpawnUnit "lAB" ⟨0⟩ (.ofWholes 0 0 16) none).on w).1 = .ok answer) ∧
      Served w ⟨1⟩ ∧ Served w ⟨2⟩ := by
  obtain ⟨hcomplete, hlab, hname, hplayer, hnext, hunits⟩ :
      Operation.AllComplete Sample.spelled Sample.start ∧
      ("LAB", Sample.unitType "LAB" false .groundWhenOpen) ∈
        Sample.setup.definitions.unitTypes.toList ∧
      Text.upcase "lAB" = Text.upcase (Sample.unitType "LAB" false .groundWhenOpen).name ∧
      ((Sample.battle Sample.spelled).2.player ⟨0⟩).toOption.isSome = true ∧
      (Sample.battle Sample.spelled).2.nextUnit = 3 ∧
      ∀ id ∈ [(⟨1⟩ : UnitId), ⟨2⟩],
        ((Sample.battle Sample.spelled).2.units.get? id).isSome = true := by
    decide +kernel
  have hrun := Sample.run_battle hcomplete
  obtain ⟨hspawn, hserved⟩ := validation_suffices Sample.registered_definitions hrun
  obtain ⟨p, hp⟩ : ∃ p, (Sample.battle Sample.spelled).2.player ⟨0⟩ = .ok p := by
    cases h : (Sample.battle Sample.spelled).2.player ⟨0⟩ with
    | error cause => rw [h] at hplayer; cases hplayer
    | ok p => exact ⟨p, rfl⟩
  have hfits : ¬Overflows (Sample.battle Sample.spelled).2
      (Sample.unitType "LAB" false .groundWhenOpen) := by
    rintro (hlast | ⟨c, hc, hsize⟩)
    · rw [hnext] at hlast
      exact absurd hlast (by decide)
    · cases hc
      exact absurd hsize (by decide)
  obtain ⟨tank, htank⟩ := Option.isSome_iff_exists.1 (hunits ⟨1⟩ (by simp))
  obtain ⟨lab, hlab'⟩ := Option.isSome_iff_exists.1 (hunits ⟨2⟩ (by simp))
  refine ⟨Sample.registered_definitions, hrun, ?_, hserved htank, hserved hlab'⟩
  exact (hspawn hlab hname hp (.ofWholes 0 0 16) none).resolve_right fun h => hfits h.1

end World

end Lockstep
