import Lockstep.Proofs.World.Provision
import Lockstep.Proofs.World.Walls
/-!
# Moving is lifting and placing anew

What belongs to a unit is not in its own way.  So to look for what is in the way of a unit, itself
left aside, is to look at the map off which the unit is lifted (`isBlockedBut_eq_lifted`), and to
move it is to lift it and to let it occupy its new footprint.  The operations do neither: they leave
cells aside one by one and free the old footprint only.  In a battle this comes to the same, since
there a unit occupies its footprint and nothing else.

Moving back undoes a move (`relocate_relocate`).  Nobody is in the way, for no cell that the unit
left has a wall of somebody else on it.
-/

namespace Lockstep.World

variable {s : Setup} {past : List Step} {w : World} {id : UnitId} {u : UnitState} {t : UnitType}
variable {position : Vector3} {old new : Rect} {oldRegion newRegion : Region}

/-! ### Lifting -/

/-- The world with a unit lifted off the map: no cell is occupied or claimed by it. -/
def lifted (w : World) (id : UnitId) : World :=
  { w with occupancy := w.occupancy.map (release id) }

/-- A cell is in the way of others than a unit if it is in the way once the unit is gone. -/
lemma blocksBut_eq (c : Occupancy) (id : UnitId) : c.blocksBut id = (release id c).blocks := by
  obtain ⟨occupant, claim⟩ := c
  rw [Occupancy.blocksBut, Occupancy.blocks, release]
  congr 1
  · cases occupant with
    | none => rfl
    | some o => by_cases ho : o = .unit id <;> simp [ho]
  · cases claim with
    | none => rfl
    | some k => by_cases hk : k.unit = id <;> simp [Option.filter, hk]

theorem isBlockedBut_eq_lifted (w : World) (r : Rect) (id : UnitId) :
    w.isBlockedBut r id = (w.lifted id).isBlocked r := by
  rw [isBlockedBut, isBlocked, lifted, Grid.region?_map]
  cases w.occupancy.region? r with
  | none => rfl
  | some region => simp only [isRegionBlocked, Grid.anyIn_map, blocksBut_eq]

/-! ### Cells -/

/-- What a cell holds after a unit has left some cells and then occupied others. -/
def shift (id : UnitId) (leaves enters : Bool) (c : Occupancy) : Occupancy :=
  if enters then { c with occupant := some (.unit id) }
  else if leaves then vacate (.unit id) c else c

@[simp] lemma shift_claim (id : UnitId) (leaves enters : Bool) (c : Occupancy) :
    (shift id leaves enters c).claim = c.claim := by
  cases enters <;> cases leaves <;> simp [shift]

/-- If the unit occupied just the cells that it leaves, the others keep their occupants. -/
lemma shift_occupant {c : Occupancy} {leaves : Bool}
    (hself : c.occupant = some (.unit id) ↔ leaves = true) (enters : Bool) :
    (shift id leaves enters c).occupant =
      if enters then some (.unit id) else (release id c).occupant := by
  cases enters with
  | true => rfl
  | false =>
    cases leaves with
    | true => exact vacate_occupant _ c
    | false => simp [shift, release, mt hself.1]

/-- A cell that the unit occupied is occupied again, and another one that it entered was free. -/
lemma shift_shift {c : Occupancy} {leaves enters : Bool}
    (hself : c.occupant = some (.unit id) ↔ leaves = true)
    (hfree : enters = true → c.blocksBut id = false) :
    shift id enters leaves (shift id leaves enters c) = c := by
  obtain ⟨occupant, claim⟩ := c
  cases leaves with
  | true =>
    cases hself.2 rfl
    cases enters <;> simp [shift, vacate]
  | false =>
    cases enters with
    | false => rfl
    | true =>
      have hnone : occupant = none := by
        cases occupant with
        | none => rfl
        | some o =>
          cases (Occupancy.blocksBut_eq_false.1 (hfree rfl)).1 o rfl
          cases hself.1 rfl
      simp [shift, vacate, hnone]

/-! ### Moving -/

lemma relocate_ground (w : World) (id : UnitId) (position : Vector3) (old new : Region) :
    SameGround w (w.relocate id position old new) :=
  ⟨rfl, rfl, by simp [relocate, occupy], by simp [relocate, occupy]⟩

lemma get?_relocate (hu : w.units.get? id = some u) (old new : Region) :
    (w.relocate id position old new).units.get? id = some { u with position := position } := by
  rw [relocate, SortedTable.get?_modify, if_pos rfl, hu, Option.map_some]

lemma at?_relocate (ho : w.occupancy.region? old = some oldRegion)
    (hn : w.occupancy.region? new = some newRegion) (x y : Nat) :
    (w.relocate id position oldRegion newRegion).occupancy.at? x y =
      (w.occupancy.at? x y).map (shift id (old.contains x y) (new.contains x y)) :=
  at?_occupy_vacate ho hn _ x y

/-! ### Where a unit stands -/

/-- A unit occupies a rectangle and no cell beside it. -/
def OccupiesJust (w : World) (id : UnitId) (r : Rect) : Prop :=
  ∀ {x y c}, w.occupancy.at? x y = some c →
    (c.occupant = some (.unit id) ↔ r.contains x y = true)

lemma Settled.occupiesJust (hw : Settled w) (hu : w.units.get? id = some u)
    (hs : Stands w u.body t old) (hm : t.isMobile = true) : OccupiesJust w id old := by
  intro x y c hc
  rw [hw.occupants hc, body?, hu]
  simp [hs.covers_iff, hm]

/-- The occupants after a move are those of the map off which the unit was lifted, with the unit on
its new footprint. -/
lemma occupants_relocate (hself : OccupiesJust w id old)
    (ho : w.occupancy.region? old = some oldRegion)
    (hn : w.occupancy.region? new = some newRegion) :
    (w.relocate id position oldRegion newRegion).occupancy.map Occupancy.occupant =
      (occupy (w.lifted id).occupancy newRegion (.unit id)).map Occupancy.occupant := by
  refine Grid.ext_at? ?_ ?_ fun x y => ?_
  · simp [relocate, occupy, lifted, Grid.map]
  · simp [relocate, occupy, lifted, Grid.map]
  · have hn' : (w.lifted id).occupancy.region? new = some newRegion := hn
    rw [Grid.at?_map, Grid.at?_map, at?_relocate ho hn, at?_occupy hn', lifted, Grid.at?_map]
    cases hc : w.occupancy.at? x y with
    | none => rfl
    | some c =>
      simp only [Option.map_some, shift_occupant (hself hc), apply_ite Occupancy.occupant]

/-- Nothing but the unit itself is in the way of moving back: on the footprint that it left, the
walls are its own. -/
lemma not_isBlockedBut_relocate (hw : Unwalled w) (hself : OccupiesJust w id old)
    (ho : w.occupancy.region? old = some oldRegion)
    (hn : w.occupancy.region? new = some newRegion) :
    (w.relocate id position oldRegion newRegion).isBlockedBut old id = false := by
  have hregion : (w.relocate id position oldRegion newRegion).occupancy.region? old =
      some oldRegion := (region?_congr (relocate_ground ..) old).trans ho
  rw [isBlockedBut, hregion]
  refine Grid.anyIn_eq_false_iff.2 fun {x y c'} hxy hc' => ?_
  have hin := (mem_cells_of_onMap ho).1 hxy
  obtain ⟨c, hc, rfl⟩ := Option.map_eq_some_iff.1 ((at?_relocate ho hn x y).symm.trans hc')
  have hoccupant := (hself hc).2 hin
  refine Occupancy.blocksBut_eq_false.2 ⟨fun o ho => ?_, fun k hk => ?_⟩
  · rw [shift_occupant (hself hc), release, if_pos hoccupant] at ho
    split at ho
    · exact (Option.some.inj ho).symm
    · cases ho
  · rw [shift_claim] at hk
    rw [or_iff_not_imp_right, Bool.not_eq_true]
    intro hp
    exact (Occupant.unit.inj (hw hc hoccupant hk hp)).symm

/-- Moving back undoes a move. -/
theorem relocate_relocate (hu : w.units.get? id = some u) (hself : OccupiesJust w id old)
    (ho : w.occupancy.region? old = some oldRegion)
    (hn : w.occupancy.region? new = some newRegion) (hfree : w.isBlockedBut new id = false) :
    (w.relocate id position oldRegion newRegion).relocate id u.position newRegion oldRegion =
      w := by
  have hunits : (w.units.modify id fun v => { v with position := position }).modify id
      (fun v => { v with position := u.position }) = w.units := by
    refine SortedTable.ext fun other => ?_
    rw [SortedTable.get?_modify, SortedTable.get?_modify]
    split
    · rename_i hother
      cases Ranked.rank_eq_iff.1 hother
      rw [hu]
      rfl
    · rfl
  have hcells : ((w.relocate id position oldRegion newRegion).relocate id u.position newRegion
      oldRegion).occupancy = w.occupancy := by
    have hground : SameGround w (w.relocate id position oldRegion newRegion) := relocate_ground ..
    have hback := hground.trans (relocate_ground _ id u.position newRegion oldRegion)
    refine Grid.ext_at? hback.width hback.height fun x y => ?_
    rw [at?_relocate ((region?_congr hground new).trans hn) ((region?_congr hground old).trans ho),
      at?_relocate ho hn]
    cases hc : w.occupancy.at? x y with
    | none => rfl
    | some c =>
      have hcell := shift_shift (hself hc) fun hin => not_isBlockedBut hn hfree hc hin
      exact congrArg some hcell
  calc (w.relocate id position oldRegion newRegion).relocate id u.position newRegion oldRegion
    _ = { w with
          units := (w.units.modify id fun v => { v with position := position }).modify id
            fun v => { v with position := u.position }
          occupancy := ((w.relocate id position oldRegion newRegion).relocate id u.position
            newRegion oldRegion).occupancy } := rfl
    _ = w := by rw [hunits, hcells]

/-- **Moving is lifting and placing anew.**  In every world that a battle comes to, what is in the
way of a mobile unit, itself left aside, is what is in the way of everybody on the map off which the
unit is lifted.  The unit can be moved exactly if nothing is in the way of its new footprint there.
Then it is at its new place, and the occupants are those of that map with the unit on its new
footprint; and moving it back succeeds and restores the world as it was. -/
theorem moving_is_lifting_and_placing (h : Run s past w) (hu : w.units.get? id = some u)
    (ht : w.definitions.unitType u.unitType = .ok t) (hm : t.isMobile = true)
    (position : Vector3) :
    (∀ r, w.isBlockedBut r id = (w.lifted id).isBlocked r) ∧
    ∃ new, w.classFootprint position t.movement = .ok new ∧
      ((tryMoveUnit id position).on w).1 = .ok (!(w.lifted id).isBlocked new) ∧
      ((w.lifted id).isBlocked new = false →
        let w' := ((tryMoveUnit id position).on w).2
        w'.units.get? id = some { u with position := position } ∧
        (∃ region, w.occupancy.region? new = some region ∧
          w'.occupancy.map Occupancy.occupant =
            (occupy (w.lifted id).occupancy region (.unit id)).map Occupancy.occupant) ∧
        (tryMoveUnit id u.position).on w' = (.ok true, w)) := by
  refine ⟨fun r => isBlockedBut_eq_lifted w r id, ?_⟩
  obtain ⟨t', old, hs⟩ := h.settled.exists_stands hu
  cases Except.ok.inj (hs.unitType.symm.trans ht)
  have hself : OccupiesJust w id old := h.settled.occupiesJust hu hs hm
  have hold : w.classFootprint u.position t.movement = .ok old := hs.footprint
  obtain ⟨oldRegion, ho⟩ := Option.isSome_iff_exists.1 hs.onMap
  obtain ⟨new, hnew⟩ := exists_classFootprint hold position
  refine ⟨new, hnew, ?_⟩
  rw [← isBlockedBut_eq_lifted]
  rcases tryMoveUnit_on hu ht hm hold ho hnew with ⟨hb, hon⟩ | ⟨hb, newRegion, hn, hon⟩
  · rw [hb, hon]
    exact ⟨rfl, nofun⟩
  · rw [hb, hon]
    have hu' : (w.relocate id position oldRegion newRegion).units.get? id =
        some { u with position := position } := get?_relocate hu ..
    refine ⟨rfl, fun _ => ⟨hu', ⟨newRegion, hn, occupants_relocate hself ho hn⟩, ?_⟩⟩
    -- the way back is a move in the world to which the unit has moved
    have hground : SameGround w (w.relocate id position oldRegion newRegion) := relocate_ground ..
    have hback := tryMoveUnit_on hu' ht hm ((classFootprint_congr hground ..).trans hnew)
      ((region?_congr hground new).trans hn) ((classFootprint_congr hground ..).trans hold)
    rcases hback with ⟨hblocked, -⟩ | ⟨-, region, hregion, hon'⟩
    · rw [not_isBlockedBut_relocate h.unwalled hself ho hn] at hblocked
      cases hblocked
    · cases Option.some.inj (ho.symm.trans ((region?_congr hground old).symm.trans hregion))
      rw [hon', relocate_relocate hu hself ho hn hb]

/-- A tank and, next to it, an open lab. -/
def Sample.besideTheYard : List Operation :=
  [.addPlayer (.new .human "" 0), .spawnUnit "lab" ⟨0⟩ 0 none, .setYardOpen ⟨1⟩ true,
    .spawnUnit "tank" ⟨0⟩ (.ofWholes 16 0 0) none]

/-- The tank drives onto the yard and back. -/
theorem moving_is_lifting_and_placing_tank :
    let b := Sample.battle Sample.besideTheYard
    Run Sample.setup b.1 b.2 ∧ ∃ u, b.2.units.get? ⟨2⟩ = some u ∧
      let w' := ((tryMoveUnit ⟨2⟩ 0).on b.2).2
      ((tryMoveUnit ⟨2⟩ 0).on b.2).1 = .ok true ∧
        w'.units.get? ⟨2⟩ = some { u with position := 0 } ∧
        (tryMoveUnit ⟨2⟩ u.position).on w' = (.ok true, b.2) := by
  intro b
  obtain ⟨hcomplete, htank, hfootprint, hblocked⟩ :
      Operation.AllComplete Sample.besideTheYard Sample.start ∧
      b.2.body? ⟨2⟩ = some ⟨"TANK", .ofWholes 16 0 0, false⟩ ∧
      b.2.classFootprint 0 (Sample.unitType "TANK" true .always).movement = .ok ⟨1, 1, 1, 1⟩ ∧
      (b.2.lifted ⟨2⟩).isBlocked ⟨1, 1, 1, 1⟩ = false := by decide +kernel
  have hrun : Run Sample.setup b.1 b.2 := Sample.run_battle hcomplete
  obtain ⟨u, hu, hbody⟩ := body?_eq_some_iff.1 htank
  have ht : b.2.definitions.unitType u.unitType = .ok (Sample.unitType "TANK" true .always) := by
    rw [show u.unitType = "TANK" from congrArg Body.unitType hbody, hrun.definitions]
    decide +kernel
  obtain ⟨-, new, hnew, hanswer, hmoved⟩ := moving_is_lifting_and_placing hrun hu ht rfl 0
  cases Except.ok.inj (hnew.symm.trans hfootprint)
  rw [hblocked] at hanswer
  obtain ⟨hplace, -, hback⟩ := hmoved hblocked
  exact ⟨hrun, u, hu, hanswer, hplace, hback⟩

end Lockstep.World
