import Lockstep.Proofs.World.Isolation
import Lockstep.Proofs.World.Occupants
/-!
# Clearing a footprint

A unit that clears its footprint goes through the cells and tells the unit on each of them to leave,
so it comes to a unit as often as that has cells there.  But whoever has been told has an order, and
does not listen any more.  Telling units one after the other is therefore the same as telling
everyone on the list once (`forM_tellToBuggerOff_eq`), and the order and the repetitions of the list
do not matter (`askToLeave_askToLeave`).
-/

namespace Lockstep

namespace UnitState

variable {u : UnitState} {rect : Rect}

/-- What a unit makes of being told to leave a rectangle: it listens if it has nothing else to do.
-/
def askedToLeave (rect : Rect) (u : UnitState) : UnitState :=
  if u.orders.isEmpty then u.addOrder (.buggerOff rect) else u

lemma askedToLeave_of_idle (h : u.orders = []) :
    u.askedToLeave rect = { u with orders := [.buggerOff rect] } := by
  simp only [askedToLeave, addOrder, h, List.isEmpty_nil, if_true, List.nil_append]

lemma askedToLeave_of_busy (h : u.orders ≠ []) : u.askedToLeave rect = u := by
  rw [askedToLeave, if_neg (by simpa using h)]

/-- A unit does not listen twice. -/
@[simp] lemma askedToLeave_askedToLeave (rect : Rect) (u : UnitState) :
    (u.askedToLeave rect).askedToLeave rect = u.askedToLeave rect := by
  by_cases h : u.orders = []
  · rw [askedToLeave_of_idle h, askedToLeave_of_busy (List.cons_ne_nil _ _)]
  · rw [askedToLeave_of_busy h, askedToLeave_of_busy h]

end UnitState

namespace World

variable {s : Setup} {past : List Step} {w : World} {id other : UnitId} {u : UnitState}
  {rect : Rect} {ids ids' : List UnitId}

/-- Everyone on a list is told to leave a rectangle. -/
def askToLeave (w : World) (ids : List UnitId) (rect : Rect) : World :=
  { w with units := w.units.mapWithKey fun id u => if id ∈ ids then u.askedToLeave rect else u }

lemma get?_askToLeave (w : World) (ids : List UnitId) (rect : Rect) (id : UnitId) :
    (w.askToLeave ids rect).units.get? id =
      (w.units.get? id).map fun u => if id ∈ ids then u.askedToLeave rect else u :=
  SortedTable.get?_mapWithKey ..

/-- Worlds that differ in units only are equal if all units are. -/
lemma ext_units {w' : World} (h : w' = { w with units := w'.units })
    (hunits : ∀ id, w'.units.get? id = w.units.get? id) : w' = w := by
  rw [h, SortedTable.ext hunits]

theorem askToLeave_askToLeave (w : World) (ids ids' : List UnitId) (rect : Rect) :
    (w.askToLeave ids rect).askToLeave ids' rect = w.askToLeave (ids ++ ids') rect := by
  refine ext_units rfl fun id => ?_
  simp only [get?_askToLeave, Option.map_map]
  congr 1
  funext u
  simp only [Function.comp_apply, List.mem_append]
  by_cases h : id ∈ ids <;> by_cases h' : id ∈ ids' <;> simp [h, h']

lemma askToLeave_congr (h : ∀ id, id ∈ ids ↔ id ∈ ids') :
    w.askToLeave ids rect = w.askToLeave ids' rect := by
  simp only [askToLeave, h]

lemma unitExists_askToLeave (w : World) (ids : List UnitId) (rect : Rect) (id : UnitId) :
    (w.askToLeave ids rect).unitExists id = w.unitExists id := by
  simp [unitExists, SortedTable.contains, get?_askToLeave]

lemma tellToBuggerOff_eq (h : w.unitExists id = true) :
    (tellToBuggerOff id rect).on w = (.ok (), w.askToLeave [id] rect) := by
  obtain ⟨u, hu⟩ := Option.isSome_iff_exists.1 h
  rw [tellToBuggerOff, updateUnit_on hu]
  refine congrArg (Prod.mk _) (ext_units rfl fun other => ?_)
  rw [get?_askToLeave, modifyUnit, SortedTable.get?_modify]
  simp only [List.mem_singleton, Ranked.rank_eq_iff]
  split
  · rfl
  · exact Option.map_id'.symm

/-- Units that are there can be told one after the other; nobody goes away by that. -/
theorem forM_tellToBuggerOff_eq (h : ∀ id ∈ ids, w.unitExists id = true) :
    (ids.forM fun id => tellToBuggerOff id rect).on w = (.ok (), w.askToLeave ids rect) := by
  -- the induction is on the list; telling the first one and then the rest is telling all
  induction ids generalizing w with
  | nil => exact congrArg (Prod.mk _) (ext_units rfl fun id => by simp [get?_askToLeave]).symm
  | cons id ids ih =>
    rw [Action.on_forM_cons, tellToBuggerOff_eq (h id List.mem_cons_self)]
    refine (ih fun other hother => ?_).trans (by rw [askToLeave_askToLeave]; rfl)
    rw [unitExists_askToLeave]
    exact h other (List.mem_cons_of_mem id hother)

/-! ### Who is told -/

lemma Settled.exists_stands (hw : Settled w) (hu : w.units.get? id = some u) :
    ∃ t r, Stands w u.body t r :=
  hw.standing (body?_eq_some_iff.2 ⟨u, hu, rfl⟩)

/-- A unit has a cell of a footprint just if it covers one. -/
lemma Settled.onFootprint_iff (hw : Settled w) :
    w.OnFootprint id other rect ↔ w.unitFootprint id = .ok rect ∧
      ∃ x y : Nat, rect.contains x y = true ∧ w.Covers other x y := by
  have cell : ∀ x y, (w.occupancy.at? x y).map Occupancy.occupant = some (some (.unit other)) ↔
      w.Covers other x y := fun x y => by
    refine Option.map_eq_some_iff.trans ⟨?_, hw.exists_occupant⟩
    rintro ⟨c, hc, ho⟩
    exact hw.covers_iff.2 ((hw.occupants hc).1 ho)
  simp only [OnFootprint, cell]

/-- Whoever stands on a cell is in the world. -/
lemma Settled.unitExists_of_onFootprint (hw : Settled w) (h : w.OnFootprint id other rect) :
    w.unitExists other = true := by
  obtain ⟨-, x, y, -, u, -, -, hu, -⟩ := hw.onFootprint_iff.1 h
  exact unitExists_of_get? hu

lemma emitBuggerOff_eq {region : Region} (hr : w.unitFootprint id = .ok rect)
    (hregion : w.occupancy.region? rect = some region)
    (hids : ∀ other, w.OnFootprint id other rect → w.unitExists other = true) :
    (emitBuggerOff id).on w = (.ok (), w.askToLeave (w.unitsIn region) rect) := by
  simp only [emitBuggerOff, Action.on_get_bind, Action.on_ofExcept_bind, Action.on_require_bind,
    hr, footprintRegion_eq_ok.2 hregion]
  exact forM_tellToBuggerOff_eq fun other hother =>
    hids other ⟨hr, (mem_unitsIn_iff hregion).1 hother⟩

lemma Settled.emitBuggerOff_eq (hw : Settled w) (hu : w.units.get? id = some u) :
    ∃ r region, w.unitFootprint id = .ok r ∧ w.occupancy.region? r = some region ∧
      (emitBuggerOff id).on w = (.ok (), w.askToLeave (w.unitsIn region) r) := by
  obtain ⟨t, r, hs⟩ := hw.exists_stands hu
  obtain ⟨region, hregion⟩ := Option.isSome_iff_exists.1 hs.onMap
  have hr := unitFootprint_eq_ok hu hs
  exact ⟨r, region, hr, hregion,
    World.emitBuggerOff_eq hr hregion fun _ => hw.unitExists_of_onFootprint⟩

/-- What comes of clearing a footprint: the units with a cell of it that have nothing else to do are
ordered to leave, and nothing else is different. -/
structure Cleared (id : UnitId) (rect : Rect) (w w' : World) : Prop where
  rest : w' = { w with units := w'.units }
  ids : ∀ other, w'.unitExists other = w.unitExists other
  units : ∀ {other u u'}, w.units.get? other = some u → w'.units.get? other = some u' →
    u' = { u with orders := u'.orders }
  told : ∀ {other u u'}, w.units.get? other = some u → w'.units.get? other = some u' →
    (u'.orders ≠ u.orders ↔ w.OnFootprint id other rect ∧ u.orders = [])
  order : ∀ {other u u'}, w.units.get? other = some u → w'.units.get? other = some u' →
    u'.orders ≠ u.orders → u'.orders = [.buggerOff rect]

lemma cleared_askToLeave (h : ∀ other, other ∈ ids ↔ w.OnFootprint id other rect) :
    Cleared id rect w (w.askToLeave ids rect) := by
  have unit : ∀ {other u u'}, w.units.get? other = some u →
      (w.askToLeave ids rect).units.get? other = some u' →
      u' = { u with orders := u'.orders } ∧
        (u'.orders ≠ u.orders ↔ w.OnFootprint id other rect ∧ u.orders = []) ∧
        (u'.orders ≠ u.orders → u'.orders = [.buggerOff rect]) := by
    intro other u u' hu hu'
    rw [get?_askToLeave, hu] at hu'
    cases hu'
    rw [← h]
    by_cases hin : other ∈ ids
    · by_cases hidle : u.orders = []
      · simp [hin, hidle, UnitState.askedToLeave_of_idle hidle]
      · simp [hidle, UnitState.askedToLeave_of_busy hidle]
    · simp [hin]
  exact
    { rest := rfl
      ids := unitExists_askToLeave w ids rect
      units := fun hu hu' => (unit hu hu').1
      told := fun hu hu' => (unit hu hu').2.1
      order := fun hu hu' => (unit hu hu').2.2 }

/-- **Everyone on a footprint is told to leave it, once.**  In every world that a battle comes to,
each unit can clear its footprint.  Exactly the units that occupy a cell of it and have no orders
get one, whatever the number of their cells; nothing else is different afterwards.  Clearing the
footprint once more changes nothing. -/
theorem footprint_is_cleared (h : Run s past w) (hu : w.units.get? id = some u) :
    ∃ r w', w.unitFootprint id = .ok r ∧ (emitBuggerOff id).on w = (.ok (), w') ∧
      Cleared id r w w' ∧
      (∀ other, w.OnFootprint id other r ↔
        ∃ x y : Nat, r.contains x y = true ∧ w.Covers other x y) ∧
      (emitBuggerOff id).on w' = (.ok (), w') := by
  have hw := h.settled
  obtain ⟨r, region, hr, hregion, hon⟩ := hw.emitBuggerOff_eq hu
  have hmem : ∀ other, other ∈ w.unitsIn region ↔ w.OnFootprint id other r := fun other => by
    rw [mem_unitsIn_iff hregion, OnFootprint, and_iff_right hr]
  have hisolated : Isolated id w ((emitBuggerOff id).on w).2 := isolated_emitBuggerOff w
  rw [hon] at hisolated
  refine ⟨r, _, hr, hon, cleared_askToLeave hmem, fun other => ?_, ?_⟩
  · rw [hw.onFootprint_iff, and_iff_right hr]
  · -- the units stand where they stood, so the same ones are told again
    have hagain := emitBuggerOff_eq (hisolated.unitFootprint_eq.trans hr) hregion
      fun other hother => by
        rw [unitExists_askToLeave]
        exact hw.unitExists_of_onFootprint (hisolated.onFootprint_iff.1 hother)
    rw [hagain]
    refine congrArg (Prod.mk _) ?_
    show (w.askToLeave (w.unitsIn region) r).askToLeave (w.unitsIn region) r = _
    rw [askToLeave_askToLeave]
    exact askToLeave_congr fun id => by rw [List.mem_append, or_self]

/-- A tank on a pad. -/
def Sample.parked : List Operation :=
  [.addPlayer (.new .human "" 0), .spawnUnit "pad" ⟨0⟩ 0 none, .spawnUnit "tank" ⟨0⟩ 0 none]

theorem footprint_is_cleared_pad :
    let b := Sample.battle Sample.parked
    Run Sample.setup b.1 b.2 ∧ (b.2.units.get? ⟨2⟩).map UnitState.orders = some [] ∧
      ∃ w', (emitBuggerOff ⟨1⟩).on b.2 = (.ok (), w') ∧
        (w'.units.get? ⟨2⟩).map UnitState.orders = some [.buggerOff ⟨1, 1, 1, 1⟩] ∧
        (emitBuggerOff ⟨1⟩).on w' = (.ok (), w') := by
  intro b
  obtain ⟨hcomplete, hpad, htank, hfootprint, hcell⟩ :
      Operation.AllComplete Sample.parked Sample.start ∧
      (b.2.units.get? ⟨1⟩).isSome = true ∧
      (b.2.units.get? ⟨2⟩).map UnitState.orders = some [] ∧
      b.2.unitFootprint ⟨1⟩ = .ok ⟨1, 1, 1, 1⟩ ∧
      b.2.occupancy.at? 1 1 = some ⟨some (.unit ⟨2⟩), some ⟨⟨1⟩, true⟩⟩ := by decide +kernel
  have hrun : Run Sample.setup b.1 b.2 := Sample.run_battle hcomplete
  obtain ⟨pad, hpad⟩ := Option.isSome_iff_exists.1 hpad
  obtain ⟨tank, htank', hidle⟩ := Option.map_eq_some_iff.1 htank
  obtain ⟨r, w', hr, hon, hcleared, -, hagain⟩ := footprint_is_cleared hrun hpad
  rw [hfootprint] at hr
  cases hr
  have hthere : (w'.units.get? ⟨2⟩).isSome = true :=
    (hcleared.ids ⟨2⟩).trans (unitExists_of_get? htank')
  obtain ⟨tank', htold⟩ := Option.isSome_iff_exists.1 hthere
  have honFootprint : b.2.OnFootprint ⟨1⟩ ⟨2⟩ ⟨1, 1, 1, 1⟩ :=
    ⟨hfootprint, 1, 1, by decide, by rw [hcell]; rfl⟩
  have horders := hcleared.order htank' htold ((hcleared.told htank' htold).2 ⟨honFootprint, hidle⟩)
  exact ⟨hrun, htank, w', hon, by rw [htold, Option.map_some, horders], hagain⟩

end World

end Lockstep
