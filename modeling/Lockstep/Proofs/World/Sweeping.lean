import Lockstep.Proofs.World.Run
/-!
# The sweep

At the end of a tick the dead units are taken off the map one after the other.  What lasts while a
single unit of the world is taken off lasts through the whole sweep (`sweep_induction`), which takes
the dead units, and what waits for their paths, and nobody else.
-/

namespace Lockstep.World

variable {w : World} {id other : UnitId}

lemma mem_deadUnits : id ∈ w.deadUnits ↔ ∃ u, w.units.get? id = some u ∧ u.isDead = true := by
  simp only [deadUnits, List.mem_map, List.mem_filter, SortedTable.get?_eq_some_iff,
    SortedTable.toList]
  constructor
  · rintro ⟨⟨i, u⟩, ⟨hmem, hdead⟩, rfl⟩
    exact ⟨u, hmem, hdead⟩
  · rintro ⟨u, hmem, hdead⟩
    exact ⟨(id, u), ⟨hmem, hdead⟩, rfl⟩

lemma nodup_deadUnits (w : World) : w.deadUnits.Nodup :=
  (List.filter_sublist.map Prod.fst).nodup w.units.nodup_keys

lemma unitExists_of_mem_deadUnits (h : id ∈ w.deadUnits) : w.unitExists id = true := by
  obtain ⟨u, hu, -⟩ := mem_deadUnits.1 h
  exact unitExists_of_get? hu

/-! ### A single unit -/

lemma sweepUnit_of_exists (h : w.unitExists id = true) :
    w.sweepUnit id = { w with
      units := w.units.erase id
      occupancy := w.occupancy.map (release id)
      pathRequests := w.pathRequests.filter fun other => decide (other ≠ id)
      events := w.events.push (.removed id) } := by
  rw [sweepUnit, removeUnit, if_pos h]
  rfl

lemma unitExists_sweepUnit (h : w.unitExists id = true) (other : UnitId) :
    (w.sweepUnit id).unitExists other = (decide (other ≠ id) && w.unitExists other) := by
  rw [sweepUnit_of_exists h]
  simp only [unitExists, SortedTable.contains, SortedTable.get?_erase]
  by_cases hother : other = id <;> simp [hother]

/-! ### All of them -/

/-- The dead units are taken off the map one after the other, and each is still there when its turn
comes.  The induction is on the units that are left. -/
lemma foldl_sweepUnit {P : List UnitId → World → Prop}
    (hstep : ∀ {gone id w}, w.unitExists id = true → P gone w → P (id :: gone) (w.sweepUnit id))
    {dead gone : List UnitId} (hnodup : dead.Nodup) (hdead : ∀ id ∈ dead, w.unitExists id = true)
    (hw : P gone w) : P (dead.reverse ++ gone) (dead.foldl sweepUnit w) := by
  induction dead generalizing w gone with
  | nil => exact hw
  | cons first dead ih =>
    obtain ⟨hfirst, hnodup⟩ := List.nodup_cons.1 hnodup
    have hexists : w.unitExists first = true := hdead first List.mem_cons_self
    have hrest : ∀ id ∈ dead, (w.sweepUnit first).unitExists id = true := fun id hid => by
      have hne : id ≠ first := fun heq => hfirst (heq ▸ hid)
      rw [unitExists_sweepUnit hexists, hdead id (List.mem_cons_of_mem _ hid)]
      simp [hne]
    rw [List.reverse_cons, List.append_assoc]
    exact ih hnodup hrest (hstep hexists hw)

/-- What is true of a world of which nobody is gone yet, and stays true when one more unit goes, is
true after a sweep of those that were dead. -/
theorem sweep_induction {P : List UnitId → World → Prop}
    (hstep : ∀ {gone id w}, w.unitExists id = true → P gone w → P (id :: gone) (w.sweepUnit id))
    (hw : P [] w) : P w.deadUnits.reverse w.sweep := by
  have hswept := foldl_sweepUnit hstep w.nodup_deadUnits
    (fun _ => unitExists_of_mem_deadUnits) hw
  rwa [List.append_nil] at hswept

/-- A sweep takes the units that were dead, and no others. -/
lemma unitExists_sweep (w : World) (id : UnitId) :
    w.sweep.unitExists id = (decide (id ∉ w.deadUnits) && w.unitExists id) := by
  let P (gone : List UnitId) (v : World) : Prop :=
    v.unitExists id = (decide (id ∉ gone) && w.unitExists id)
  have hswept : P w.deadUnits.reverse w.sweep := by
    refine sweep_induction (fun {gone first v} hfirst hv => ?_) (by simp [P])
    show (v.sweepUnit first).unitExists id = _
    rw [unitExists_sweepUnit hfirst, hv]
    by_cases hid : id = first <;> simp [hid]
  simpa [P] using hswept

/-- A cell is occupied or claimed by a unit. -/
def IsHeldBy (c : Occupancy) (id : UnitId) : Prop :=
  c.occupant = some (.unit id) ∨ ∃ k, c.claim = some k ∧ k.unit = id

/-- A cell of the map or a wish for a path is about a unit. -/
def Mentions (w : World) (id : UnitId) : Prop :=
  (∃ x y c, w.occupancy.at? x y = some c ∧ IsHeldBy c id) ∨ id ∈ w.pathRequests

lemma isHeldBy_release {c : Occupancy} :
    IsHeldBy (release id c) other ↔ other ≠ id ∧ IsHeldBy c other := by
  have hoccupant : (release id c).occupant = some (.unit other) ↔
      other ≠ id ∧ c.occupant = some (.unit other) := by
    rw [release]
    by_cases hother : other = id <;> split <;> simp_all [eq_comm]
  have hclaim : (∃ k, (release id c).claim = some k ∧ k.unit = other) ↔
      other ≠ id ∧ ∃ k, c.claim = some k ∧ k.unit = other := by
    simp only [release, Option.filter_eq_some_iff, decide_eq_true_eq]
    constructor
    · rintro ⟨k, ⟨hk, hne⟩, rfl⟩
      exact ⟨hne, k, hk, rfl⟩
    · rintro ⟨hne, k, hk, rfl⟩
      exact ⟨k, ⟨hk, hne⟩, rfl⟩
  rw [IsHeldBy, hoccupant, hclaim, ← and_or_left]
  rfl

lemma mentions_sweepUnit (h : w.unitExists id = true) :
    (w.sweepUnit id).Mentions other ↔ other ≠ id ∧ w.Mentions other := by
  rw [sweepUnit_of_exists h]
  simp only [Mentions, Grid.at?_map, Option.map_eq_some_iff, List.mem_filter, decide_eq_true_eq]
  constructor
  · rintro (⟨x, y, _, ⟨c, hc, rfl⟩, hheld⟩ | ⟨hmem, hne⟩)
    · obtain ⟨hne, hheld⟩ := isHeldBy_release.1 hheld
      exact ⟨hne, .inl ⟨x, y, c, hc, hheld⟩⟩
    · exact ⟨hne, .inr hmem⟩
  · rintro ⟨hne, ⟨x, y, c, hc, hheld⟩ | hmem⟩
    · exact .inl ⟨x, y, _, ⟨c, hc, rfl⟩, isHeldBy_release.2 ⟨hne, hheld⟩⟩
    · exact .inr ⟨hmem, hne⟩

/-- Nothing is left of a unit that was dead. -/
lemma not_mentions_sweep (h : id ∈ w.deadUnits) : ¬w.sweep.Mentions id := by
  have hswept : ∀ gone ∈ w.deadUnits.reverse, ¬w.sweep.Mentions gone := by
    refine sweep_induction (P := fun gone v => ∀ other ∈ gone, ¬v.Mentions other)
      (fun {gone first v} hfirst hv other hother => ?_) nofun
    rw [mentions_sweepUnit hfirst]
    rintro ⟨hne, hmentions⟩
    exact hv other ((List.mem_cons.1 hother).resolve_left hne) hmentions
  exact hswept id (List.mem_reverse.2 h)

end Lockstep.World
