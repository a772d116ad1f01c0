import Lockstep.Proofs.Space.Lookups
/-!
# Regions as sets of cells

A rectangle may lie on a grid, stick out of it or miss it.  What the grid makes of it is a region:
the rectangle itself, if all of it lies in the grid, or the part of it that does.  Both list the
cells of the grid that the rectangle covers, row by row and each of them once; and whatever is done
to a region is done to those cells and to no others.  All sums, bounds and places are computed in
words here, and none of them stops.

* `Region.eq_clip_of_region?`: the two regions are the same, unless the rectangle has no cells.
* `RegionOf.mem_cells_iff`: the cells of either are those that the rectangle covers.
* `RegionOf.touches`: what is read and what is changed.
-/

namespace Lockstep

open Overflow (FitsSigned)

variable {α : Type}

/-! ### Rectangles -/

namespace Rect

/-- The corner of a rectangle is given in signed words, its size in unsigned ones. -/
structure Measured (r : Rect) : Prop where
  x : FitsSigned r.x
  y : FitsSigned r.y
  width : r.width < UInt32.size
  height : r.height < UInt32.size

instance (r : Rect) : Decidable r.Measured :=
  decidable_of_iff
    (FitsSigned r.x ∧ FitsSigned r.y ∧ r.width < UInt32.size ∧ r.height < UInt32.size)
    ⟨fun ⟨h₁, h₂, h₃, h₄⟩ => ⟨h₁, h₂, h₃, h₄⟩, fun h => ⟨h.x, h.y, h.width, h.height⟩⟩

variable {r s : Rect}

lemma isEmpty_eq_false_iff : r.isEmpty = false ↔ 0 < r.width ∧ 0 < r.height := by
  rw [isEmpty, decide_eq_false_iff_not]
  omega

/-- The edges of a measured rectangle are found without overflow. -/
lemma Measured.edges (h : r.Measured) : Word.signed64.add r.x r.width = .ok r.right ∧
    Word.signed64.add r.y r.height = .ok r.bottom := by
  obtain ⟨hx, hy, hwidth, hheight⟩ := h
  have hsize : UInt32.size = 4294967296 := rfl
  simp only [FitsSigned] at hx hy
  have hholds : Word.signed64.Holds (r.x + r.width) ∧ Word.signed64.Holds (r.y + r.height) := by
    simp only [Word.Holds, Word.signed64]
    omega
  exact ⟨Word.add_eq hholds.1, Word.add_eq hholds.2⟩

/-- The later one of two left edges and the later one of two upper edges meet in a common cell. -/
lemma intersects_iff : r.intersects s = true ↔
    ∃ x y, r.contains x y = true ∧ s.contains x y = true := by
  simp only [intersects, Bool.and_eq_true, Bool.not_eq_true', isEmpty_eq_false_iff,
    decide_eq_true_iff, contains_iff]
  simp only [right, bottom]
  constructor
  · intro h
    exact ⟨max r.x s.x, max r.y s.y, by omega, by omega⟩
  · rintro ⟨x, y, hr, hs⟩
    omega

end Rect

namespace Grid

/-! ### What a grid makes of a rectangle -/

/-- `clip`, the edges being moved onto the grid in words. -/
def clipChecked (g : Grid α) (r : Rect) : Except Trap Region := do
  let right ← Word.signed64.add r.x r.width
  let bottom ← Word.signed64.add r.y r.height
  let left ← within 0 g.width r.x
  let top ← within 0 g.height r.y
  let right ← within 0 g.width right
  let bottom ← within 0 g.height bottom
  if right ≤ left ∨ bottom ≤ top then return .empty
  let width ← Word.signed64.sub right left
  let height ← Word.signed64.sub bottom top
  return ⟨left.toNat, top.toNat, width.toNat, height.toNat⟩

/-- A region stands for a rectangle: for all of it, if it lies in the grid, or for the part that
does. -/
inductive RegionOf (g : Grid α) (r : Rect) : Region → Prop where
  /-- All of the rectangle. -/
  | whole {s : Region} (h : g.region? r = some s) : RegionOf g r s
  /-- The part of it on the grid. -/
  | part : RegionOf g r (g.clip r)

variable {g : Grid α} {r : Rect} {s : Region}

lemma region?_isSome_iff : (g.region? r).isSome ↔
    0 ≤ r.x ∧ 0 ≤ r.y ∧ r.right ≤ g.width ∧ r.bottom ≤ g.height := by
  simp only [Option.isSome_iff_exists, region?_eq_some_iff, exists_and_left, exists_eq, and_true]

lemma regionChecked_of_measured (hr : r.Measured) : g.regionChecked r = .ok (g.region? r) := by
  rw [regionChecked, hr.edges.1, ok_bind, hr.edges.2, ok_bind]
  rfl

/-- A number between the bounds of a clamped one is left as it is, and so is the part between two
such numbers. -/
lemma within_eq_clamp (i : Int) (n : Nat) : within 0 n i = .ok (clamp i n : Int) := by
  have hclamp : max 0 (min i n) = (clamp i n : Int) := by
    simp only [clamp]
    omega
  rw [within_eq (Int.natCast_nonneg n), hclamp]

lemma clipChecked_eq (hg : g.Measured) (hr : r.Measured) : g.clipChecked r = .ok (g.clip r) := by
  have hwidth := hg.width
  have hheight := hg.height
  have hsize : UInt32.size = 4294967296 := rfl
  -- what has been moved onto the grid is not longer than a side of it
  have hle : ∀ (i : Int) (n : Nat), clamp i n ≤ n := fun _ _ => Nat.min_le_right ..
  have hsub : ∀ i j n : Nat, i ≤ n → j ≤ n → n < UInt32.size →
      Word.signed64.sub i j = .ok ((i : Int) - j) := by
    intro i j n hi hj hn
    exact Word.sub_eq (by simp only [Word.Holds, Word.signed64]; omega)
  rw [clipChecked, hr.edges.1, ok_bind, hr.edges.2, ok_bind]
  simp only [within_eq_clamp, ok_bind, clip, Int.ofNat_le]
  split
  · rfl
  · rw [hsub _ _ _ (hle ..) (hle ..) hwidth, ok_bind, hsub _ _ _ (hle ..) (hle ..) hheight, ok_bind]
    simp only [Int.toNat_natCast, Int.toNat_sub]
    rfl

/-- All of a rectangle lies in the grid; then so does the part of it that does. -/
theorem eq_clip_of_region? (h : g.region? r = some s) (hr : r.isEmpty = false) : s = g.clip r := by
  obtain ⟨⟨hx, hy, hright, hbottom⟩, rfl⟩ := region?_eq_some_iff.1 h
  rw [Rect.isEmpty_eq_false_iff] at hr
  simp only [Rect.right, Rect.bottom] at hright hbottom
  have hcells : ¬(clamp r.right g.width ≤ clamp r.x g.width ∨
      clamp r.bottom g.height ≤ clamp r.y g.height) := by
    simp only [clamp, Rect.right, Rect.bottom]
    omega
  rw [clip, if_neg hcells]
  simp only [clamp, Rect.right, Rect.bottom, Region.mk.injEq]
  omega

namespace RegionOf

lemma within (hs : g.RegionOf r s) : s.x + s.width ≤ g.width ∧ s.y + s.height ≤ g.height := by
  cases hs with
  | whole h =>
    obtain ⟨hin, rfl⟩ := region?_eq_some_iff.1 h
    simp only [Rect.right, Rect.bottom] at hin ⊢
    omega
  | part => exact clip_within g r

/-- The cells of a region for a rectangle are those of the grid that the rectangle covers. -/
theorem mem_cells_iff (hs : g.RegionOf r s) {x y : Nat} :
    (x, y) ∈ s.cells ↔ (x < g.width ∧ y < g.height) ∧ r.contains x y = true := by
  cases hs with
  | whole h =>
    rw [mem_cells_of_region? h]
    refine ⟨fun hin => ⟨?_, hin⟩, And.right⟩
    exact lt_of_mem_region? h ((mem_cells_of_region? h).2 hin)
  | part => rw [mem_cells_clip, and_assoc]

lemma lt_of_mem (hs : g.RegionOf r s) : ∀ c ∈ s.cells, c.1 < g.width ∧ c.2 < g.height :=
  fun _ hc => (hs.mem_cells_iff.1 hc).1

/-- Which of the regions for a rectangle is taken does not matter: they list the same cells, and
there is only one way to list them row by row. -/
lemma cells_eq (hs : g.RegionOf r s) : s.cells = (g.clip r).cells := by
  have hmem : ∀ c, c ∈ s.cells ↔ c ∈ (g.clip r).cells :=
    fun c => hs.mem_cells_iff.trans RegionOf.part.mem_cells_iff.symm
  -- of two cells only one can stand before the other
  refine List.Perm.eq_of_pairwise (fun c d _ _ hcd hdc => ?_) s.pairwise_cells
    (g.clip r).pairwise_cells ((List.perm_ext_iff_of_nodup s.nodup_cells
      (g.clip r).nodup_cells).2 hmem)
  simp only [Region.Before] at hcd hdc
  omega

lemma cellsChecked_eq (hg : g.Measured) (hs : g.RegionOf r s) : s.cellsChecked = .ok s.cells :=
  Grid.cellsChecked_eq hg hs.within.1 hs.within.2

end RegionOf

/-! ### What is done to a region -/

/-- `anyIn`, checked: cells after the first hit are not looked up. -/
def anyInChecked (g : Grid α) (s : Region) (p : α → Bool) : Except Trap Bool := do
  (← s.cellsChecked).anyM fun c => return p (← g.cellChecked c.1 c.2)

/-- `modifyAt`, checked. -/
def modifyAtChecked (f : α → α) (g : Grid α) (c : Nat × Nat) : Except Trap (Grid α) := do
  let _ ← g.cellChecked c.1 c.2
  return g.modifyAt c.1 c.2 f

/-- `modifyIn`, checked. -/
def modifyInChecked (g : Grid α) (s : Region) (f : α → α) : Except Trap (Grid α) := do
  (← s.cellsChecked).foldlM (modifyAtChecked f) g

/-- `fillIn`, checked. -/
def fillInChecked (g : Grid α) (s : Region) (a : α) : Except Trap (Grid α) :=
  g.modifyInChecked s fun _ => a

/-- A grid holds what another one holds, changed in the cells that a rectangle covers. -/
structure ChangedOn (g : Grid α) (r : Rect) (f : α → α) (g' : Grid α) : Prop where
  width : g'.width = g.width
  height : g'.height = g.height
  cell (x y : Int) :
    g'.get? x y = if r.contains x y then (g.get? x y).map f else g.get? x y

/-- What is done to a region is done to the cells of the grid that a rectangle covers, and all
places that are looked up are there. -/
structure Touches (g : Grid α) (r : Rect) (s : Region) : Prop where
  /-- The values at these cells are seen, row by row. -/
  visit : g.valuesInChecked s = .ok (g.valuesIn s) ∧
    (g.valuesIn s).map some = (g.clip r).cells.map fun c => g.get? c.1 c.2
  /-- One of them is searched for. -/
  test (p : α → Bool) : g.anyInChecked s p = .ok (g.anyIn s p) ∧
    (g.anyIn s p = true ↔ ∃ x y a, r.contains x y = true ∧ g.get? x y = some a ∧ p a = true)
  /-- They are changed. -/
  modify (f : α → α) : g.modifyInChecked s f = .ok (g.modifyIn s f) ∧
    g.ChangedOn r f (g.modifyIn s f)
  /-- They are replaced by a value. -/
  fill (a : α) : g.fillInChecked s a = .ok (g.fillIn s a) ∧
    g.ChangedOn r (fun _ => a) (g.fillIn s a)

variable {l : List (Nat × Nat)}

/-- The induction is on the cells that are looked up. -/
lemma map_filterMap_at? (hl : ∀ c ∈ l, c.1 < g.width ∧ c.2 < g.height) :
    (l.filterMap fun c => g.at? c.1 c.2).map some = l.map fun c => g.get? c.1 c.2 := by
  induction l with
  | nil => rfl
  | cons c rest ih =>
    obtain ⟨hcx, hcy⟩ := hl c List.mem_cons_self
    obtain ⟨a, ha⟩ := exists_at? hcx hcy
    rw [List.filterMap_cons, ha, List.map_cons, List.map_cons, get?_natCast, ha,
      ih fun d hd => hl d (List.mem_cons_of_mem c hd)]

/-- The induction is on the cells that are looked up; a hit ends it. -/
lemma anyM_cellChecked_eq (hg : g.Measured) (p : α → Bool)
    (hl : ∀ c ∈ l, c.1 < g.width ∧ c.2 < g.height) :
    (l.anyM fun c => return p (← g.cellChecked c.1 c.2)) =
      .ok (l.any fun c => (g.at? c.1 c.2).any p) := by
  induction l with
  | nil => rfl
  | cons c rest ih =>
    obtain ⟨hcx, hcy⟩ := hl c List.mem_cons_self
    obtain ⟨a, ha⟩ := exists_at? hcx hcy
    rw [List.anyM_cons, cellChecked_eq hg ha, List.any_cons, ha]
    simp only [pure, Except.pure, ok_bind, Option.any_some]
    cases p a with
    | true => rfl -- the cells that are left are not looked up
    | false => exact ih fun d hd => hl d (List.mem_cons_of_mem c hd)

/-- The induction is on the cells that are changed; the sides of the grid stay as they are. -/
lemma foldlM_modifyAtChecked_eq (hg : g.Measured) (f : α → α)
    (hl : ∀ c ∈ l, c.1 < g.width ∧ c.2 < g.height) :
    l.foldlM (modifyAtChecked f) g = .ok (g.modifyCells l f) := by
  induction l generalizing g with
  | nil => rfl
  | cons c rest ih =>
    obtain ⟨hcx, hcy⟩ := hl c List.mem_cons_self
    obtain ⟨a, ha⟩ := exists_at? hcx hcy
    have hchecked : modifyAtChecked f g c = .ok (g.modifyAt c.1 c.2 f) := by
      rw [modifyAtChecked, cellChecked_eq hg ha, ok_bind]
      rfl
    have hwidth := width_modifyAt g c.1 c.2 f
    have hheight := height_modifyAt g c.1 c.2 f
    rw [List.foldlM_cons, hchecked, ok_bind]
    refine ih ⟨hwidth ▸ hg.width, hheight ▸ hg.height⟩ fun d hd => ?_
    rw [hwidth, hheight]
    exact hl d (List.mem_cons_of_mem c hd)

namespace RegionOf

lemma anyIn_iff (hs : g.RegionOf r s) {p : α → Bool} : g.anyIn s p = true ↔
    ∃ x y a, r.contains x y = true ∧ g.get? x y = some a ∧ p a = true := by
  rw [anyIn.eq_def, List.any_eq_true]
  constructor
  · rintro ⟨⟨x, y⟩, hc, hp⟩
    obtain ⟨hgrid, hin⟩ := hs.mem_cells_iff.1 hc
    obtain ⟨a, ha⟩ := exists_at? hgrid.1 hgrid.2
    refine ⟨x, y, a, hin, (get?_natCast g x y).trans ha, ?_⟩
    simpa only [ha, Option.any_some] using hp
  · rintro ⟨_, _, a, hin, hget, hp⟩
    obtain ⟨x, y, rfl, rfl, ha⟩ := get?_eq_some_iff.1 hget
    refine ⟨(x, y), hs.mem_cells_iff.2 ⟨lt_of_at? ha, hin⟩, ?_⟩
    simpa only [ha, Option.any_some] using hp

lemma changedOn (hs : g.RegionOf r s) (f : α → α) : g.ChangedOn r f (g.modifyIn s f) where
  width := width_modifyIn ..
  height := height_modifyIn ..
  cell x y := by
    rw [get?, get?]
    split
    · rename_i hxy
      have hmem := hs.mem_cells_iff (x := x.toNat) (y := y.toNat)
      rw [Int.toNat_of_nonneg hxy.1, Int.toNat_of_nonneg hxy.2] at hmem
      rw [at?_modifyIn]
      cases ha : g.at? x.toNat y.toNat with
      | none => simp only [Option.map_none, ite_self]
      | some a => simp only [hmem, lt_of_at? ha, and_self, true_and]
    · -- off the grid there is nothing to change, whatever the rectangle covers
      simp only [Option.map_none, ite_self]

theorem touches (hg : g.Measured) (hs : g.RegionOf r s) : g.Touches r s where
  visit := by
    rw [valuesInChecked, hs.cellsChecked_eq hg, ← hs.cells_eq]
    exact ⟨mapM_cellChecked_eq hg hs.lt_of_mem, map_filterMap_at? hs.lt_of_mem⟩
  test p := by
    rw [anyInChecked, hs.cellsChecked_eq hg]
    exact ⟨anyM_cellChecked_eq hg p hs.lt_of_mem, hs.anyIn_iff⟩
  modify f := by
    rw [modifyInChecked, hs.cellsChecked_eq hg]
    exact ⟨foldlM_modifyAtChecked_eq hg f hs.lt_of_mem, hs.changedOn f⟩
  fill a := by
    rw [fillInChecked, modifyInChecked, hs.cellsChecked_eq hg]
    exact ⟨foldlM_modifyAtChecked_eq hg _ hs.lt_of_mem, hs.changedOn _⟩

end RegionOf

/-! ### Rectangles, regions and cells -/

/-- Clipped to a grid, a rectangle is the list of the cells of the grid that it covers, row by row
and each of them once.  It can be taken whole just if it lies between the sides of the grid, and if
it has cells it is then the same as its clipped part.  Whatever is done to either region is done to
these cells, and no place outside the grid is looked up.  Two rectangles intersect just if they have
a cell in common. -/
theorem regions_are_cells_of_rectangles (hg : g.Measured) (hr : r.Measured) :
    (g.clipChecked r = .ok (g.clip r) ∧ (g.clip r).cellsChecked = .ok (g.clip r).cells ∧
      (g.clip r).cells.Pairwise Region.Before ∧
      ∀ x y : Nat, (x, y) ∈ (g.clip r).cells ↔ (g.get? x y).isSome ∧ r.contains x y = true) ∧
    (g.regionChecked r = .ok (g.region? r) ∧
      ((g.region? r).isSome ↔ 0 ≤ r.x ∧ 0 ≤ r.y ∧ r.right ≤ g.width ∧ r.bottom ≤ g.height) ∧
      ∀ s, g.region? r = some s → r.isEmpty = false → s = g.clip r) ∧
    (∀ s, g.RegionOf r s → g.Touches r s) ∧
    ∀ r' : Rect, r.intersects r' = true ↔
      ∃ x y, r.contains x y = true ∧ r'.contains x y = true := by
  refine ⟨⟨clipChecked_eq hg hr, RegionOf.part.cellsChecked_eq hg, Region.pairwise_cells _, ?_⟩,
    ⟨regionChecked_of_measured hr, region?_isSome_iff, fun s => eq_clip_of_region?⟩,
    fun s hs => hs.touches hg, fun r' => Rect.intersects_iff⟩
  intro x y
  rw [RegionOf.part.mem_cells_iff, get?_natCast, at?_isSome]

/-- A grid of six columns and five rows, its cells numbered row by row. -/
def numbered : Grid Nat := ⟨6, 5, Array.range 30, by decide, by decide, rfl⟩

/-- A rectangle sticks out of the grid on the left and below. -/
theorem regions_are_cells_of_rectangles_corner :
    (numbered.Measured ∧ (⟨-1, 3, 3, 5⟩ : Rect).Measured) ∧
    numbered.region? ⟨-1, 3, 3, 5⟩ = none ∧
    (numbered.clip ⟨-1, 3, 3, 5⟩).cells = [(0, 3), (1, 3), (0, 4), (1, 4)] ∧
    numbered.valuesInChecked (numbered.clip ⟨-1, 3, 3, 5⟩) = .ok [18, 19, 24, 25] ∧
    (numbered.fillIn (numbered.clip ⟨-1, 3, 3, 5⟩) 0).get? 1 4 = some 0 ∧
    (numbered.fillIn (numbered.clip ⟨-1, 3, 3, 5⟩) 0).get? 2 4 = some 26 := by
  have hg : numbered.Measured := ⟨by decide, by decide⟩
  have hr : (⟨-1, 3, 3, 5⟩ : Rect).Measured := by decide
  obtain ⟨-, -, htouches, -⟩ := regions_are_cells_of_rectangles hg hr
  have hpart := htouches _ .part
  have hfilled := (hpart.fill 0).2.cell
  exact ⟨⟨hg, hr⟩, by decide, by decide, hpart.visit.1, hfilled 1 4, hfilled 2 4⟩

end Grid

end Lockstep
