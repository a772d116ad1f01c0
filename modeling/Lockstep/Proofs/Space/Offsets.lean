import Lockstep.Proofs.Space.Regions
/-!
# Grids laid at any offset

A grid that is laid over another one is laid at an offset of two unsigned words.  The covered part
is found with the offset read as signed.  As long as both words are small it is the overlap of the
two grids, and the pairs of a cell and the cell over it are just those of which both exist.  A word
of which the first digit is set lies far to the right of the grid or far below it, but it is read as
one to the left or above; if the upper grid reaches back from there, cells are found that it does
not cover, and the difference that is formed to find the covering cell overflows.
-/

namespace Lockstep.Grid

variable {α β : Type}

/-- A cell of a grid and the cell over it, when the other grid is laid with its first cell at a
column and row, be they on the grid or not. -/
structure Pairs (g : Grid α) (x y : Int) (other : Grid β) (cx cy : Int) (a : α) (b : β) : Prop where
  below : g.get? cx cy = some a
  above : other.get? (cx - x) (cy - y) = some b

/-- The operations on a grid with another one over it look at the pairs of a cell and the cell over
it, at each pair once, and all places that are looked up are there. -/
structure Overlays (g : Grid α) (x y : UInt32) (other : Grid β) : Prop where
  /-- The covered cells are listed. -/
  once : (g.overlayRegion x y other).cells.Nodup ∧
    ∀ cx cy : Nat, (cx, cy) ∈ (g.overlayRegion x y other).cells ↔
      ∃ a b, g.Pairs x.toNat y.toNat other cx cy a b
  /-- One of the pairs is searched for. -/
  test (p : α → β → Bool) : ∃ v, g.anyOverlay x y other p = .ok v ∧
    g.anyOverlayChecked x y other p = .ok v ∧
    (v = true ↔ ∃ cx cy a b, g.Pairs x.toNat y.toNat other cx cy a b ∧ p a b = true)
  /-- The lower cell of each pair is changed by the upper one; all other cells stay as they are. -/
  update (f : α → β → α) : ∃ g', g.modifyOverlay x y other f = .ok g' ∧
    g.modifyOverlayChecked x y other f = .ok g' ∧ (g'.width = g.width ∧ g'.height = g.height) ∧
    ∀ cx cy : Int, g'.get? cx cy =
      (g.get? cx cy).map fun a => (other.get? (cx - x.toNat) (cy - y.toNat)).elim a (f a)

variable {g : Grid α} {other : Grid β} {x y : UInt32}

/-! ### Pairs of cells -/

lemma get?_sub (other : Grid β) (x y cx cy : Nat) :
    other.get? ((cx : Int) - x) ((cy : Int) - y) = other.covering? x y cx cy := by
  rw [get?, covering?, Int.toNat_sub, Int.toNat_sub]
  simp only [Int.sub_nonneg, Int.ofNat_le]

lemma pairs_iff {x y cx cy : Nat} {a : α} {b : β} : g.Pairs x y other cx cy a b ↔
    g.at? cx cy = some a ∧ other.covering? x y cx cy = some b := by
  rw [← get?_natCast, ← get?_sub]
  exact ⟨fun h => ⟨h.below, h.above⟩, fun h => ⟨h.1, h.2⟩⟩

/-- Each pair belongs to a cell of the grid. -/
lemma Pairs.exists_natCast {x y cx cy : Int} {a : α} {b : β} (h : g.Pairs x y other cx cy a b) :
    ∃ i j : Nat, cx = i ∧ cy = j :=
  have ⟨i, j, hx, hy, _⟩ := get?_eq_some_iff.1 h.below
  ⟨i, j, hx, hy⟩

/-- The cells that are found are those that are covered if the offset is signed. -/
lemma mem_cells_overlayRegion_iff {cx cy : Nat} :
    (cx, cy) ∈ (g.overlayRegion x y other).cells ↔
      ∃ a b, g.Pairs x.toInt32.toInt y.toInt32.toInt other cx cy a b := by
  have hpairs : (∃ a b, g.Pairs x.toInt32.toInt y.toInt32.toInt other cx cy a b) ↔
      (g.get? cx cy).isSome ∧
        (other.get? ((cx : Int) - x.toInt32.toInt) ((cy : Int) - y.toInt32.toInt)).isSome := by
    rw [Option.isSome_iff_exists, Option.isSome_iff_exists]
    exact ⟨fun ⟨a, b, h⟩ => ⟨⟨a, h.below⟩, ⟨b, h.above⟩⟩, fun ⟨⟨a, ha⟩, ⟨b, hb⟩⟩ => ⟨a, b, ha, hb⟩⟩
  rw [hpairs, overlayRegion, mem_cells_clip, Rect.contains_iff, get?_isSome, get?_isSome]
  simp only [Rect.right, Rect.bottom]
  omega

/-! ### Small offsets -/

/-- The word reads the same with and without a sign. -/
def IsNear (n : UInt32) : Prop := n.toNat < 2 ^ 31

instance (n : UInt32) : Decidable (IsNear n) := inferInstanceAs (Decidable (_ < _))

lemma anyOverlay_iff_pairs {p : α → β → Bool} {v : Bool} (hx : IsNear x) (hy : IsNear y)
    (h : g.anyOverlay x y other p = .ok v) : v = true ↔
      ∃ cx cy a b, g.Pairs x.toNat y.toNat other cx cy a b ∧ p a b = true := by
  rw [anyOverlay_iff hx hy h]
  constructor
  · rintro ⟨cx, cy, a, b, ha, hb, hp⟩
    exact ⟨cx, cy, a, b, pairs_iff.2 ⟨ha, hb⟩, hp⟩
  · rintro ⟨cx, cy, a, b, hpair, hp⟩
    obtain ⟨i, j, rfl, rfl⟩ := hpair.exists_natCast
    obtain ⟨ha, hb⟩ := pairs_iff.1 hpair
    exact ⟨i, j, a, b, ha, hb, hp⟩

lemma get?_modifyOverlay {f : α → β → α} {g' : Grid α} (hx : IsNear x) (hy : IsNear y)
    (h : g.modifyOverlay x y other f = .ok g') (cx cy : Int) : g'.get? cx cy =
      (g.get? cx cy).map fun a => (other.get? (cx - x.toNat) (cy - y.toNat)).elim a (f a) := by
  rw [get?.eq_def g', get?.eq_def g]
  split
  · rename_i hcell
    obtain ⟨i, rfl⟩ := Int.eq_ofNat_of_zero_le hcell.1
    obtain ⟨j, rfl⟩ := Int.eq_ofNat_of_zero_le hcell.2
    rw [Int.toNat_natCast, Int.toNat_natCast, (modifyOverlay_eq_ok hx hy h).2]
    simp only [get?_sub]
  · rfl

lemma overlays (hg : g.Measured) (hother : other.Measured) (hx : IsNear x) (hy : IsNear y) :
    g.Overlays x y other where
  once := by
    refine ⟨Region.nodup_cells _, fun cx cy => ?_⟩
    rw [mem_cells_overlayRegion_iff, toInt_toInt32 hx, toInt_toInt32 hy]
  test p := by
    obtain ⟨v, hv⟩ := exists_anyOverlay p g hx hy
    exact ⟨v, hv, anyOverlayChecked_eq hg hother hx hy hv, anyOverlay_iff_pairs hx hy hv⟩
  update f := by
    obtain ⟨g', hg'⟩ := exists_modifyOverlay f g hx hy
    exact ⟨g', hg', modifyOverlayChecked_eq hg hother hx hy hg', (modifyOverlay_eq_ok hx hy hg').1,
      get?_modifyOverlay hx hy hg'⟩

/-! ### Large offsets -/

lemma toInt_toInt32_of_not_isNear {n : UInt32} (h : ¬IsNear n) :
    n.toInt32.toInt = n.toNat - 4294967296 := by
  have hsize : n.toNat = n.toBitVec.toNat := rfl
  have hlarge : 2147483648 ≤ n.toBitVec.toNat := by
    rw [IsNear, hsize] at h
    omega
  have hcond : n.toInt32.toInt = n.toBitVec.toInt := rfl
  rw [hcond, BitVec.toInt_eq_toNat_cond, if_neg (by omega), hsize]
  rfl

/-- A cell that is found lies to the left of the offset or above it, so that the difference
overflows. -/
lemma coveringCell_of_far (hother : other.Measured) (hfar : ¬(IsNear x ∧ IsNear y))
    {c : Nat × Nat} (hc : c ∈ (g.overlayRegion x y other).cells) :
    coveringCell x y c = .error .subtract := by
  obtain ⟨cx, cy⟩ := c
  obtain ⟨a, b, hpair⟩ := mem_cells_overlayRegion_iff.1 hc
  have habove := get?_isSome.1 (Option.isSome_iff_exists.2 ⟨b, hpair.above⟩)
  have hwidth := hother.width
  have hheight := hother.height
  have hsize : UInt32.size = 4294967296 := rfl
  -- the upper grid reaches less than `2 ^ 32` behind the signed offset, so not to the unsigned one
  by_cases hx : IsNear x
  · have hy : ¬IsNear y := fun hy => hfar ⟨hx, hy⟩
    rw [toInt_toInt32 hx, toInt_toInt32_of_not_isNear hy] at habove
    have hle : x.toNat ≤ cx := by omega
    have hlt : ¬y.toNat ≤ cy := by omega
    simp only [coveringCell, Overflow.difference, hle, hlt, if_true, if_false]
    rfl
  · rw [toInt_toInt32_of_not_isNear hx] at habove
    have hlt : ¬x.toNat ≤ cx := by omega
    simp only [coveringCell, Overflow.difference, hlt, if_false]
    rfl

variable {cs : List (Nat × Nat)}

lemma anyCovered_of_far (hfar : ∀ c ∈ cs, coveringCell x y c = .error .subtract) (hcs : cs ≠ [])
    (p : α → β → Bool) : anyCovered g x y other p cs = .error .subtract := by
  cases cs with
  | nil => exact absurd rfl hcs
  | cons c cs =>
    rw [anyCovered, holdsAt, hfar c List.mem_cons_self]
    rfl

lemma foldlM_modifyCovered_of_far (hfar : ∀ c ∈ cs, coveringCell x y c = .error .subtract)
    (hcs : cs ≠ []) (f : α → β → α) :
    cs.foldlM (modifyCovered x y other f) g = .error .subtract := by
  cases cs with
  | nil => exact absurd rfl hcs
  | cons c cs =>
    rw [List.foldlM_cons, modifyCovered, hfar c List.mem_cons_self]
    rfl

lemma overlayRegion_cells_ne_nil_iff : (g.overlayRegion x y other).cells ≠ [] ↔
    ∃ cx cy a b, g.Pairs x.toInt32.toInt y.toInt32.toInt other cx cy a b := by
  constructor
  · intro hne
    obtain ⟨⟨cx, cy⟩, hc⟩ := List.exists_mem_of_ne_nil _ hne
    obtain ⟨a, b, hpair⟩ := mem_cells_overlayRegion_iff.1 hc
    exact ⟨cx, cy, a, b, hpair⟩
  · rintro ⟨cx, cy, a, b, hpair⟩
    obtain ⟨i, j, rfl, rfl⟩ := hpair.exists_natCast
    exact List.ne_nil_of_mem (mem_cells_overlayRegion_iff.2 ⟨a, b, hpair⟩)

/-! ### All offsets -/

/-- At an offset of two small words, the operations on a grid with another one over it look at the
pairs of a cell and the cell over it, each of them once, and at nothing else.  If one of the words
is large, it depends on the offset read as signed: if the upper grid would cover some cell there, a
difference overflows, and otherwise nothing is found and nothing is changed. -/
theorem overlays_pair_overlapping_cells (hg : g.Measured) (hother : other.Measured)
    (x y : UInt32) :
    (IsNear x ∧ IsNear y → g.Overlays x y other) ∧
    (¬(IsNear x ∧ IsNear y) →
      ((∃ cx cy a b, g.Pairs x.toInt32.toInt y.toInt32.toInt other cx cy a b) →
        (∀ p, g.anyOverlay x y other p = .error .subtract) ∧
          ∀ f, g.modifyOverlay x y other f = .error .subtract) ∧
      ((¬∃ cx cy a b, g.Pairs x.toInt32.toInt y.toInt32.toInt other cx cy a b) →
        (∀ p, g.anyOverlay x y other p = .ok false) ∧
          ∀ f, g.modifyOverlay x y other f = .ok g)) := by
  refine ⟨fun hnear => overlays hg hother hnear.1 hnear.2, fun hfar => ?_⟩
  have hcells : ∀ c ∈ (g.overlayRegion x y other).cells, coveringCell x y c = .error .subtract :=
    fun _ => coveringCell_of_far hother hfar
  rw [← overlayRegion_cells_ne_nil_iff, ne_eq, Decidable.not_not]
  constructor
  · -- already the first cell that is listed overflows
    intro hne
    exact ⟨anyCovered_of_far hcells hne, foldlM_modifyCovered_of_far hcells hne⟩
  · intro hnil
    constructor
    · intro p
      rw [anyOverlay, hnil]
      rfl
    · intro f
      rw [modifyOverlay, hnil]
      rfl

/-- A grid of two columns and one row. -/
def strip : Grid Nat := ⟨2, 1, #[70, 71], Nat.two_pos, Nat.one_pos, rfl⟩

/-- Of a strip over the last cell of the grid one half sticks out; a strip far to the right of it is
taken for one that begins to the left. -/
theorem overlays_pair_overlapping_cells_corner :
    (numbered.Measured ∧ strip.Measured) ∧ (IsNear 5 ∧ IsNear 4) ∧
    (∃ g', numbered.modifyOverlay 5 4 strip (fun _ b => b) = .ok g' ∧
      g'.get? 5 4 = some 70 ∧ g'.get? 4 4 = some 28) ∧
    ¬(IsNear 4294967295 ∧ IsNear 0) ∧
    numbered.modifyOverlay 4294967295 0 strip (fun _ b => b) = .error .subtract := by
  have hg : numbered.Measured := ⟨by decide, by decide⟩
  have hother : strip.Measured := ⟨by decide, by decide⟩
  have hnear : IsNear 5 ∧ IsNear 4 := by decide
  have hfar : ¬(IsNear 4294967295 ∧ IsNear 0) := by decide
  obtain ⟨g', hg', -, -, hcell⟩ :=
    ((overlays_pair_overlapping_cells hg hother 5 4).1 hnear).update fun _ b => b
  obtain ⟨hoverflow, -⟩ := (overlays_pair_overlapping_cells hg hother 4294967295 0).2 hfar
  exact ⟨⟨hg, hother⟩, hnear, ⟨g', hg', hcell 5 4, hcell 4 4⟩, hfar,
    (hoverflow ⟨0, 0, 0, 71, rfl, rfl⟩).2 _⟩

/-- A grid of one cell. -/
def spot : Grid Nat := ⟨1, 1, #[0], Nat.one_pos, Nat.one_pos, rfl⟩

/-- A strip that is laid as far to the right as a word can tell has no cell over that one, but the
search for a pair of cells overflows instead of finding none. -/
theorem overlay_may_overflow :
    (¬∃ cx cy a b, spot.Pairs (4294967295 : UInt32).toNat (0 : UInt32).toNat strip cx cy a b) ∧
    spot.anyOverlay 4294967295 0 strip (fun a b => decide (a = b)) = .error .subtract := by
  refine ⟨?_, rfl⟩
  rintro ⟨cx, cy, a, b, hbelow, habove⟩
  have hspot := get?_isSome.1 (Option.isSome_iff_exists.2 ⟨a, hbelow⟩)
  have hstrip := get?_isSome.1 (Option.isSome_iff_exists.2 ⟨b, habove⟩)
  have hword : (4294967295 : UInt32).toNat = 4294967295 := rfl
  have hwidth : spot.width = 1 := rfl
  omega

end Lockstep.Grid
