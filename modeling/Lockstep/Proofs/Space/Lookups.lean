import Lockstep.Proofs.Fixed.Checked
import Lockstep.Proofs.Space.Overlay
/-!
# Looking cells up by their places

The cells of a grid are one long list, and a cell is looked up by its place in it.  Here a place is
computed in words, as are the ends of rectangles and regions, and a place that is not in the list
stops everything.  The sides of a grid being words, this never happens, neither for the cells of a
rectangle that lies in the grid nor for the pairs of cells where one grid lies over another.
-/

namespace Lockstep

variable {α β : Type}

/-- The cells of a region, the ends of its rows and columns being computed in words. -/
def Region.cellsChecked (r : Region) : Except Trap (List (Nat × Nat)) := do
  let _ ← Word.unsigned32.add r.x r.width
  let _ ← Word.unsigned32.add r.y r.height
  return r.cells

namespace Grid

/-- The sides of a grid are words. -/
structure Measured (g : Grid α) : Prop where
  width : g.width < UInt32.size
  height : g.height < UInt32.size

/-- The value at a cell, looked up by its place in the list. -/
def cellChecked (g : Grid α) (x y : Nat) : Except Trap α := do
  let row ← Word.unsigned64.mul y g.width
  let place ← Word.unsigned64.add row x
  match g.cells[place.toNat]? with
  | some a => return a
  | none => throw .place

/-- `region?`, checked. -/
def regionChecked (g : Grid α) (r : Rect) : Except Trap (Option Region) := do
  let _ ← Word.signed64.add r.x r.width
  let _ ← Word.signed64.add r.y r.height
  return g.region? r

/-- `valuesIn`, checked. -/
def valuesInChecked (g : Grid α) (r : Region) : Except Trap (List α) := do
  (← r.cellsChecked).mapM fun c => g.cellChecked c.1 c.2

/-- `overlayRegion`, checked. -/
def overlayRegionChecked (g : Grid α) (x y : UInt32) (other : Grid β) : Except Trap Region := do
  let _ ← Word.signed64.add x.toInt32.toInt other.width
  let _ ← Word.signed64.add y.toInt32.toInt other.height
  return g.overlayRegion x y other

/-- The values at a cell and at the cell that covers it. -/
def pairChecked (g : Grid α) (x y : UInt32) (other : Grid β) (c : Nat × Nat) :
    Except Trap (α × β) := do
  let cx ← Word.unsigned32.sub c.1 x.toNat
  let cy ← Word.unsigned32.sub c.2 y.toNat
  let a ← g.cellChecked c.1 c.2
  let b ← other.cellChecked cx.toNat cy.toNat
  return (a, b)

/-- `anyOverlay`, checked; all pairs are looked at. -/
def anyOverlayChecked (g : Grid α) (x y : UInt32) (other : Grid β) (p : α → β → Bool) :
    Except Trap Bool := do
  let region ← g.overlayRegionChecked x y other
  let pairs ← (← region.cellsChecked).mapM (g.pairChecked x y other)
  return pairs.any fun pair => p pair.1 pair.2

/-- `modifyCovered`, checked. -/
def modifyCoveredChecked (x y : UInt32) (other : Grid β) (f : α → β → α) (g : Grid α)
    (c : Nat × Nat) : Except Trap (Grid α) := do
  let pair ← g.pairChecked x y other c
  return g.modifyAt c.1 c.2 fun a => f a pair.2

/-- `modifyOverlay`, checked. -/
def modifyOverlayChecked (g : Grid α) (x y : UInt32) (other : Grid β) (f : α → β → α) :
    Except Trap (Grid α) := do
  let region ← g.overlayRegionChecked x y other
  (← region.cellsChecked).foldlM (modifyCoveredChecked x y other f) g

variable {g : Grid α} {other : Grid β} {x y : UInt32}

lemma cellChecked_eq (hg : g.Measured) {cx cy : Nat} {a : α} (ha : g.at? cx cy = some a) :
    g.cellChecked cx cy = .ok a := by
  obtain ⟨hx, hy⟩ := lt_of_at? ha
  have hwidth := hg.width
  have hheight := hg.height
  have hsize : UInt32.size = 4294967296 := rfl
  have hrow : cy * g.width ≤ 4294967294 * 4294967295 :=
    Nat.mul_le_mul (by omega) (by omega)
  have hmul : Word.unsigned64.Holds ((cy : Int) * g.width) := by
    rw [← Int.natCast_mul]
    simp only [Word.Holds, Word.unsigned64]
    omega
  have hadd : Word.unsigned64.Holds ((cy : Int) * g.width + cx) := by
    rw [← Int.natCast_mul]
    simp only [Word.Holds, Word.unsigned64]
    omega
  have hplace : ((cy : Int) * g.width + cx).toNat = cy * g.width + cx := by
    rw [← Int.natCast_mul, ← Int.natCast_add, Int.toNat_natCast]
  rw [at?, if_pos hx] at ha
  rw [cellChecked, Word.mul_eq hmul, ok_bind, Word.add_eq hadd, ok_bind, hplace, ha]
  rfl

lemma cellsChecked_eq (hg : g.Measured) {r : Region} (hx : r.x + r.width ≤ g.width)
    (hy : r.y + r.height ≤ g.height) : r.cellsChecked = .ok r.cells := by
  have hwidth := hg.width
  have hheight := hg.height
  have hsize : UInt32.size = 4294967296 := rfl
  have hright : Word.unsigned32.Holds ((r.x : Int) + r.width) := by
    simp only [Word.Holds, Word.unsigned32]
    omega
  have hbottom : Word.unsigned32.Holds ((r.y : Int) + r.height) := by
    simp only [Word.Holds, Word.unsigned32]
    omega
  rw [Region.cellsChecked, Word.add_eq hright, ok_bind, Word.add_eq hbottom, ok_bind]
  rfl

/-! ### Rectangles in the grid -/

lemma regionChecked_eq (hg : g.Measured) {r : Rect} {region : Region}
    (hr : g.region? r = some region) : g.regionChecked r = .ok (some region) := by
  obtain ⟨⟨hx, hy, hright, hbottom⟩, -⟩ := region?_eq_some_iff.1 hr
  have hwidth := hg.width
  have hheight := hg.height
  have hsize : UInt32.size = 4294967296 := rfl
  simp only [Rect.right, Rect.bottom] at hright hbottom
  have hholds : Word.signed64.Holds (r.x + r.width) ∧ Word.signed64.Holds (r.y + r.height) := by
    simp only [Word.Holds, Word.signed64]
    omega
  rw [regionChecked, Word.add_eq hholds.1, ok_bind, Word.add_eq hholds.2, ok_bind, hr]
  rfl

/-- The induction is on the cells that are looked up. -/
lemma mapM_cellChecked_eq (hg : g.Measured) {l : List (Nat × Nat)}
    (hl : ∀ c ∈ l, c.1 < g.width ∧ c.2 < g.height) :
    l.mapM (fun c => g.cellChecked c.1 c.2) = .ok (l.filterMap fun c => g.at? c.1 c.2) := by
  induction l with
  | nil => rfl
  | cons c rest ih =>
    obtain ⟨hcx, hcy⟩ := hl c List.mem_cons_self
    obtain ⟨a, ha⟩ := exists_at? hcx hcy
    rw [List.mapM_cons, cellChecked_eq hg ha, ok_bind,
      ih fun d hd => hl d (List.mem_cons_of_mem c hd), List.filterMap_cons, ha]
    rfl

lemma valuesInChecked_eq (hg : g.Measured) {r : Rect} {region : Region}
    (hr : g.region? r = some region) : g.valuesInChecked region = .ok (g.valuesIn region) := by
  obtain ⟨⟨hx, hy, hright, hbottom⟩, hregion⟩ := region?_eq_some_iff.1 hr
  simp only [Rect.right, Rect.bottom] at hright hbottom
  have hcells : region.cellsChecked = .ok region.cells := by
    refine cellsChecked_eq hg ?_ ?_
    · rw [hregion]
      simp only
      omega
    · rw [hregion]
      simp only
      omega
  rw [valuesInChecked, hcells, ok_bind]
  exact mapM_cellChecked_eq hg fun _ hc => lt_of_mem_region? hr hc

/-! ### One grid over another -/

/-- The covered part of a grid does not stick out. -/
lemma clip_within (g : Grid α) (r : Rect) :
    (g.clip r).x + (g.clip r).width ≤ g.width ∧ (g.clip r).y + (g.clip r).height ≤ g.height := by
  simp only [clip, clamp]
  by_cases hempty : min r.right.toNat g.width ≤ min r.x.toNat g.width ∨
      min r.bottom.toNat g.height ≤ min r.y.toNat g.height
  · simp only [hempty, if_true, Region.empty]
    omega
  · simp only [hempty, if_false]
    omega

lemma overlayCellsChecked_eq (hg : g.Measured) (hother : other.Measured) {γ : Type}
    (f : List (Nat × Nat) → Except Trap γ) :
    (do
      let region ← g.overlayRegionChecked x y other
      f (← region.cellsChecked)) = f (g.overlayRegion x y other).cells := by
  have hx : -2147483648 ≤ x.toInt32.toInt ∧ x.toInt32.toInt < 2147483648 :=
    ⟨x.toInt32.le_toInt, x.toInt32.toInt_lt⟩
  have hy : -2147483648 ≤ y.toInt32.toInt ∧ y.toInt32.toInt < 2147483648 :=
    ⟨y.toInt32.le_toInt, y.toInt32.toInt_lt⟩
  have hwidth := hother.width
  have hheight := hother.height
  have hsize : UInt32.size = 4294967296 := rfl
  have hholds : Word.signed64.Holds (x.toInt32.toInt + other.width) ∧
      Word.signed64.Holds (y.toInt32.toInt + other.height) := by
    simp only [Word.Holds, Word.signed64]
    omega
  obtain ⟨hright, hbottom⟩ :=
    g.clip_within ⟨x.toInt32.toInt, y.toInt32.toInt, other.width, other.height⟩
  have hcells : (g.overlayRegion x y other).cellsChecked = .ok (g.overlayRegion x y other).cells :=
    cellsChecked_eq hg hright hbottom
  rw [overlayRegionChecked, Word.add_eq hholds.1, ok_bind, Word.add_eq hholds.2, ok_bind]
  show (g.overlayRegion x y other).cellsChecked >>= f = _
  rw [hcells, ok_bind]

/-- Each covered cell is there, and so is the one that covers it. -/
lemma exists_pairChecked (hg : g.Measured) (hother : other.Measured) (hx : x.toNat < 2 ^ 31)
    (hy : y.toNat < 2 ^ 31) {c : Nat × Nat} (hc : c ∈ (g.overlayRegion x y other).cells) :
    ∃ a b, g.pairChecked x y other c = .ok (a, b) ∧ g.at? c.1 c.2 = some a ∧
      other.at? (c.1 - x.toNat) (c.2 - y.toNat) = some b := by
  obtain ⟨⟨hcx, hcy⟩, hcovering⟩ := (mem_cells_overlayRegion hx hy).1 hc
  obtain ⟨hlex, hley⟩ := le_of_mem_overlayRegion hx hy hc
  obtain ⟨a, ha⟩ := exists_at? hcx hcy
  rw [covering?, if_pos ⟨hlex, hley⟩] at hcovering
  obtain ⟨b, hb⟩ := Option.isSome_iff_exists.1 hcovering
  have hwidth := hg.width
  have hheight := hg.height
  have hsize : UInt32.size = 4294967296 := rfl
  have hsub : Word.unsigned32.Holds ((c.1 : Int) - x.toNat) ∧
      Word.unsigned32.Holds ((c.2 : Int) - y.toNat) := by
    simp only [Word.Holds, Word.unsigned32]
    omega
  have hplace : ((c.1 : Int) - x.toNat).toNat = c.1 - x.toNat ∧
      ((c.2 : Int) - y.toNat).toNat = c.2 - y.toNat := by omega
  refine ⟨a, b, ?_, ha, hb⟩
  rw [pairChecked, Word.sub_eq hsub.1, ok_bind, Word.sub_eq hsub.2, ok_bind, hplace.1, hplace.2,
    cellChecked_eq hg ha, ok_bind, cellChecked_eq hother hb, ok_bind]
  rfl

/-- The pairs of some covered cells tell what was to be found out about the cells; the induction is
on the cells. -/
lemma exists_mapM_pairChecked (hg : g.Measured) (hother : other.Measured) (hx : x.toNat < 2 ^ 31)
    (hy : y.toNat < 2 ^ 31) (p : α → β → Bool) {l : List (Nat × Nat)}
    (hl : l ⊆ (g.overlayRegion x y other).cells) :
    ∃ pairs, l.mapM (g.pairChecked x y other) = .ok pairs ∧
      (pairs.any fun pair => p pair.1 pair.2) = l.any (g.holdsOver x.toNat y.toNat other p) := by
  induction l with
  | nil => exact ⟨[], rfl, rfl⟩
  | cons c rest ih =>
    obtain ⟨a, b, hpair, ha, hb⟩ := exists_pairChecked hg hother hx hy (hl List.mem_cons_self)
    obtain ⟨pairs, hmap, hany⟩ := ih fun d hd => hl (List.mem_cons_of_mem c hd)
    have hholds : g.holdsOver x.toNat y.toNat other p c = p a b := by
      rw [holdsOver, covering?, if_pos (le_of_mem_overlayRegion hx hy (hl List.mem_cons_self)), ha,
        hb]
      rfl
    refine ⟨(a, b) :: pairs, ?_, ?_⟩
    · rw [List.mapM_cons, hpair, ok_bind, hmap]
      rfl
    · rw [List.any_cons, List.any_cons, hany, hholds]

theorem anyOverlayChecked_eq (hg : g.Measured) (hother : other.Measured) (hx : x.toNat < 2 ^ 31)
    (hy : y.toNat < 2 ^ 31) {p : α → β → Bool} {v : Bool} (h : g.anyOverlay x y other p = .ok v) :
    g.anyOverlayChecked x y other p = .ok v := by
  obtain ⟨pairs, hmap, hany⟩ := exists_mapM_pairChecked hg hother hx hy p fun _ hc => hc
  rw [anyOverlayChecked, overlayCellsChecked_eq hg hother
    fun cells => cells.mapM (g.pairChecked x y other) >>= fun pairs =>
      return pairs.any fun pair => p pair.1 pair.2]
  rw [anyOverlay_eq p g hx hy, ← hany] at h
  cases h
  rw [hmap, ok_bind]
  rfl

/-- A covered cell is changed, with the same result. -/
lemma exists_modifyCovered (hg : g.Measured) (hother : other.Measured) (hx : x.toNat < 2 ^ 31)
    (hy : y.toNat < 2 ^ 31) (f : α → β → α) {c : Nat × Nat}
    (hc : c ∈ (g.overlayRegion x y other).cells) :
    ∃ b, modifyCovered x y other f g c = .ok (g.modifyAt c.1 c.2 fun a => f a b) ∧
      modifyCoveredChecked x y other f g c = .ok (g.modifyAt c.1 c.2 fun a => f a b) := by
  obtain ⟨a, b, hpair, -, hb⟩ := exists_pairChecked hg hother hx hy hc
  have hle := le_of_mem_overlayRegion hx hy hc
  refine ⟨b, ?_, ?_⟩
  · rw [modifyCovered, coveringCell_of_le hle]
    simp only [bind, Except.bind, hb]
    rfl
  · rw [modifyCoveredChecked, hpair, ok_bind]
    rfl

/-- The induction is on the cells that are changed; the sides of the grid stay as they are. -/
lemma foldlM_modifyCoveredChecked_eq (hg : g.Measured) (hother : other.Measured)
    (hx : x.toNat < 2 ^ 31) (hy : y.toNat < 2 ^ 31) {f : α → β → α} {l : List (Nat × Nat)}
    (hl : l ⊆ (g.overlayRegion x y other).cells) {g' : Grid α}
    (h : l.foldlM (modifyCovered x y other f) g = .ok g') :
    l.foldlM (modifyCoveredChecked x y other f) g = .ok g' := by
  induction l generalizing g with
  | nil =>
    cases h
    rfl
  | cons c rest ih =>
    obtain ⟨b, hplain, hchecked⟩ := exists_modifyCovered hg hother hx hy f (hl List.mem_cons_self)
    have hwidth : (g.modifyAt c.1 c.2 fun a => f a b).width = g.width := by simp
    have hheight : (g.modifyAt c.1 c.2 fun a => f a b).height = g.height := by simp
    have hregion : (g.modifyAt c.1 c.2 fun a => f a b).overlayRegion x y other =
        g.overlayRegion x y other := by
      simp only [overlayRegion, clip, hwidth, hheight]
    rw [List.foldlM_cons, hplain] at h
    rw [List.foldlM_cons, hchecked, ok_bind]
    refine ih ⟨hwidth ▸ hg.width, hheight ▸ hg.height⟩ (fun d hd => ?_) h
    rw [hregion]
    exact hl (List.mem_cons_of_mem c hd)

theorem modifyOverlayChecked_eq (hg : g.Measured) (hother : other.Measured)
    (hx : x.toNat < 2 ^ 31) (hy : y.toNat < 2 ^ 31) {f : α → β → α} {g' : Grid α}
    (h : g.modifyOverlay x y other f = .ok g') : g.modifyOverlayChecked x y other f = .ok g' := by
  rw [modifyOverlayChecked, overlayCellsChecked_eq hg hother
    fun cells => cells.foldlM (modifyCoveredChecked x y other f) g]
  exact foldlM_modifyCoveredChecked_eq hg hother hx hy (fun _ hc => hc) h

end Grid

end Lockstep
