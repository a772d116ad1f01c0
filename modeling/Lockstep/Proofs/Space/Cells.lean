import Mathlib.Tactic.Common
import Lockstep.Space.Overlay
/-!
# Cells of a grid after each operation

Every operation on a grid is described by what `Grid.at?` reads afterwards: an operation on a region
changes the cells of the region once each (`at?_modifyIn`).  Rectangles are related to regions cell
by cell (`mem_cells_of_region?`, `mem_cells_clip`).
-/

namespace Lockstep

/-- Row by row, a cell comes before another one: it is in a row above, or to the left in the same
row. -/
def Region.Before (c d : Nat × Nat) : Prop := c.2 < d.2 ∨ c.2 = d.2 ∧ c.1 < d.1

lemma Region.Before.ne {c d : Nat × Nat} (h : Before c d) : c ≠ d := by
  rintro rfl
  simp only [Before] at h
  omega

lemma Region.pairwise_cells (r : Region) : r.cells.Pairwise Before := by
  have hrange : ∀ first n : Nat, (List.range' first n).Pairwise (· < ·) :=
    fun _ _ => List.pairwise_lt_range'
  rw [Region.cells, List.pairwise_flatMap]
  constructor
  · intro y _
    rw [List.pairwise_map]
    exact (hrange _ _).imp fun hlt => .inr ⟨rfl, hlt⟩
  · refine (hrange _ _).imp fun hlt c hc d hd => ?_
    obtain ⟨_, _, rfl⟩ := List.mem_map.1 hc
    obtain ⟨_, _, rfl⟩ := List.mem_map.1 hd
    exact .inl hlt

lemma Region.nodup_cells (r : Region) : r.cells.Nodup := r.pairwise_cells.imp Before.ne

lemma Rect.contains_iff {r : Rect} {x y : Int} :
    r.contains x y = true ↔ r.x ≤ x ∧ x < r.right ∧ r.y ≤ y ∧ y < r.bottom :=
  decide_eq_true_iff

namespace Grid

variable {α β : Type}

/-! ### Single cells -/

/-- In row-major order different cells have different places. -/
lemma place_inj {w x y x' y' : Nat} (hx : x < w) (hx' : x' < w)
    (h : y * w + x = y' * w + x') : x = x' ∧ y = y' := by
  have hmod := congrArg (· % w) h
  simp only [Nat.mul_add_mod_self_right, Nat.mod_eq_of_lt hx, Nat.mod_eq_of_lt hx'] at hmod
  subst hmod
  have hmul : y * w = y' * w := by omega
  exact ⟨rfl, Nat.eq_of_mul_eq_mul_right (by omega) hmul⟩

lemma at?_isSome {g : Grid α} {x y : Nat} : (g.at? x y).isSome ↔ x < g.width ∧ y < g.height := by
  rw [at?]
  split
  · rename_i hx
    rw [Option.isSome_iff_ne_none, ne_eq, Array.getElem?_eq_none_iff, Nat.not_le, g.size_cells,
      Nat.mul_comm g.width]
    simp only [hx, true_and]
    constructor
    · intro h
      by_contra hy
      have := Nat.mul_le_mul_right g.width (Nat.le_of_not_lt hy)
      omega
    · intro hy
      have := Nat.mul_le_mul_right g.width (Nat.succ_le_of_lt hy)
      rw [Nat.succ_mul] at this
      omega
  · simp [*]

lemma lt_of_at? {g : Grid α} {x y : Nat} {a : α} (h : g.at? x y = some a) :
    x < g.width ∧ y < g.height :=
  at?_isSome.1 (by simp [h])

lemma exists_at? {g : Grid α} {x y : Nat} (hx : x < g.width) (hy : y < g.height) :
    ∃ a, g.at? x y = some a :=
  Option.isSome_iff_exists.1 (at?_isSome.2 ⟨hx, hy⟩)

lemma get?_natCast (g : Grid α) (x y : Nat) : g.get? x y = g.at? x y := by
  simp [get?]

lemma get?_isSome {g : Grid α} {x y : Int} : (g.get? x y).isSome ↔
    (0 ≤ x ∧ x < g.width) ∧ 0 ≤ y ∧ y < g.height := by
  rw [get?]
  split
  · rw [at?_isSome]
    omega
  · simp only [Option.isSome_none, Bool.false_eq_true, false_iff]
    omega

lemma get?_eq_some_iff {g : Grid α} {x y : Int} {a : α} :
    g.get? x y = some a ↔ ∃ i j : Nat, x = i ∧ y = j ∧ g.at? i j = some a := by
  constructor
  · intro h
    rw [get?] at h
    split at h
    · exact ⟨x.toNat, y.toNat, by omega, by omega, h⟩
    · cases h
  · rintro ⟨i, j, rfl, rfl, h⟩
    rwa [get?_natCast]

@[simp] lemma width_modifyAt (g : Grid α) (x y : Nat) (f : α → α) :
    (g.modifyAt x y f).width = g.width := by
  rw [modifyAt]; split <;> rfl

@[simp] lemma height_modifyAt (g : Grid α) (x y : Nat) (f : α → α) :
    (g.modifyAt x y f).height = g.height := by
  rw [modifyAt]; split <;> rfl

lemma at?_modifyAt (g : Grid α) (x y : Nat) (f : α → α) (x' y' : Nat) :
    (g.modifyAt x y f).at? x' y' =
      if (x', y') = (x, y) then (g.at? x' y').map f else g.at? x' y' := by
  by_cases hx : x < g.width
  · by_cases hx' : x' < g.width
    · simp only [modifyAt, hx, if_true, at?, hx', Array.getElem?_modify, Prod.mk.injEq]
      by_cases h : x' = x ∧ y' = y
      · obtain ⟨rfl, rfl⟩ := h
        simp
      · have hne : y * g.width + x ≠ y' * g.width + x' := by
          intro heq
          obtain ⟨h1, h2⟩ := place_inj hx hx' heq
          exact h ⟨h1.symm, h2.symm⟩
        simp [h, hne]
    · have hne : ¬(x', y') = (x, y) := by
        rintro ⟨⟩
        exact hx' hx
      simp [modifyAt, hx, at?, hx', hne]
  · simp only [modifyAt, hx, if_false]
    split
    · rename_i h
      cases h
      simp [at?, hx]
    · rfl

@[simp] lemma at?_map (f : α → β) (g : Grid α) (x y : Nat) :
    (g.map f).at? x y = (g.at? x y).map f := by
  by_cases hx : x < g.width <;> simp [map, at?, hx]

/-- A grid is determined by its size and by what its cells hold. -/
lemma ext_at? {g g' : Grid α} (hwidth : g.width = g'.width) (hheight : g.height = g'.height)
    (h : ∀ x y, g.at? x y = g'.at? x y) : g = g' := by
  obtain ⟨width, height, cells, hpos, _, hsize⟩ := g
  obtain ⟨_, _, cells', _, _, hsize'⟩ := g'
  cases hwidth
  cases hheight
  have hcells : cells = cells' := by
    refine Array.ext_getElem? fun i => ?_
    -- the place of a value is that of the cell in its column and row
    have hat := h (i % width) (i / width)
    simpa only [at?, Nat.mod_lt i hpos, if_true, Nat.div_add_mod'] using hat
  cases hcells
  rfl

lemma at?_fill {width height : Nat} {a : α} {g : Grid α} (h : fill width height a = .ok g)
    {x y : Nat} {b : α} (hb : g.at? x y = some b) : b = a := by
  rw [fill] at h
  split at h
  · cases h
    rw [at?] at hb
    split at hb
    · exact (Array.mem_replicate.1 (Array.mem_of_getElem? hb)).2
    · cases hb
  · cases h

/-! ### Regions -/

lemma region?_eq_some_iff {g : Grid α} {r : Rect} {s : Region} :
    g.region? r = some s ↔
      (0 ≤ r.x ∧ 0 ≤ r.y ∧ r.right ≤ g.width ∧ r.bottom ≤ g.height) ∧
        s = ⟨r.x.toNat, r.y.toNat, r.width, r.height⟩ := by
  rw [region?]
  split
  · rename_i h
    simp only [reduceCtorEq, false_iff, not_and]
    intro hin
    omega
  · rename_i h
    simp only [Option.some.injEq, eq_comm (a := s)]
    exact ⟨fun heq => ⟨by omega, heq⟩, And.right⟩

theorem mem_cells_of_region? {g : Grid α} {r : Rect} {s : Region} (h : g.region? r = some s)
    {x y : Nat} : (x, y) ∈ s.cells ↔ r.contains x y = true := by
  obtain ⟨hin, rfl⟩ := region?_eq_some_iff.1 h
  simp only [Region.mem_cells, Rect.contains_iff, Rect.right, Rect.bottom]
  omega

lemma lt_of_mem_region? {g : Grid α} {r : Rect} {s : Region} (h : g.region? r = some s)
    {x y : Nat} (hc : (x, y) ∈ s.cells) : x < g.width ∧ y < g.height := by
  obtain ⟨hin, rfl⟩ := region?_eq_some_iff.1 h
  simp only [Region.mem_cells, Rect.right, Rect.bottom] at hc hin
  omega

/-- The part of a rectangle on the grid covers the cells of the grid that the rectangle covers. -/
theorem mem_cells_clip {g : Grid α} {r : Rect} {x y : Nat} :
    (x, y) ∈ (g.clip r).cells ↔ x < g.width ∧ y < g.height ∧ r.contains x y = true := by
  rw [Rect.contains_iff, clip]
  simp only [clamp]
  by_cases hempty : min r.right.toNat g.width ≤ min r.x.toNat g.width ∨
      min r.bottom.toNat g.height ≤ min r.y.toNat g.height
  · simp only [hempty, if_true, Region.mem_cells, Region.empty]
    omega
  · simp only [hempty, if_false, Region.mem_cells]
    omega

/-- A cell of a list of cells that are changed one after the other, each once. -/
lemma at?_modifyCells {cs : List (Nat × Nat)} (hcs : cs.Nodup) (g : Grid α) (f : α → α)
    (x y : Nat) :
    (g.modifyCells cs f).at? x y =
      if (x, y) ∈ cs then (g.at? x y).map f else g.at? x y := by
  induction cs generalizing g with
  | nil => simp [modifyCells]
  | cons c cs ih =>
    obtain ⟨hc, hcs⟩ := List.nodup_cons.1 hcs
    have step := ih hcs (g.modifyAt c.1 c.2 f)
    rw [modifyCells] at step ⊢
    rw [List.foldl_cons, step, at?_modifyAt]
    by_cases h : (x, y) = c
    · subst h
      simp [hc]
    · simp [h]

theorem at?_modifyIn (g : Grid α) (r : Region) (f : α → α) (x y : Nat) :
    (g.modifyIn r f).at? x y =
      if (x, y) ∈ r.cells then (g.at? x y).map f else g.at? x y :=
  at?_modifyCells r.nodup_cells g f x y

lemma size_modifyCells (g : Grid α) (cs : List (Nat × Nat)) (f : α → α) :
    (g.modifyCells cs f).width = g.width ∧ (g.modifyCells cs f).height = g.height := by
  induction cs generalizing g with
  | nil => exact ⟨rfl, rfl⟩
  | cons c cs ih => simpa [modifyCells] using ih (g.modifyAt c.1 c.2 f)

@[simp] lemma width_modifyIn (g : Grid α) (r : Region) (f : α → α) :
    (g.modifyIn r f).width = g.width := (size_modifyCells g r.cells f).1

@[simp] lemma height_modifyIn (g : Grid α) (r : Region) (f : α → α) :
    (g.modifyIn r f).height = g.height := (size_modifyCells g r.cells f).2

lemma anyIn_eq_false_iff {g : Grid α} {r : Region} {p : α → Bool} : g.anyIn r p = false ↔
    ∀ {x y a}, (x, y) ∈ r.cells → g.at? x y = some a → p a = false := by
  rw [anyIn.eq_def, List.any_eq_false]
  constructor
  · intro h x y a hc ha
    simpa [ha] using h (x, y) hc
  · rintro h ⟨x, y⟩ hc
    cases ha : g.at? x y with
    | none => simp [ha]
    | some a => simpa [ha] using h hc ha

lemma not_anyIn {g : Grid α} {r : Region} {p : α → Bool} (h : g.anyIn r p = false) {x y : Nat}
    {a : α} (hc : (x, y) ∈ r.cells) (ha : g.at? x y = some a) : p a = false :=
  anyIn_eq_false_iff.1 h hc ha

lemma region?_map (f : α → β) (g : Grid α) (r : Rect) : (g.map f).region? r = g.region? r := rfl

lemma anyIn_map (f : α → β) (g : Grid α) (r : Region) (p : β → Bool) :
    (g.map f).anyIn r p = g.anyIn r fun a => p (f a) := by
  simp only [anyIn, at?_map, Option.any_map]

end Grid

end Lockstep
