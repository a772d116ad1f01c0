import Lockstep.Space.Error
/-!
# Grids of cells

A grid holds one value for each cell of a rectangle that starts at the origin; it always has at
least one cell.  Cells are looked up by column and row.  Rectangles are either required to lie
inside the grid or clipped to it; the region that results is what the operations on many cells
take.
-/

namespace Lockstep

/-- A value for each cell of a rectangle at the origin, kept row by row. -/
structure Grid (α : Type) where
  /-- The number of columns. -/
  width : Nat
  /-- The number of rows. -/
  height : Nat
  /-- The values, row by row. -/
  cells : Array α
  /-- There is a column. -/
  width_pos : 0 < width
  /-- There is a row. -/
  height_pos : 0 < height
  /-- There is one value for each cell. -/
  size_cells : cells.size = width * height
deriving DecidableEq

namespace Grid

variable {α β : Type}

instance [Inhabited α] : Inhabited (Grid α) :=
  ⟨⟨1, 1, #[default], by decide, by decide, rfl⟩⟩

/-- A grid with the same value everywhere. -/
def fill (width height : Nat) (a : α) : Except SpaceError (Grid α) :=
  if h : 0 < width ∧ 0 < height then
    .ok ⟨width, height, Array.replicate (width * height) a, h.1, h.2, by simp⟩
  else .error .noCells

/-- The grid with the given values, row by row. -/
def ofArray (width height : Nat) (cells : Array α) : Except SpaceError (Grid α) :=
  if h : 0 < width ∧ 0 < height then
    if hs : cells.size = width * height then .ok ⟨width, height, cells, h.1, h.2, hs⟩
    else .error (.cellCount (width * height) cells.size)
  else .error .noCells

/-- The value at a cell of the grid. -/
def at? (g : Grid α) (x y : Nat) : Option α :=
  if x < g.width then g.cells[y * g.width + x]? else none

/-- The value at a cell, if the cell exists. -/
def get? (g : Grid α) (x y : Int) : Option α :=
  if 0 ≤ x ∧ 0 ≤ y then g.at? x.toNat y.toNat else none

/-- Changes the value at one cell; a cell that does not exist is not changed. -/
def modifyAt (g : Grid α) (x y : Nat) (f : α → α) : Grid α :=
  if x < g.width then
    { g with
      cells := g.cells.modify (y * g.width + x) f
      size_cells := by rw [Array.size_modify, g.size_cells] }
  else g

/-- Replaces the value at a cell. -/
def set (g : Grid α) (x y : Int) (a : α) : Except SpaceError (Grid α) :=
  if 0 ≤ x ∧ x < g.width ∧ 0 ≤ y ∧ y < g.height then
    .ok (g.modifyAt x.toNat y.toNat fun _ => a)
  else .error (.cellOutOfBounds x y g.width g.height)

/-- The whole grid as a region. -/
def fullRegion (g : Grid α) : Region := ⟨0, 0, g.width, g.height⟩

/-- A rectangle as a region, if all of it lies inside the grid. -/
def region? (g : Grid α) (r : Rect) : Option Region :=
  if r.x < 0 ∨ r.y < 0 ∨ g.width < r.right ∨ g.height < r.bottom then none
  else some ⟨r.x.toNat, r.y.toNat, r.width, r.height⟩

/-- A rectangle as a region; it is an error if some of it lies outside the grid. -/
def region (g : Grid α) (r : Rect) : Except SpaceError Region :=
  match g.region? r with
  | some region => .ok region
  | none => .error (.rectOutOfBounds r g.width g.height)

/-- An integer moved into the range from zero to `n`. -/
def clamp (i : Int) (n : Nat) : Nat := min i.toNat n

/-- The part of a rectangle that lies inside the grid. -/
def clip (g : Grid α) (r : Rect) : Region :=
  let left := clamp r.x g.width
  let top := clamp r.y g.height
  let right := clamp r.right g.width
  let bottom := clamp r.bottom g.height
  if right ≤ left ∨ bottom ≤ top then .empty
  else ⟨left, top, right - left, bottom - top⟩

/-- The values at the cells of a region, row by row. -/
def valuesIn (g : Grid α) (r : Region) : List α :=
  r.cells.filterMap fun (x, y) => g.at? x y

/-- Whether some cell of a region has a value with the property. -/
def anyIn (g : Grid α) (r : Region) (p : α → Bool) : Bool :=
  r.cells.any fun (x, y) => (g.at? x y).any p

/-- Changes the values at the listed cells, one after the other. -/
def modifyCells (g : Grid α) (cs : List (Nat × Nat)) (f : α → α) : Grid α :=
  cs.foldl (fun g (x, y) => g.modifyAt x y f) g

/-- Changes the value at each cell of a region. -/
def modifyIn (g : Grid α) (r : Region) (f : α → α) : Grid α := g.modifyCells r.cells f

/-- Sets the value at each cell of a region. -/
def fillIn (g : Grid α) (r : Region) (a : α) : Grid α := g.modifyIn r fun _ => a

/-- The grid with a function applied to each value. -/
def map (f : α → β) (g : Grid α) : Grid β :=
  ⟨g.width, g.height, g.cells.map f, g.width_pos, g.height_pos, by
    rw [Array.size_map, g.size_cells]⟩

end Grid

end Lockstep
