/-!
# Rectangles of cells

A rectangle covers the cells from its top left cell on; it may lie off the map in part or wholly.
A region is a rectangle that is known to lie inside some grid.
-/

namespace Lockstep

/-- A rectangle of cells, which need not lie inside a grid. -/
structure Rect where
  /-- The leftmost column. -/
  x : Int
  /-- The topmost row. -/
  y : Int
  /-- The number of columns. -/
  width : Nat
  /-- The number of rows. -/
  height : Nat
deriving DecidableEq, Inhabited

namespace Rect

/-- Whether no cell is covered. -/
def isEmpty (r : Rect) : Bool := decide (r.width = 0 ∨ r.height = 0)

/-- The column after the rightmost one. -/
def right (r : Rect) : Int := r.x + r.width

/-- The row after the lowest one. -/
def bottom (r : Rect) : Int := r.y + r.height

/-- Whether a cell is covered. -/
def contains (r : Rect) (x y : Int) : Bool :=
  decide (r.x ≤ x ∧ x < r.right ∧ r.y ≤ y ∧ y < r.bottom)

/-- Whether two rectangles have a cell in common. -/
def intersects (r s : Rect) : Bool :=
  !r.isEmpty && !s.isEmpty &&
    decide (r.x < s.right ∧ s.x < r.right ∧ r.y < s.bottom ∧ s.y < r.bottom)

/-- A rectangle as text: its corner, then its size. -/
def text (r : Rect) : String :=
  "[" ++ toString r.x ++ ", " ++ toString r.y ++ "; " ++ toString r.width ++ "x"
    ++ toString r.height ++ "]"

end Rect

/-- A rectangle of cells inside a grid. -/
structure Region where
  /-- The leftmost column. -/
  x : Nat
  /-- The topmost row. -/
  y : Nat
  /-- The number of columns. -/
  width : Nat
  /-- The number of rows. -/
  height : Nat
deriving DecidableEq, Inhabited

namespace Region

/-- The region without cells. -/
def empty : Region := ⟨0, 0, 0, 0⟩

/-- Whether no cell is covered. -/
def isEmpty (r : Region) : Bool := decide (r.width = 0 ∨ r.height = 0)

/-- The number of cells. -/
def cellCount (r : Region) : Nat := r.width * r.height

/-- The cells, row by row. -/
def cells (r : Region) : List (Nat × Nat) :=
  (List.range' r.y r.height).flatMap fun y => (List.range' r.x r.width).map fun x => (x, y)

/-- The rectangle of a region; its corner is read as a signed word. -/
def toRect (r : Region) : Rect :=
  ⟨(Int32.ofNat r.x).toInt, (Int32.ofNat r.y).toInt, r.width, r.height⟩

theorem mem_cells {r : Region} {x y : Nat} :
    (x, y) ∈ r.cells ↔ r.x ≤ x ∧ x < r.x + r.width ∧ r.y ≤ y ∧ y < r.y + r.height := by
  simp only [cells, List.mem_flatMap, List.mem_map, List.mem_range'_1, Prod.mk.injEq]
  constructor
  · rintro ⟨b, hb, a, ha, rfl, rfl⟩
    exact ⟨ha.1, ha.2, hb.1, hb.2⟩
  · rintro ⟨h1, h2, h3, h4⟩
    exact ⟨y, ⟨h3, h4⟩, x, ⟨h1, h2⟩, rfl, rfl⟩

end Region

end Lockstep
