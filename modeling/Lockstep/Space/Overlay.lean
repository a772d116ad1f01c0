import Lockstep.Overflow
import Lockstep.Space.Grid
/-!
# Laying one grid over another

A grid can be laid over another one with its top left cell at a given column and row.  Each cell of
the grid below that is covered is then paired with the cell that covers it; what sticks out is
ignored.  The offset is a pair of words: to find the covered part it is read as signed, to find the
covering cell it is subtracted as unsigned, and that difference has to exist.
-/

namespace Lockstep.Grid

variable {α β : Type}

/-- The part of a grid that is covered when another one is laid over it. -/
def overlayRegion (g : Grid α) (x y : UInt32) (other : Grid β) : Region :=
  g.clip ⟨x.toInt32.toInt, y.toInt32.toInt, other.width, other.height⟩

/-- The cell of the upper grid that covers a cell of the lower one. -/
def coveringCell (x y : UInt32) (cell : Nat × Nat) : Except Overflow (Nat × Nat) := do
  let cx ← Overflow.difference cell.1 x.toNat
  let cy ← Overflow.difference cell.2 y.toNat
  return (cx, cy)

/-- Whether a pair of cells, given by the lower one, has the property. -/
def holdsAt (g : Grid α) (x y : UInt32) (other : Grid β) (p : α → β → Bool) (cell : Nat × Nat) :
    Except Overflow Bool := do
  let (cx, cy) ← coveringCell x y cell
  match g.at? cell.1 cell.2, other.at? cx cy with
  | some a, some b => return p a b
  | _, _ => return false

/-- Whether some of the listed cells, with the cells that cover them, has the property.  Cells after
the first hit are not looked at. -/
def anyCovered (g : Grid α) (x y : UInt32) (other : Grid β) (p : α → β → Bool) :
    List (Nat × Nat) → Except Overflow Bool
  | [] => return false
  | cell :: rest => do
    if ← holdsAt g x y other p cell then return true
    else anyCovered g x y other p rest

/-- Whether some covered cell has the property together with the cell that covers it. -/
def anyOverlay (g : Grid α) (x y : UInt32) (other : Grid β) (p : α → β → Bool) :
    Except Overflow Bool :=
  anyCovered g x y other p (g.overlayRegion x y other).cells

/-- Changes one covered cell by the cell that covers it. -/
def modifyCovered (x y : UInt32) (other : Grid β) (f : α → β → α) (g : Grid α)
    (cell : Nat × Nat) : Except Overflow (Grid α) := do
  let (cx, cy) ← coveringCell x y cell
  match other.at? cx cy with
  | some b => return g.modifyAt cell.1 cell.2 fun a => f a b
  | none => return g

/-- Changes each covered cell by the cell that covers it. -/
def modifyOverlay (g : Grid α) (x y : UInt32) (other : Grid β) (f : α → β → α) :
    Except Overflow (Grid α) :=
  (g.overlayRegion x y other).cells.foldlM (modifyCovered x y other f) g

end Lockstep.Grid
