import Lockstep.Space.Rect
import Lockstep.Text.Quoted
/-!
# What can be wrong with a grid or a place in it
-/

namespace Lockstep

/-- What is wrong with a grid or with a place in a grid. -/
inductive SpaceError where
  /-- A cell lies outside the grid of the given size. -/
  | cellOutOfBounds (x y : Int) (width height : Nat)
  /-- A rectangle does not lie wholly inside the grid of the given size. -/
  | rectOutOfBounds (rect : Rect) (width height : Nat)
  /-- The number of cells is not the one that the size asks for. -/
  | cellCount (expected actual : Nat)
  /-- A character stands for no cell of a yard map. -/
  | yardCharacter (found : Char)
  /-- The grid would have no cell. -/
  | noCells
deriving DecidableEq, Inhabited

namespace SpaceError

/-- The columns and rows that exist in a grid of the given size. -/
def boundsText (width height : Nat) : String :=
  "[0, " ++ toString width ++ ") x [0, " ++ toString height ++ ")"

/-- What is reported to the user. -/
def message : SpaceError → String
  | cellOutOfBounds x y width height =>
    "cell (" ++ toString x ++ ", " ++ toString y ++ ") out of bounds: " ++ boundsText width height
  | rectOutOfBounds rect width height =>
    "rect " ++ rect.text ++ " out of bounds: " ++ boundsText width height
  | cellCount expected actual =>
    "expected " ++ toString expected ++ " cells, got " ++ toString actual
  | yardCharacter found => "invalid yard map cell " ++ Text.Quoted.char found
  | noCells => "grid must have at least one cell"

end SpaceError

end Lockstep
