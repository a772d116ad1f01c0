import Lockstep.Space.Grid
import Lockstep.Text.Blank
/-!
# Yard maps

The yard map of a building tells, cell by cell, what kind of ground the cell needs and when units
may pass through it.  It is written with one character for each cell, row by row; blank characters
are left out, cells that are not written are solid ground, and what is written past the last cell
is ignored.
-/

namespace Lockstep

/-- One cell of a yard map. -/
inductive YardCell where
  /-- Ground that is passable while the yard is open. -/
  | groundWhenOpen
  /-- Water that is passable while the yard is open. -/
  | waterWhenOpen
  /-- Solid ground that no feature may stand on. -/
  | groundNoFeature
  /-- A vent that is passable while the yard is open. -/
  | ventWhenOpen
  /-- A solid vent. -/
  | vent
  /-- Solid ground. -/
  | ground
  /-- Ground that is passable while the yard is closed. -/
  | groundWhenClosed
  /-- Solid water. -/
  | water
  /-- Ground that is always passable. -/
  | groundAlways
  /-- Water that is always passable. -/
  | waterAlways
  /-- Always passable, whatever the ground. -/
  | always
deriving DecidableEq, Inhabited

namespace YardCell

/-- The character that a cell is written with. -/
def toChar : YardCell → Char
  | groundWhenOpen => 'c'
  | waterWhenOpen => 'C'
  | groundNoFeature => 'f'
  | ventWhenOpen => 'g'
  | vent => 'G'
  | ground => 'o'
  | groundWhenClosed => 'O'
  | water => 'w'
  | groundAlways => 'y'
  | waterAlways => 'Y'
  | always => '.'

/-- The cells of all kinds. -/
def all : List YardCell :=
  [groundWhenOpen, waterWhenOpen, groundNoFeature, ventWhenOpen, vent, ground, groundWhenClosed,
    water, groundAlways, waterAlways, always]

/-- The cell that a character is written for, if there is one. -/
def ofChar? (c : Char) : Option YardCell := all.find? fun cell => cell.toChar = c

/-- The cell that a character is written for. -/
def ofChar (c : Char) : Except SpaceError YardCell :=
  match ofChar? c with
  | some cell => .ok cell
  | none => .error (.yardCharacter c)

/-- Whether units may pass through the cell while the yard is open or closed. -/
def isPassable (cell : YardCell) (isOpen : Bool) : Bool :=
  match cell with
  | groundWhenOpen | waterWhenOpen | ventWhenOpen => isOpen
  | groundWhenClosed => !isOpen
  | groundAlways | waterAlways | always => true
  | groundNoFeature | vent | ground | water => false

theorem ofChar?_toChar (cell : YardCell) : ofChar? cell.toChar = some cell := by
  cases cell <;> rfl

end YardCell

/-- The kind of each cell of a building. -/
abbrev YardMap := Grid YardCell

namespace YardMap

/-- Reads a yard map of the given size. -/
def parse (width height : Nat) (text : String) : Except SpaceError YardMap := do
  let count := width * height
  let written := (text.toList.filter fun c => !Text.isBlank c).take count
  let cells ← written.mapM YardCell.ofChar
  Grid.ofArray width height (cells ++ List.replicate (count - cells.length) YardCell.ground).toArray

end YardMap

end Lockstep
