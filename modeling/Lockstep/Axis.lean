/-!
# The three axes

Pieces of a model move along and turn about three axes.  Scripts name an axis by a word.
-/

namespace Lockstep

/-- One of the three axes of space; `y` points up. -/
inductive Axis where
  /-- East and west. -/
  | x
  /-- Up and down. -/
  | y
  /-- North and south. -/
  | z
deriving DecidableEq, Inhabited

namespace Axis

/-- All axes, in the order of their words. -/
def all : List Axis := [x, y, z]

/-- The axis that a script word names, if it names one. -/
def ofWord? (word : UInt32) : Option Axis :=
  if word = 0 then some x else if word = 1 then some y else if word = 2 then some z else none

/-- The place of an axis in the order of their words. -/
def index : Axis → Nat
  | x => 0
  | y => 1
  | z => 2

/-- The letter of an axis. -/
def text : Axis → String
  | x => "x"
  | y => "y"
  | z => "z"

theorem ofWord?_index (a : Axis) : ofWord? (UInt32.ofNat a.index) = some a := by
  cases a <;> rfl

end Axis

/-- One value for each axis. -/
structure Triple (α : Type) where
  /-- The value for the first axis. -/
  x : α
  /-- The value for the upright axis. -/
  y : α
  /-- The value for the third axis. -/
  z : α
deriving DecidableEq, Inhabited

namespace Triple

variable {α β : Type}

/-- The same value for each axis. -/
def const (a : α) : Triple α := ⟨a, a, a⟩

/-- The value for an axis. -/
def get (t : Triple α) : Axis → α
  | .x => t.x
  | .y => t.y
  | .z => t.z

/-- Replaces the value for an axis. -/
def set (t : Triple α) (axis : Axis) (a : α) : Triple α :=
  match axis with
  | .x => { t with x := a }
  | .y => { t with y := a }
  | .z => { t with z := a }

/-- The values in the order of the axes. -/
def toList (t : Triple α) : List α := [t.x, t.y, t.z]

@[simp] theorem get_set (t : Triple α) (i j : Axis) (a : α) :
    (t.set i a).get j = if i = j then a else t.get j := by
  cases i <;> cases j <;> rfl

end Triple

end Lockstep
