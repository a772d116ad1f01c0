/-!
# Linked values

Scripts read properties of units and of the world, and write some of those of their own unit,
through numbered values.
-/

namespace Lockstep.Script

/-- A property that scripts can read by number. -/
inductive LinkedValue where
  /-- Whether the unit is activated. -/
  | activation
  /-- The standing orders about moving. -/
  | standingMoveOrders
  /-- The standing orders about firing. -/
  | standingFireOrders
  /-- The hit points left, in percent. -/
  | health
  /-- Whether the unit is in its build stance. -/
  | inBuildStance
  /-- Whether the unit is busy. -/
  | busy
  /-- The packed place of a piece. -/
  | pieceXZ
  /-- The altitude of a piece. -/
  | pieceY
  /-- The packed place of a unit. -/
  | unitXZ
  /-- The altitude of a unit. -/
  | unitY
  /-- The height of a unit. -/
  | unitHeight
  /-- The direction of a packed place, seen from the heading of the unit. -/
  | xzAtan
  /-- The distance of a packed place from the origin. -/
  | xzHypot
  /-- The direction of a vector. -/
  | atan
  /-- The length of a vector. -/
  | hypot
  /-- The height of the ground at a packed place. -/
  | groundHeight
  /-- What is left to build of the unit, in percent. -/
  | buildPercentLeft
  /-- Whether the yard is open. -/
  | yardOpen
  /-- Whether units are being told to leave the yard. -/
  | buggerOff
  /-- Whether the unit is armored. -/
  | armored
  /-- The experience of the unit. -/
  | veteranLevel
  /-- Whether a unit is run here; every replica runs every unit. -/
  | unitIsOnThisComp
  /-- The smallest number of a unit. -/
  | minId
  /-- The largest number given to a unit so far. -/
  | maxId
  /-- The number of the unit. -/
  | myId
  /-- The owner of a unit. -/
  | unitTeam
  /-- What is left to build of a unit, in percent. -/
  | unitBuildPercentLeft
  /-- Whether a unit has the same owner. -/
  | unitAllied
deriving DecidableEq, Inhabited

namespace LinkedValue

/-- All linked values, in ascending order of their numbers. -/
def all : List LinkedValue :=
  [.activation, .standingMoveOrders, .standingFireOrders, .health, .inBuildStance, .busy, .pieceXZ,
    .pieceY, .unitXZ, .unitY, .unitHeight, .xzAtan, .xzHypot, .atan, .hypot, .groundHeight,
    .buildPercentLeft, .yardOpen, .buggerOff, .armored, .veteranLevel, .unitIsOnThisComp, .minId,
    .maxId, .myId, .unitTeam, .unitBuildPercentLeft, .unitAllied]

/-- The number of a linked value. -/
def number : LinkedValue → Int32
  | activation => 1
  | standingMoveOrders => 2
  | standingFireOrders => 3
  | health => 4
  | inBuildStance => 5
  | busy => 6
  | pieceXZ => 7
  | pieceY => 8
  | unitXZ => 9
  | unitY => 10
  | unitHeight => 11
  | xzAtan => 12
  | xzHypot => 13
  | atan => 14
  | hypot => 15
  | groundHeight => 16
  | buildPercentLeft => 17
  | yardOpen => 18
  | buggerOff => 19
  | armored => 20
  | veteranLevel => 32
  | unitIsOnThisComp => 68
  | minId => 69
  | maxId => 70
  | myId => 71
  | unitTeam => 72
  | unitBuildPercentLeft => 73
  | unitAllied => 74

/-- The name of a linked value. -/
def name : LinkedValue → String
  | activation => "Activation"
  | standingMoveOrders => "StandingMoveOrders"
  | standingFireOrders => "StandingFireOrders"
  | health => "Health"
  | inBuildStance => "InBuildStance"
  | busy => "Busy"
  | pieceXZ => "PieceXZ"
  | pieceY => "PieceY"
  | unitXZ => "UnitXZ"
  | unitY => "UnitY"
  | unitHeight => "UnitHeight"
  | xzAtan => "XZAtan"
  | xzHypot => "XZHypot"
  | atan => "Atan"
  | hypot => "Hypot"
  | groundHeight => "GroundHeight"
  | buildPercentLeft => "BuildPercentLeft"
  | yardOpen => "YardOpen"
  | buggerOff => "BuggerOff"
  | armored => "Armored"
  | veteranLevel => "VeteranLevel"
  | unitIsOnThisComp => "UnitIsOnThisComp"
  | minId => "MinId"
  | maxId => "MaxId"
  | myId => "MyId"
  | unitTeam => "UnitTeam"
  | unitBuildPercentLeft => "UnitBuildPercentLeft"
  | unitAllied => "UnitAllied"

/-- A linked value as text: its name and its number. -/
def text (v : LinkedValue) : String := v.name ++ "(" ++ toString v.number.toInt ++ ")"

/-- The linked value with a number, if there is one. -/
def ofNumber? (n : Int32) : Option LinkedValue := all.find? fun v => v.number = n

/-- Whether scripts can write the value. -/
def isWritable : LinkedValue → Bool
  | activation | standingMoveOrders | standingFireOrders | inBuildStance | busy | yardOpen
  | buggerOff | armored => true
  | _ => false

theorem mem_all (v : LinkedValue) : v ∈ all := by cases v <;> decide

theorem ofNumber?_number (v : LinkedValue) : ofNumber? v.number = some v := by cases v <;> rfl

theorem number_of_ofNumber? {n : Int32} {v : LinkedValue} (h : ofNumber? n = some v) :
    v.number = n := by
  simpa using List.find?_some h

end LinkedValue

end Lockstep.Script
