import Lockstep.Halt
import Lockstep.Script.LinkedValue
import Lockstep.Script.Units
/-!
# What a script sees of the world

A script never touches the world itself.  It reads snapshots of units, asks a few questions about
the world, draws random numbers, and asks for effects on its own unit.  All of this goes through a
host, which may be the world itself or a record of what was asked for.
-/

namespace Lockstep.Script

/-- What scripts can read of a unit. -/
structure UnitView where
  /-- Where the unit is. -/
  position : Vector3
  /-- The heading. -/
  rotation : Angle
  /-- The height of the unit. -/
  height : Scalar
  /-- The owner. -/
  owner : PlayerId
  /-- The hit points left. -/
  hitPoints : UInt32
  /-- The hit points of an unharmed unit. -/
  maxHitPoints : UInt32
  /-- Whether the unit is activated. -/
  activated : Bool
  /-- Whether the unit is in its build stance. -/
  inBuildStance : Bool
  /-- Whether the yard is open. -/
  yardOpen : Bool
  /-- What is left to build, in percent. -/
  buildPercentLeft : UInt32
  /-- The standing orders about firing. -/
  fireOrders : Int32
  /-- The standing orders about moving. -/
  moveOrders : Int32
  /-- Whether the unit is armored. -/
  armored : Bool
deriving DecidableEq, Inhabited

/-- An unharmed unit at the origin. -/
def UnitView.plain (owner : PlayerId) : UnitView where
  position := 0
  rotation := 0
  height := .ofWhole 10
  owner := owner
  hitPoints := 100
  maxHitPoints := 100
  activated := false
  inBuildStance := false
  yardOpen := false
  buildPercentLeft := 0
  fireOrders := 0
  moveOrders := 0
  armored := false

/-- Something to be seen at a piece of a unit. -/
inductive PieceEffect where
  /-- The piece is blown off. -/
  | explode (kind : Int32)
  /-- Particles come from the piece. -/
  | smoke (kind : Int32)
deriving DecidableEq, Inhabited

/-- Something that a script asks for on its own unit. -/
inductive Effect where
  /-- Show or hide a piece. -/
  | visible (piece : String) (value : Bool)
  /-- Light a piece or not. -/
  | shaded (piece : String) (value : Bool)
  /-- Let something be seen at a piece. -/
  | emit (piece : String) (effect : PieceEffect)
  /-- Activate or deactivate the unit. -/
  | activation (value : Bool)
  /-- Enter or leave the build stance. -/
  | buildStance (value : Bool)
  /-- Open or close the yard, if that traps no one. -/
  | yard (value : Bool)
  /-- Begin or stop to tell other units to leave the footprint. -/
  | buggerOff (value : Bool)
  /-- Set the standing orders about moving. -/
  | moveOrders (value : Int32)
  /-- Set the standing orders about firing. -/
  | fireOrders (value : Int32)
  /-- Set whether the unit is armored. -/
  | armored (value : Bool)
deriving DecidableEq, Inhabited

/-- The answers of a world with states `σ` to a script. -/
structure Host (σ : Type) where
  /-- Draws a random number from a range, ends included. -/
  random : Int32 → Int32 → σ → Except Halt (Int32 × σ)
  /-- A snapshot of a unit. -/
  unit? : UnitId → σ → Option UnitView
  /-- The place of a piece of a unit. -/
  piecePosition? : UnitId → String → σ → Option Vector3
  /-- The height of the ground. -/
  groundHeight : Scalar → Scalar → σ → Scalar
  /-- The smallest number of a unit, or zero. -/
  minUnit : σ → UInt32
  /-- The largest number given to a unit so far, or zero. -/
  maxUnit : σ → UInt32
  /-- Carries out what a script asks for on its unit. -/
  apply : UnitId → Effect → σ → Except Halt σ

/-- What writing a linked value asks for: an effect, nothing, or something that is not allowed. -/
inductive Write where
  /-- An effect on the unit. -/
  | effect (e : Effect)
  /-- Nothing at all. -/
  | ignored
  /-- The value cannot be written. -/
  | refused
deriving DecidableEq, Inhabited

/-- What it means to write a linked value. -/
def LinkedValue.write (v : LinkedValue) (n : Int32) : Write :=
  match v with
  | activation => .effect (.activation (n != 0))
  | standingMoveOrders => .effect (.moveOrders n)
  | standingFireOrders => .effect (.fireOrders n)
  | inBuildStance => .effect (.buildStance (n != 0))
  | busy => .ignored
  | yardOpen => .effect (.yard (n != 0))
  | buggerOff => .effect (.buggerOff (n != 0))
  | armored => .effect (.armored (n != 0))
  | _ => .refused

theorem LinkedValue.write_eq_refused_iff (v : LinkedValue) (n : Int32) :
    v.write n = .refused ↔ v.isWritable = false := by
  cases v <;> simp [write, isWritable]

end Lockstep.Script
