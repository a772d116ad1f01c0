import Lockstep.Axis
/-!
# Why a thread stopped

A thread runs until its last function is left or until it has to wait for the world: for a motion to
be set going, for one to end, or for time to pass.  All quantities here are as the script gave them.
-/

namespace Lockstep.Script

/-- A motion of a piece along or about an axis, as a script asks for it. -/
inductive Motion where
  /-- Move toward an offset at a speed. -/
  | move (position speed : Int32)
  /-- Move to an offset at once. -/
  | moveNow (position : Int32)
  /-- Turn toward an angle at a speed. -/
  | turn (angle speed : Int32)
  /-- Turn to an angle at once. -/
  | turnNow (angle : Int32)
  /-- Spin up to a speed. -/
  | spin (targetSpeed acceleration : Int32)
  /-- Spin down to rest. -/
  | stopSpin (deceleration : Int32)
deriving DecidableEq, Inhabited

/-- Why a thread stopped. -/
inductive Status where
  /-- All functions have been left. -/
  | finished
  /-- A motion has to be set going; then the thread goes on. -/
  | motion (piece : UInt32) (axis : Axis) (motion : Motion)
  /-- The thread waits until a piece does not move along an axis. -/
  | awaitingMove (piece : UInt32) (axis : Axis)
  /-- The thread waits until a piece does not turn about an axis. -/
  | awaitingTurn (piece : UInt32) (axis : Axis)
  /-- The thread sleeps. -/
  | sleeping (milliseconds : Int32)
deriving DecidableEq, Inhabited

end Lockstep.Script
