import Lockstep.Axis
import Lockstep.Identifier
/-!
# Threads of a script

A thread runs one function of a script and the functions that it calls.  It owns a stack of values
and one frame for each function that has been entered and not yet left.  Popping an empty stack
gives zero.
-/

namespace Lockstep.Script

/-- A function that has been entered and not yet left. -/
structure Frame where
  /-- The address of the next word. -/
  address : Nat
  /-- The parameters, then the other local variables. -/
  locals : List Int32
  /-- The number of local variables declared so far.  Parameters are declared again, so a
  declaration adds a variable only when this has caught up with the number of locals. -/
  declared : Nat
deriving DecidableEq, Inhabited

namespace Frame

/-- The frame of a function just entered with parameters. -/
def enter (address : Nat) (params : List Int32) : Frame := ⟨address, params, 0⟩

/-- Declares one more local variable. -/
def declare (f : Frame) : Frame :=
  { f with
    locals := if f.declared = f.locals.length then f.locals ++ [0] else f.locals
    declared := f.declared + 1 }

end Frame

/-- When a thread goes on. -/
inductive ThreadState where
  /-- At the next opportunity. -/
  | ready
  /-- As soon as the clock shows the tick. -/
  | sleeping (wakeAt : Tick)
  /-- As soon as the piece does not move along the axis. -/
  | awaitingMove (piece : UInt32) (axis : Axis)
  /-- As soon as the piece does not turn about the axis. -/
  | awaitingTurn (piece : UInt32) (axis : Axis)
deriving DecidableEq, Inhabited

/-- A thread of a script. -/
structure Thread where
  /-- The name of the function that the thread began with. -/
  name : String
  /-- The values on the stack, the top first. -/
  stack : List Int32
  /-- The functions entered and not yet left, the innermost first. -/
  frames : List Frame
  /-- The signals that kill the thread. -/
  mask : UInt32
  /-- The value of the last function that was left. -/
  result : Int32
  /-- The local variables of the last function that was left. -/
  resultLocals : List Int32
  /-- When the thread goes on. -/
  state : ThreadState
deriving DecidableEq, Inhabited

namespace Thread

/-- A thread about to enter a function. -/
def start (name : String) (address : Nat) (params : List Int32) (mask : UInt32) : Thread :=
  ⟨name, [], [Frame.enter address params], mask, 0, [], .ready⟩

/-- Whether all functions have been left. -/
def isFinished (t : Thread) : Bool := t.frames.isEmpty

/-- The address of the next word. -/
def address (t : Thread) : Nat := (t.frames.head?.map Frame.address).getD 0

/-- Puts a value on the stack. -/
def push (t : Thread) (v : Int32) : Thread := { t with stack := v :: t.stack }

/-- The value on top of the stack; zero if there is none. -/
def top (t : Thread) : Int32 := t.stack.headD 0

/-- Takes the top off the stack. -/
def pop (t : Thread) : Thread := { t with stack := t.stack.tail }

/-- The `n` topmost values of the stack, the top first, as if there were zeros below it. -/
def topMany (t : Thread) (n : Nat) : List Int32 :=
  t.stack.take n ++ List.replicate (n - t.stack.length) 0

/-- Takes the `n` topmost values off the stack. -/
def dropMany (t : Thread) (n : Nat) : Thread := { t with stack := t.stack.drop n }

/-- Changes the innermost frame. -/
def modifyFrame (t : Thread) (f : Frame → Frame) : Thread :=
  match t.frames with
  | [] => t
  | frame :: rest => { t with frames := f frame :: rest }

/-- Leaves the innermost function with a value. -/
def leave (t : Thread) (v : Int32) : Thread :=
  match t.frames with
  | [] => { t with result := v }
  | frame :: rest => { t with result := v, resultLocals := frame.locals, frames := rest }

end Thread

end Lockstep.Script
