import Lockstep.Overflow
/-!
# Computations that stop

Besides answering or refusing, a computation can stop altogether: a checked operation overflows, a
random number is drawn from a range without numbers, or a script runs on until its budget of steps
is used up.  Nothing can be said about the world after that.
-/

namespace Lockstep

/-- Why a computation stopped altogether. -/
inductive Halt where
  /-- A checked operation overflowed. -/
  | overflow (cause : Overflow)
  /-- A random number was to be drawn from a range without numbers. -/
  | emptyRange
  /-- A script used up its budget of steps. -/
  | exhausted
deriving DecidableEq, Inhabited

namespace Halt

/-- What is reported to the user. -/
def message : Halt → String
  | overflow cause => cause.message
  | emptyRange => "cannot sample empty range"
  | exhausted => "script did not stop within its budget"

end Halt

end Lockstep
