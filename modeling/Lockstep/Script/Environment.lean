import Lockstep.Script.Error
import Lockstep.Script.Program
import Lockstep.Script.Thread
/-!
# The script state of a unit

Each unit runs the program of its type with static variables and threads of its own.  Threads are
visited in the order in which they were started.  The thread that is being run is not stored here.
-/

namespace Lockstep.Script

/-- The script state of one unit. -/
structure Environment where
  /-- The program. -/
  program : Program
  /-- The static variables. -/
  statics : List Int32
  /-- The threads that are not being run. -/
  threads : SortedTable ThreadId Thread
  /-- The number of the thread that is started next. -/
  nextThread : UInt32
deriving DecidableEq, Inhabited

namespace Environment

/-- The state before anything has run: all variables zero, no threads. -/
def new (program : Program) : Environment :=
  ⟨program, List.replicate program.staticCount 0, .empty, 0⟩

/-- Reads a static variable. -/
def getStatic (env : Environment) (index : UInt32) : Except ScriptError Int32 :=
  match env.statics[index.toNat]? with
  | some v => .ok v
  | none => .error (.noStatic index env.statics.length)

/-- Writes a static variable. -/
def setStatic (env : Environment) (index : UInt32) (v : Int32) : Except ScriptError Environment :=
  if index.toNat < env.statics.length then
    .ok { env with statics := env.statics.set index.toNat v }
  else .error (.noStatic index env.statics.length)

/-- Starts a thread at a function. -/
def startThread (env : Environment) (function : UInt32) (params : List Int32) (mask : UInt32) :
    Except Failure (ThreadId × Environment) :=
  match env.program.function? function with
  | none => .error (.fault (.unknownFunction function))
  | some f =>
    match Overflow.successor env.nextThread with
    | .error cause => .error (.halt (.overflow cause))
    | .ok next =>
      let id : ThreadId := ⟨env.nextThread⟩
      .ok (id, { env with
        threads := env.threads.insert id (.start f.name f.address params mask)
        nextThread := next })

/-- Starts a thread, with an empty mask, at the function with a name; nothing happens if there is
no such function. -/
def startNamed (env : Environment) (name : String) (params : List Int32) :
    Except Failure (Option ThreadId × Environment) :=
  match env.program.findFunction? name with
  | none => .ok (none, env)
  | some function => (env.startThread function params 0).map fun (id, env) => (some id, env)

/-- Kills the threads whose masks meet the signal, except the sender. -/
def signal (env : Environment) (signal : UInt32) (sender : Option ThreadId) : Environment :=
  { env with
    threads := ⟨env.threads.entries.filter fun (id, t) =>
        decide (some id = sender ∨ t.mask &&& signal = 0),
      env.threads.ascending.sublist List.filter_sublist⟩ }

/-- Sets the mask of a thread, if there is such a thread. -/
def setMask (env : Environment) (id : ThreadId) (mask : UInt32) : Environment :=
  { env with threads := env.threads.modify id fun t => { t with mask := mask } }

/-- Takes a thread out. -/
def removeThread (env : Environment) (id : ThreadId) : Environment :=
  { env with threads := env.threads.erase id }

/-- Puts a thread in. -/
def putThread (env : Environment) (id : ThreadId) (t : Thread) : Environment :=
  { env with threads := env.threads.insert id t }

end Environment

end Lockstep.Script
