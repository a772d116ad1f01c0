import Lockstep.World.ScriptHost
/-!
# Running the scripts of units

In each tick the threads of a unit are resumed in the order in which they were started, each at most
once.  Threads that are started meanwhile run from the next tick on.  While the threads run, the
state of the script is taken out of the unit.
-/

namespace Lockstep.World

open Script (Environment Exec Machine Motion Program Thread ThreadState)

/-- The operation on the world that sets a motion going, speeds being turned from seconds to
ticks. -/
def motionAction (id : UnitId) (piece : String) (axis : Axis) : Motion → Action Unit
  | .move position speed => movePiece id piece axis ⟨position⟩ ⟨Script.perTick speed⟩
  | .moveNow position => movePieceNow id piece axis ⟨position⟩
  | .turn angle speed =>
    turnPiece id piece axis (Script.angleOfValue angle) (Script.perTick speed).toInt
  | .turnNow angle => turnPieceNow id piece axis (Script.angleOfValue angle)
  | .spin targetSpeed acceleration =>
    spinPiece id piece axis (Script.perTick targetSpeed).toInt (Script.perTick acceleration).toInt
  | .stopSpin deceleration => stopSpinPiece id piece axis (Script.perTick deceleration).toInt

/-- Sets a motion going; a refusal is noted. -/
def applyMotion (id : UnitId) (piece : UInt32) (axis : Axis) (motion : Motion) :
    Exec World Unit := do
  let name ← Machine.pieceName piece
  let m ← get
  match (motionAction id name axis motion).on m.world with
  | (.ok _, world) => set { m with world := world }
  | (.error (.refused cause), world) =>
    set { m with world := world.note (.motionIgnored id cause) }
  | (.error (.halt cause), world) =>
    set { m with world := world }
    throw (.halt cause)

/-- Runs a thread until it finishes or has to wait; then the answer is how it waits. -/
def resume (id : UnitId) : (budget : Nat) → Exec World (Option ThreadState)
  | 0 => throw (.halt .exhausted)
  | budget + 1 => do
    match ← Machine.step host id with
    | none => resume id budget
    | some .finished => return none
    | some (.motion piece axis motion) =>
      applyMotion id piece axis motion
      resume id budget
    | some (.awaitingMove piece axis) => return some (.awaitingMove piece axis)
    | some (.awaitingTurn piece axis) => return some (.awaitingTurn piece axis)
    | some (.sleeping milliseconds) =>
      return some (.sleeping ((← get).world.time + Script.ticksOfMilliseconds milliseconds))

/-- Whether a thread can go on. -/
inductive Readiness where
  /-- It can. -/
  | ready
  /-- It has to wait. -/
  | waiting
  /-- It can, but what it waits for does not exist. -/
  | missing (piece : String)
  /-- It waits for a number that is not in the table of pieces. -/
  | faulty (error : ScriptError)
deriving DecidableEq, Inhabited

/-- Whether a thread that waits for a piece can go on. -/
def pieceReadiness (w : World) (id : UnitId) (p : Program) (piece : UInt32)
    (isBusy : Piece → Bool) : Readiness :=
  match p.pieceName? piece with
  | none => .faulty (.unknownPiece piece)
  | some name =>
    match (w.units.get? id).bind fun u => u.piece? name with
    | none => .missing name
    | some piece => if isBusy piece then .waiting else .ready

/-- Whether a thread can go on. -/
def readiness (w : World) (id : UnitId) (p : Program) : ThreadState → Readiness
  | .ready => .ready
  | .sleeping wakeAt => if wakeAt ≤ w.time then .ready else .waiting
  | .awaitingMove piece axis => w.pieceReadiness id p piece fun q => q.isMoving axis
  | .awaitingTurn piece axis => w.pieceReadiness id p piece fun q => q.isTurning axis

/-- Resumes a thread that has been taken out of the script state.  It is put back if it has to wait
again; if it finishes or is faulty, it is gone. -/
def resumeThread (budget : Nat) (id : UnitId) (thread : ThreadId) (t : Thread)
    (environment : Environment) : Action Environment := do
  let w ← get
  match (resume id budget).run.run ⟨w, environment, { t with state := .ready }⟩ with
  | (.ok none, m) =>
    set m.world
    return m.environment
  | (.ok (some state), m) =>
    set m.world
    return m.environment.putThread thread { m.thread with state := state }
  | (.error (.fault error), m) =>
    set (m.world.note (.threadFaulted id thread t.name error))
    return m.environment
  | (.error (.halt cause), m) =>
    set m.world
    throw (.halt cause)

/-- Visits a thread: resumes it if it is still there and can go on. -/
def visitThread (budget : Nat) (id : UnitId) (environment : Environment) (thread : ThreadId) :
    Action Environment := do
  match environment.threads.get? thread with
  | none => return environment
  | some t =>
    let rest := environment.removeThread thread
    match (← get).readiness id environment.program t.state with
    | .waiting => return rest.putThread thread t
    | .faulty error =>
      modify (·.note (.threadFaulted id thread t.name error))
      return rest
    | .ready => resumeThread budget id thread t rest
    | .missing piece =>
      modify (·.note (.awaitsMissingPiece id piece))
      resumeThread budget id thread t rest

/-- Takes the script state out of a unit. -/
def detachEnvironment (w : World) (id : UnitId) : World :=
  w.modifyUnit id fun u => { u with environment := none }

/-- Puts the script state back into a unit. -/
def attachEnvironment (w : World) (id : UnitId) (environment : Environment) : World :=
  w.modifyUnit id fun u => { u with environment := some environment }

/-- Resumes all threads of a unit that can go on. -/
def runUnitScripts (budget : Nat) (id : UnitId) : Action Unit := do
  let u ← Action.require ((← get).unit id)
  match u.environment with
  | none => return ()
  | some environment =>
    modify (·.detachEnvironment id)
    let environment ← environment.threads.keys.foldlM (visitThread budget id) environment
    modify (·.attachEnvironment id environment)

/-- Runs a thread that is not stored, for its answer: the local variables that the function ends
with, if it neither waits nor is faulty. -/
def runForAnswer (budget : Nat) (id : UnitId) (function : String) (t : Thread)
    (environment : Environment) : Action (Option (List Int32) × Environment) := do
  let w ← get
  match (resume id budget).run.run ⟨w, environment, t⟩ with
  | (.ok none, m) =>
    set m.world
    return (some m.thread.resultLocals, m.environment)
  | (.ok (some _), m) =>
    set m.world
    return (none, m.environment)
  | (.error (.fault error), m) =>
    set (m.world.note (.queryFaulted id function error))
    return (none, m.environment)
  | (.error (.halt cause), m) =>
    set m.world
    throw (.halt cause)

/-- Starts a function of the script of a unit and runs it at once.  There is no answer if there is
no such function, if it has to wait, or if it is faulty. -/
def runQuery (budget : Nat) (id : UnitId) (function : String) (params : List Int32) :
    Action (Option (List Int32)) := do
  let u ← Action.require ((← get).unit id)
  match u.environment with
  | none => return none
  | some environment =>
    modify (·.detachEnvironment id)
    let (answer, environment) ←
      match environment.startNamed function params with
      | .error (.halt cause) => throw (.halt cause)
      | .error (.fault _) => pure (none, environment)
      | .ok (none, environment) => pure (none, environment)
      | .ok (some thread, environment) =>
        match environment.threads.get? thread with
        | none => pure (none, environment)
        | some t => runForAnswer budget id function t (environment.removeThread thread)
    modify (·.attachEnvironment id environment)
    return answer

end Lockstep.World
