import Lockstep.Script.Environment
import Lockstep.Script.Host
import Lockstep.Script.Opcode
import Lockstep.Script.Status
/-!
# Running a thread

The machine that runs a thread holds the state of the world, the script state of the unit and the
thread itself.  One step fetches an instruction with its operand words and carries it out; it can
suspend the thread, and it can fail.  A failed step keeps whatever it had done to the machine before
it failed.  `run` repeats steps until the thread stops or a budget of steps is used up.
-/

namespace Lockstep.Script

/-- What is needed to run a thread. -/
structure Machine (σ : Type) where
  /-- The world. -/
  world : σ
  /-- The script state of the unit. -/
  environment : Environment
  /-- The thread that runs. -/
  thread : Thread

/-- A computation on a machine, which can fail; what it did before is kept. -/
abbrev Exec (σ α : Type) := ExceptT Failure (StateM (Machine σ)) α

namespace Machine

variable {σ α : Type}

/-- Fails with a fault. -/
def fault (e : ScriptError) : Exec σ α := throw (.fault e)

/-- Changes the thread. -/
def modifyThread (f : Thread → Thread) : Exec σ Unit :=
  modify fun m => { m with thread := f m.thread }

/-- Puts a value on the stack. -/
def push (v : Int32) : Exec σ Unit := modifyThread (·.push v)

/-- Takes the top value off the stack. -/
def pop : Exec σ Int32 := do
  let m ← get
  modifyThread Thread.pop
  return m.thread.top

/-- Takes a number of values off the stack, the top first. -/
def popMany (n : Nat) : Exec σ (List Int32) := do
  let m ← get
  modifyThread (·.dropMany n)
  return m.thread.topMany n

/-- Reads the next word of the stream and moves on. -/
def nextWord : Exec σ UInt32 := do
  let m ← get
  match m.thread.frames with
  | [] => fault (.pastEnd 0)
  | frame :: _ =>
    match m.environment.program.words[frame.address]? with
    | none => fault (.pastEnd frame.address)
    | some w =>
      modifyThread (·.modifyFrame fun f => { f with address := f.address + 1 })
      return w

/-- Reads the next instruction with its operands. -/
def fetch : Exec σ Instruction := do
  let address := (← get).thread.address
  let w ← nextWord
  match Opcode.ofWord? w with
  | none => fault (.unknownOpcode w address)
  | some op =>
    match op.operandCount with
    | 0 => return ⟨op, 0, 0⟩
    | 1 => do
      let first ← nextWord
      return ⟨op, first, 0⟩
    | _ => do
      let first ← nextWord
      let second ← nextWord
      return ⟨op, first, second⟩

/-- The axis that a word names. -/
def axisOf (w : UInt32) : Exec σ Axis :=
  match Axis.ofWord? w with
  | some axis => return axis
  | none => fault (.invalidAxis w)

/-- The name of the piece with a number. -/
def pieceName (index : UInt32) : Exec σ String := do
  match (← get).environment.program.pieceName? index with
  | some name => return name
  | none => fault (.unknownPiece index)

/-- Goes on at an address. -/
def jumpTo (target : UInt32) : Exec σ Unit :=
  modifyThread (·.modifyFrame fun f => { f with address := target.toNat })

/-- Asks for an effect on the unit. -/
def perform (host : Host σ) (unit : UnitId) (e : Effect) : Exec σ Unit := do
  let m ← get
  match host.apply unit e m.world with
  | .ok world => set { m with world := world }
  | .error cause => throw (.halt cause)

/-- Draws a random number between two values, in either order. -/
def draw (host : Host σ) (a b : Int32) : Exec σ Int32 := do
  let m ← get
  match host.random (min a b) (max a b) m.world with
  | .ok (v, world) =>
    set { m with world := world }
    return v
  | .error cause => throw (.halt cause)

/-- The local variable with a number. -/
def getLocal (index : UInt32) : Exec σ Int32 := do
  match (← get).thread.frames with
  | [] => fault (.noLocal index 0)
  | frame :: _ =>
    match frame.locals[index.toNat]? with
    | some v => return v
    | none => fault (.noLocal index frame.locals.length)

/-- Writes the local variable with a number. -/
def setLocal (index : UInt32) (v : Int32) : Exec σ Unit := do
  match (← get).thread.frames with
  | [] => fault (.noLocal index 0)
  | frame :: _ =>
    if index.toNat < frame.locals.length then
      modifyThread (·.modifyFrame fun f => { f with locals := f.locals.set index.toNat v })
    else fault (.noLocal index frame.locals.length)

/-- Calls a function with parameters. -/
def call (function : UInt32) (params : List Int32) : Exec σ Unit := do
  match (← get).environment.program.function? function with
  | none => fault (.unknownFunction function)
  | some f =>
    modifyThread fun t => { t with frames := Frame.enter f.address params :: t.frames }

/-- Starts a thread, with the mask of this one, at a function with parameters. -/
def start (function : UInt32) (params : List Int32) : Exec σ Unit := do
  let m ← get
  match m.environment.startThread function params m.thread.mask with
  | .ok (_, environment) => set { m with environment := environment }
  | .error failure => throw failure

/-- The unit that the script belongs to. -/
def ownUnit (host : Host σ) (unit : UnitId) (world : σ) : Except ScriptError UnitView :=
  match host.unit? unit world with
  | some view => .ok view
  | none => .error (.missingUnit unit.val)

/-- A property of another unit; zero if there is no such unit. -/
def ofUnit (host : Host σ) (number : Int32) (world : σ) (f : UnitView → Int32) : Int32 :=
  ((host.unit? ⟨number.toUInt32⟩ world).map f).getD 0

/-- The place of the piece with a number. -/
def pieceAt (host : Host σ) (unit : UnitId) (program : Program) (world : σ) (number : Int32) :
    Except ScriptError Vector3 :=
  match program.pieceName? number.toUInt32 with
  | none => .error (.unknownPiece number.toUInt32)
  | some name =>
    match host.piecePosition? unit name world with
    | some position => .ok position
    | none => .error (.missingPiece name)

/-- The hit points left in percent; zero for a unit that never had any. -/
def healthPercent (view : UnitView) : Int32 :=
  if view.maxHitPoints = 0 then 0
  else Int32.ofNat (view.hitPoints.toNat * 100 / view.maxHitPoints.toNat)

/-- Reads a linked value with two arguments. -/
def readValue (host : Host σ) (unit : UnitId) (program : Program) (world : σ) (v : LinkedValue)
    (a b : Int32) : Except ScriptError Int32 :=
  let own (f : UnitView → Int32) : Except ScriptError Int32 := (ownUnit host unit world).map f
  match v with
  | .activation => own fun u => truth u.activated
  | .standingMoveOrders => own UnitView.moveOrders
  | .standingFireOrders => own UnitView.fireOrders
  | .health => own healthPercent
  | .inBuildStance => own fun u => truth u.inBuildStance
  | .busy => .ok 0
  | .pieceXZ => (pieceAt host unit program world a).map fun p => pack p.x p.z
  | .pieceY => (pieceAt host unit program world a).map fun p => p.y.raw
  | .unitXZ => .ok (ofUnit host a world fun u => pack u.position.x u.position.z)
  | .unitY => .ok (ofUnit host a world fun u => u.position.y.raw)
  | .unitHeight => .ok (ofUnit host a world fun u => u.height.raw)
  | .xzAtan =>
    let (x, z) := unpack a
    -- scripts measure headings from the far end of the third axis, units from its near end
    own fun u => valueOfAngle (Angle.atan2 x z - (u.rotation - Angle.halfTurn))
  | .xzHypot =>
    let (x, z) := unpack a
    .ok (Scalar.hypot x z).raw
  | .atan => .ok (valueOfAngle (Angle.atan2 ⟨a⟩ ⟨b⟩))
  | .hypot => .ok (Scalar.hypot ⟨a⟩ ⟨b⟩).raw
  | .groundHeight =>
    let (x, z) := unpack a
    .ok (host.groundHeight x z world).raw
  | .buildPercentLeft => own fun u => u.buildPercentLeft.toInt32
  | .yardOpen => own fun u => truth u.yardOpen
  | .buggerOff => .ok 0
  | .armored => own fun u => truth u.armored
  | .veteranLevel => .ok 0
  | .unitIsOnThisComp => .ok 1
  | .minId => .ok (host.minUnit world).toInt32
  | .maxId => .ok (host.maxUnit world).toInt32
  | .myId => .ok unit.val.toInt32
  | .unitTeam => .ok (ofUnit host a world fun u => u.owner.val.toInt32)
  | .unitBuildPercentLeft => .ok (ofUnit host a world fun u => u.buildPercentLeft.toInt32)
  | .unitAllied =>
    own fun own => ofUnit host a world fun u => truth (decide (u.owner = own.owner))

/-- Reads the linked value with a number. -/
def getValue (host : Host σ) (unit : UnitId) (number a b : Int32) : Exec σ Int32 := do
  match LinkedValue.ofNumber? number with
  | none => fault (.unknownValue number)
  | some v =>
    let m ← get
    match readValue host unit m.environment.program m.world v a b with
    | .ok n => return n
    | .error e => fault e

/-- Writes the linked value with a number. -/
def setValue (host : Host σ) (unit : UnitId) (number n : Int32) : Exec σ Unit :=
  match LinkedValue.ofNumber? number with
  | none => fault (.unknownValue number)
  | some v =>
    match v.write n with
    | .effect e => perform host unit e
    | .ignored => return ()
    | .refused => fault (.readOnlyValue v)

/-- Carries out an instruction; gives back why the thread is suspended, if it is. -/
def execute (host : Host σ) (unit : UnitId) (i : Instruction) : Exec σ (Option Status) := do
  match i.opcode with
  | .binary op =>
    let b ← pop
    let a ← pop
    push (op.apply a b)
    return none
  | .unary op =>
    let a ← pop
    push (op.apply a)
    return none
  | .random =>
    let high ← pop
    let low ← pop
    push (← draw host low high)
    return none
  | .jump =>
    jumpTo i.first
    return none
  | .jumpIfZero =>
    if (← pop) = 0 then jumpTo i.first
    return none
  | .move =>
    let axis ← axisOf i.second
    let position ← pop
    let speed ← pop
    return some (.motion i.first axis (.move position speed))
  | .moveNow =>
    let axis ← axisOf i.second
    return some (.motion i.first axis (.moveNow (← pop)))
  | .turn =>
    let axis ← axisOf i.second
    let angle ← pop
    let speed ← pop
    return some (.motion i.first axis (.turn angle speed))
  | .turnNow =>
    let axis ← axisOf i.second
    return some (.motion i.first axis (.turnNow (← pop)))
  | .spin =>
    let axis ← axisOf i.second
    let targetSpeed ← pop
    let acceleration ← pop
    return some (.motion i.first axis (.spin targetSpeed acceleration))
  | .stopSpin =>
    let axis ← axisOf i.second
    return some (.motion i.first axis (.stopSpin (← pop)))
  | .waitForMove =>
    let axis ← axisOf i.second
    return some (.awaitingMove i.first axis)
  | .waitForTurn =>
    let axis ← axisOf i.second
    return some (.awaitingTurn i.first axis)
  | .sleep => return some (.sleeping (← pop))
  | .explode =>
    let piece ← pieceName i.first
    perform host unit (.emit piece (.explode (← pop)))
    return none
  | .emitSmoke =>
    let piece ← pieceName i.first
    perform host unit (.emit piece (.smoke (← pop)))
    return none
  | .showPiece =>
    perform host unit (.visible (← pieceName i.first) true)
    return none
  | .hidePiece =>
    perform host unit (.visible (← pieceName i.first) false)
    return none
  | .shade =>
    perform host unit (.shaded (← pieceName i.first) true)
    return none
  | .dontShade =>
    perform host unit (.shaded (← pieceName i.first) false)
    return none
  | .cache => return none
  | .dontCache => return none
  | .attachUnit =>
    let _ ← pop
    let _ ← pop
    return none
  | .dropUnit =>
    let _ ← pop
    return none
  | .drop =>
    let _ ← pop
    return none
  | .call =>
    call i.first (← popMany i.second.toNat)
    return none
  | .start =>
    start i.first (← popMany i.second.toNat)
    return none
  | .leave =>
    let v ← pop
    modifyThread (·.leave v)
    return none
  | .signal =>
    let signal ← pop
    modify fun m => { m with environment := m.environment.signal signal.toUInt32 none }
    return none
  | .setMask =>
    let mask ← pop
    modifyThread fun t => { t with mask := mask.toUInt32 }
    return none
  | .createLocal =>
    modifyThread (·.modifyFrame Frame.declare)
    return none
  | .pushConstant =>
    push i.first.toInt32
    return none
  | .pushLocal =>
    push (← getLocal i.first)
    return none
  | .popLocal =>
    setLocal i.first (← pop)
    return none
  | .pushStatic =>
    match (← get).environment.getStatic i.first with
    | .ok v =>
      push v
      return none
    | .error e => fault e
  | .popStatic =>
    let v ← pop
    let m ← get
    match m.environment.setStatic i.first v with
    | .ok environment =>
      set { m with environment := environment }
      return none
    | .error e => fault e
  | .getValue =>
    let number ← pop
    push (← getValue host unit number 0 0)
    return none
  | .getValueWithArgs =>
    let _ ← pop
    let _ ← pop
    let b ← pop
    let a ← pop
    let number ← pop
    push (← getValue host unit number a b)
    return none
  | .setValue =>
    let n ← pop
    let number ← pop
    setValue host unit number n
    return none

/-- One step of a thread; gives back why the thread stopped, if it did. -/
def step (host : Host σ) (unit : UnitId) : Exec σ (Option Status) := do
  if (← get).thread.isFinished then return some .finished
  else execute host unit (← fetch)

/-- Steps until the thread stops; stops everything if the budget is used up before. -/
def run (host : Host σ) (unit : UnitId) : (budget : Nat) → Exec σ Status
  | 0 => throw (.halt .exhausted)
  | budget + 1 => do
    match ← step host unit with
    | some status => return status
    | none => run host unit budget

/-- Takes a thread out of the script state, runs it until it stops, and puts it back if it is
suspended.  Nothing happens if there is no such thread. -/
def resumeStored (host : Host σ) (unit : UnitId) (budget : Nat) (id : ThreadId) (world : σ)
    (environment : Environment) : Option (Except Failure Status × Machine σ) :=
  (environment.threads.get? id).map fun t =>
    match (run host unit budget).run.run ⟨world, environment.removeThread id, t⟩ with
    | (.ok .finished, m) => (.ok .finished, m)
    | (.ok status, m) =>
      (.ok status, { m with environment := m.environment.putThread id m.thread })
    | (.error failure, m) => (.error failure, m)

end Machine

end Lockstep.Script
