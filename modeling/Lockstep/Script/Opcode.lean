/-!
# Instruction words

A script is a stream of words.  An instruction is one word that names the operation, followed by as
many operand words as the operation takes; all other arguments are popped from the stack of the
thread.
-/

namespace Lockstep.Script

/-- An operation that replaces the two topmost values by one. -/
inductive BinaryOp where
  /-- The sum, wrapped. -/
  | add
  /-- The difference, wrapped. -/
  | sub
  /-- The product, wrapped. -/
  | mul
  /-- The quotient cut toward zero; zero when the divisor is. -/
  | div
  /-- Conjunction of the binary digits. -/
  | bitAnd
  /-- Disjunction of the binary digits. -/
  | bitOr
  /-- Difference of the binary digits. -/
  | bitXor
  /-- Whether the first is less. -/
  | less
  /-- Whether the first is not greater. -/
  | lessOrEqual
  /-- Whether the first is greater. -/
  | greater
  /-- Whether the first is not less. -/
  | greaterOrEqual
  /-- Whether the two are equal. -/
  | equal
  /-- Whether the two differ. -/
  | notEqual
  /-- Whether neither is zero. -/
  | both
  /-- Whether they are not both zero. -/
  | either
  /-- Whether exactly one is zero. -/
  | oneOf
deriving DecidableEq, Inhabited

/-- An operation that replaces the topmost value. -/
inductive UnaryOp where
  /-- All binary digits turned over. -/
  | bitNot
  /-- Whether the value is zero. -/
  | isZero
deriving DecidableEq, Inhabited

/-- Truth as a script value. -/
def truth (b : Bool) : Int32 := if b then 1 else 0

/-- The value of a binary operation; the second operand was on top. -/
def BinaryOp.apply (op : BinaryOp) (a b : Int32) : Int32 :=
  match op with
  | add => a + b
  | sub => a - b
  | mul => a * b
  | div => if b = 0 then 0 else a / b
  | bitAnd => a &&& b
  | bitOr => a ||| b
  | bitXor => a ^^^ b
  | less => truth (decide (a < b))
  | lessOrEqual => truth (decide (a ≤ b))
  | greater => truth (decide (b < a))
  | greaterOrEqual => truth (decide (b ≤ a))
  | equal => truth (decide (a = b))
  | notEqual => truth (decide (a ≠ b))
  | both => truth (decide (a ≠ 0 ∧ b ≠ 0))
  | either => truth (decide (a ≠ 0 ∨ b ≠ 0))
  | oneOf => truth (decide (a ≠ 0) != decide (b ≠ 0))

/-- The value of a unary operation. -/
def UnaryOp.apply (op : UnaryOp) (a : Int32) : Int32 :=
  match op with
  | bitNot => ~~~a
  | isZero => truth (decide (a = 0))

/-- What an instruction does. -/
inductive Opcode where
  /-- Ask for a piece to be moved along an axis. -/
  | move
  /-- Ask for a piece to be turned about an axis. -/
  | turn
  /-- Ask for a piece to be spun about an axis. -/
  | spin
  /-- Ask for the spin of a piece to be stopped. -/
  | stopSpin
  /-- Show a piece. -/
  | showPiece
  /-- Hide a piece. -/
  | hidePiece
  /-- A hint for drawing, without effect. -/
  | cache
  /-- A hint for drawing, without effect. -/
  | dontCache
  /-- Ask for a piece to be moved at once. -/
  | moveNow
  /-- Ask for a piece to be turned at once. -/
  | turnNow
  /-- Light a piece. -/
  | shade
  /-- Do not light a piece. -/
  | dontShade
  /-- Emit particles from a piece. -/
  | emitSmoke
  /-- Wait until a piece has turned. -/
  | waitForTurn
  /-- Wait until a piece has moved. -/
  | waitForMove
  /-- Sleep for a number of milliseconds. -/
  | sleep
  /-- Push the operand. -/
  | pushConstant
  /-- Push a local variable. -/
  | pushLocal
  /-- Push a static variable. -/
  | pushStatic
  /-- Declare a local variable. -/
  | createLocal
  /-- Pop into a local variable. -/
  | popLocal
  /-- Pop into a static variable. -/
  | popStatic
  /-- Drop the top of the stack. -/
  | drop
  /-- Replace the two topmost values. -/
  | binary (op : BinaryOp)
  /-- Replace the topmost value. -/
  | unary (op : UnaryOp)
  /-- Draw a random number between two popped ones. -/
  | random
  /-- Read a linked value. -/
  | getValue
  /-- Read a linked value with four arguments. -/
  | getValueWithArgs
  /-- Start a thread at a function. -/
  | start
  /-- Call a function. -/
  | call
  /-- Go on at an address. -/
  | jump
  /-- Leave the current function. -/
  | leave
  /-- Go on at an address if the popped value is zero. -/
  | jumpIfZero
  /-- Kill the other threads whose masks meet a signal. -/
  | signal
  /-- Set the mask of the thread. -/
  | setMask
  /-- Blow a piece off the model. -/
  | explode
  /-- Write a linked value. -/
  | setValue
  /-- Pop a piece and a unit to be carried, without effect. -/
  | attachUnit
  /-- Pop a unit to be set down, without effect. -/
  | dropUnit
deriving DecidableEq, Inhabited

namespace Opcode

/-- All opcodes, in ascending order of their words. -/
def all : List Opcode :=
  [.move, .turn, .spin, .stopSpin, .showPiece, .hidePiece, .cache, .dontCache, .moveNow, .turnNow,
    .shade, .dontShade, .emitSmoke, .waitForTurn, .waitForMove, .sleep, .pushConstant, .pushLocal,
    .pushStatic, .createLocal, .popLocal, .popStatic, .drop, .binary .add, .binary .sub,
    .binary .mul, .binary .div, .binary .bitAnd, .binary .bitOr, .binary .bitXor, .unary .bitNot,
    .random, .getValue, .getValueWithArgs, .binary .less, .binary .lessOrEqual, .binary .greater,
    .binary .greaterOrEqual, .binary .equal, .binary .notEqual, .binary .both, .binary .either,
    .binary .oneOf, .unary .isZero, .start, .call, .jump, .leave, .jumpIfZero, .signal, .setMask,
    .explode, .setValue, .attachUnit, .dropUnit]

/-- The word that names an opcode. -/
def word : Opcode → UInt32
  | .move => 0x10001000
  | .turn => 0x10002000
  | .spin => 0x10003000
  | .stopSpin => 0x10004000
  | .showPiece => 0x10005000
  | .hidePiece => 0x10006000
  | .cache => 0x10007000
  | .dontCache => 0x10008000
  | .moveNow => 0x1000b000
  | .turnNow => 0x1000c000
  | .shade => 0x1000d000
  | .dontShade => 0x1000e000
  | .emitSmoke => 0x1000f000
  | .waitForTurn => 0x10011000
  | .waitForMove => 0x10012000
  | .sleep => 0x10013000
  | .pushConstant => 0x10021001
  | .pushLocal => 0x10021002
  | .pushStatic => 0x10021004
  | .createLocal => 0x10022000
  | .popLocal => 0x10023002
  | .popStatic => 0x10023004
  | .drop => 0x10024000
  | .binary .add => 0x10031000
  | .binary .sub => 0x10032000
  | .binary .mul => 0x10033000
  | .binary .div => 0x10034000
  | .binary .bitAnd => 0x10035000
  | .binary .bitOr => 0x10036000
  | .binary .bitXor => 0x10037000
  | .unary .bitNot => 0x10038000
  | .random => 0x10041000
  | .getValue => 0x10042000
  | .getValueWithArgs => 0x10043000
  | .binary .less => 0x10051000
  | .binary .lessOrEqual => 0x10052000
  | .binary .greater => 0x10053000
  | .binary .greaterOrEqual => 0x10054000
  | .binary .equal => 0x10055000
  | .binary .notEqual => 0x10056000
  | .binary .both => 0x10057000
  | .binary .either => 0x10058000
  | .binary .oneOf => 0x10059000
  | .unary .isZero => 0x1005a000
  | .start => 0x10061000
  | .call => 0x10062000
  | .jump => 0x10064000
  | .leave => 0x10065000
  | .jumpIfZero => 0x10066000
  | .signal => 0x10067000
  | .setMask => 0x10068000
  | .explode => 0x10071000
  | .setValue => 0x10082000
  | .attachUnit => 0x10083000
  | .dropUnit => 0x10084000

/-- The mnemonic of an opcode. -/
def mnemonic : Opcode → String
  | .move => "Move"
  | .turn => "Turn"
  | .spin => "Spin"
  | .stopSpin => "StopSpin"
  | .showPiece => "Show"
  | .hidePiece => "Hide"
  | .cache => "Cache"
  | .dontCache => "DontCache"
  | .moveNow => "MoveNow"
  | .turnNow => "TurnNow"
  | .shade => "Shade"
  | .dontShade => "DontShade"
  | .emitSmoke => "EmitSfx"
  | .waitForTurn => "WaitForTurn"
  | .waitForMove => "WaitForMove"
  | .sleep => "Sleep"
  | .pushConstant => "PushConstant"
  | .pushLocal => "PushLocalVar"
  | .pushStatic => "PushStatic"
  | .createLocal => "CreateLocalVar"
  | .popLocal => "PopLocalVar"
  | .popStatic => "PopStatic"
  | .drop => "PopStack"
  | .binary .add => "Add"
  | .binary .sub => "Sub"
  | .binary .mul => "Mul"
  | .binary .div => "Div"
  | .binary .bitAnd => "BitwiseAnd"
  | .binary .bitOr => "BitwiseOr"
  | .binary .bitXor => "BitwiseXor"
  | .unary .bitNot => "BitwiseNot"
  | .random => "Rand"
  | .getValue => "GetValue"
  | .getValueWithArgs => "GetValueWithArgs"
  | .binary .less => "SetLess"
  | .binary .lessOrEqual => "SetLessOrEqual"
  | .binary .greater => "SetGreater"
  | .binary .greaterOrEqual => "SetGreaterOrEqual"
  | .binary .equal => "SetEqual"
  | .binary .notEqual => "SetNotEqual"
  | .binary .both => "LogicalAnd"
  | .binary .either => "LogicalOr"
  | .binary .oneOf => "LogicalXor"
  | .unary .isZero => "LogicalNot"
  | .start => "StartScript"
  | .call => "CallScript"
  | .jump => "Jump"
  | .leave => "Return"
  | .jumpIfZero => "JumpIfZero"
  | .signal => "Signal"
  | .setMask => "SetSignalMask"
  | .explode => "Explode"
  | .setValue => "SetValue"
  | .attachUnit => "AttachUnit"
  | .dropUnit => "DropUnit"

/-- The number of operand words that follow an opcode. -/
def operandCount : Opcode → Nat
  | .move | .turn | .spin | .stopSpin | .moveNow | .turnNow | .waitForTurn | .waitForMove
  | .start | .call => 2
  | .showPiece | .hidePiece | .cache | .dontCache | .shade | .dontShade | .emitSmoke
  | .pushConstant | .pushLocal | .pushStatic | .popLocal | .popStatic | .jump | .jumpIfZero
  | .explode => 1
  | _ => 0

/-- The opcode that a word names, if it names one. -/
def ofWord? (w : UInt32) : Option Opcode := all.find? fun op => op.word = w

/-- The opcode with a mnemonic. -/
def ofMnemonic? (s : String) : Option Opcode := all.find? fun op => op.mnemonic = s

theorem mem_all (op : Opcode) : op ∈ all := by
  cases op with
  | binary op => cases op <;> decide
  | unary op => cases op <;> decide
  | _ => decide

theorem ofWord?_word (op : Opcode) : ofWord? op.word = some op := by
  cases op with
  | binary op => cases op <;> rfl
  | unary op => cases op <;> rfl
  | _ => rfl

theorem word_of_ofWord? {w : UInt32} {op : Opcode} (h : ofWord? w = some op) : op.word = w := by
  simpa using List.find?_some h

end Opcode

/-- An opcode with its operand words; an operand that the opcode does not take is zero. -/
structure Instruction where
  /-- What to do. -/
  opcode : Opcode
  /-- The first operand word. -/
  first : UInt32
  /-- The second operand word. -/
  second : UInt32
deriving DecidableEq, Inhabited

end Lockstep.Script
