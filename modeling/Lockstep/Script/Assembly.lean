import Lockstep.Collection.NameTable
import Lockstep.Script.Opcode
import Lockstep.Script.Program
/-!
# Assembling scripts

A script can be written down as a list of items: instructions, raw words, the beginnings of
functions, and labels that jumps refer to.  Labels may be defined after their use, and a later
definition of a label replaces an earlier one.
-/

namespace Lockstep.Script

/-- An item of a script that is written down. -/
inductive Item where
  /-- A single word, whatever it means. -/
  | word (w : UInt32)
  /-- An opcode and the words that follow it. -/
  | op (opcode : Opcode) (operands : List UInt32)
  /-- A function begins here. -/
  | function (name : String)
  /-- A label stands here. -/
  | label (name : String)
  /-- Go on at a label. -/
  | jump (label : String)
  /-- Go on at a label if the popped value is zero. -/
  | jumpIfZero (label : String)
  /-- Push the address of this instruction. -/
  | pushHere
deriving DecidableEq, Inhabited

namespace Item

/-- Push a value. -/
def push (n : Int32) : List Item := [op .pushConstant [n.toUInt32]]

/-- Call a function with a number of parameters from the stack. -/
def call (function count : UInt32) : List Item := [op .call [function, count]]

/-- Start a thread at a function with a number of parameters from the stack. -/
def start (function count : UInt32) : List Item := [op .start [function, count]]

/-- Sleep for a number of milliseconds. -/
def sleep (milliseconds : Int32) : List Item := push milliseconds ++ [op .sleep []]

/-- Leave the current function with the value zero. -/
def leave : List Item := push 0 ++ [op .leave []]

/-- The number of words that an item takes. -/
def size : Item → Nat
  | word _ => 1
  | op _ operands => operands.length + 1
  | function _ => 0
  | label _ => 0
  | jump _ => 2
  | jumpIfZero _ => 2
  | pushHere => 2

end Item

namespace Assembly

/-- A jump names a label that is defined nowhere. -/
structure UndefinedLabel where
  /-- The label. -/
  label : String
deriving DecidableEq, Inhabited

/-- What is reported to the user. -/
def UndefinedLabel.message (e : UndefinedLabel) : String := "undefined label `" ++ e.label ++ "`"

/-- The labels of the items with their addresses, the first item standing at an address. -/
def labels : List Item → (address : Nat) → NameTable Nat → NameTable Nat
  | [], _, t => t
  | .label name :: rest, address, t => labels rest address (t.insert name address)
  | item :: rest, address, t => labels rest (address + item.size) t

/-- The functions of the items, the first item standing at an address. -/
def functions : List Item → (address : Nat) → List Function
  | [], _ => []
  | .function name :: rest, address => ⟨name, address⟩ :: functions rest address
  | item :: rest, address => functions rest (address + item.size)

/-- The word for the address of a label. -/
def target (t : NameTable Nat) (label : String) : Except UndefinedLabel UInt32 :=
  match t.get? label with
  | some address => .ok (UInt32.ofNat address)
  | none => .error ⟨label⟩

/-- The words of an item that stands at an address. -/
def wordsOf (t : NameTable Nat) (address : Nat) : Item → Except UndefinedLabel (List UInt32)
  | .word w => .ok [w]
  | .op opcode operands => .ok (opcode.word :: operands)
  | .function _ => .ok []
  | .label _ => .ok []
  | .jump label => (target t label).map fun w => [Opcode.jump.word, w]
  | .jumpIfZero label => (target t label).map fun w => [Opcode.jumpIfZero.word, w]
  | .pushHere => .ok [Opcode.pushConstant.word, UInt32.ofNat address]

/-- The words of the items, the first item standing at an address. -/
def emit (t : NameTable Nat) : List Item → (address : Nat) → Except UndefinedLabel (List UInt32)
  | [], _ => .ok []
  | item :: rest, address => do
    let first ← wordsOf t address item
    let others ← emit t rest (address + item.size)
    return first ++ others

end Assembly

/-- The script that a list of items describes. -/
def Program.assemble (items : List Item) (pieces : List String) (staticCount : Nat) :
    Except Assembly.UndefinedLabel Program := do
  let words ← Assembly.emit (Assembly.labels items 0 .empty) items 0
  return ⟨words.toArray, Assembly.functions items 0, pieces, staticCount⟩

end Lockstep.Script
