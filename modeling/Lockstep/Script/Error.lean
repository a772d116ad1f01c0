import Lockstep.Halt
import Lockstep.Script.LinkedValue
import Lockstep.Text.Quoted
/-!
# What can go wrong in a script

A faulty instruction ends its own thread and nothing else.
-/

namespace Lockstep

/-- A fault that ends a thread. -/
inductive ScriptError where
  /-- A word at an address names no opcode. -/
  | unknownOpcode (word : UInt32) (address : Nat)
  /-- A word names no axis. -/
  | invalidAxis (word : UInt32)
  /-- There is no word at the address. -/
  | pastEnd (address : Nat)
  /-- A number belongs to no linked value. -/
  | unknownValue (number : Int32)
  /-- A linked value cannot be written. -/
  | readOnlyValue (value : Script.LinkedValue)
  /-- A number is not in the table of pieces. -/
  | unknownPiece (index : UInt32)
  /-- The model has no piece of the name. -/
  | missingPiece (name : String)
  /-- A number is not in the table of functions. -/
  | unknownFunction (index : UInt32)
  /-- A local variable does not exist; there are so many. -/
  | noLocal (index : UInt32) (count : Nat)
  /-- A static variable does not exist; there are so many. -/
  | noStatic (index : UInt32) (count : Nat)
  /-- The unit that the script belongs to does not exist. -/
  | missingUnit (unit : UInt32)
deriving DecidableEq, Inhabited

namespace ScriptError

/-- A word in eight hexadecimal digits. -/
def hexText (w : UInt32) : String :=
  let digits := Nat.toDigits 16 w.toNat
  "0x" ++ String.ofList (List.replicate (8 - digits.length) '0' ++ digits)

/-- What is reported to the user. -/
def message : ScriptError → String
  | unknownOpcode word address =>
    "unknown opcode " ++ hexText word ++ " at " ++ toString address
  | invalidAxis word => "invalid axis " ++ toString word.toNat
  | pastEnd address => "instruction pointer " ++ toString address ++ " past end of script"
  | unknownValue number => "unknown value id " ++ toString number.toInt
  | readOnlyValue value => "cannot set read-only value " ++ value.text
  | unknownPiece index => "unknown piece index " ++ toString index.toNat
  | missingPiece name => "model has no piece " ++ Text.Quoted.text name
  | unknownFunction index => "unknown function index " ++ toString index.toNat
  | noLocal index count =>
    "local " ++ toString index.toNat ++ " out of range (" ++ toString count ++ " locals)"
  | noStatic index count =>
    "static " ++ toString index.toNat ++ " out of range (" ++ toString count ++ " statics)"
  | missingUnit unit => "unit " ++ toString unit.toNat ++ " does not exist"

end ScriptError

namespace Script

/-- Why the execution of a thread stopped short. -/
inductive Failure where
  /-- An instruction is faulty; its thread ends. -/
  | fault (error : ScriptError)
  /-- The whole computation stops. -/
  | halt (cause : Halt)
deriving DecidableEq, Inhabited

end Script

end Lockstep
