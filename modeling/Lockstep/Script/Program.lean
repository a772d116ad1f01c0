import Lockstep.Text.Upcase
/-!
# Programs

The compiled script of a type of units: a stream of words, the functions with the addresses at which
they begin, the names of the pieces that the script moves, and the number of variables that all
threads of one unit share.
-/

namespace Lockstep.Script

/-- A function of a script. -/
structure Function where
  /-- The name of the function. -/
  name : String
  /-- The address of its first instruction. -/
  address : Nat
deriving DecidableEq, Inhabited

/-- A compiled script. -/
structure Program where
  /-- The stream of words. -/
  words : Array UInt32
  /-- The functions, by number. -/
  functions : List Function
  /-- The names of the pieces, by number. -/
  pieces : List String
  /-- The number of static variables. -/
  staticCount : Nat
deriving DecidableEq, Inhabited

namespace Program

/-- The number of the first function with a name, up to the case of ASCII letters. -/
def findFunction? (p : Program) (name : String) : Option UInt32 :=
  (p.functions.findIdx? fun f => Text.sameName f.name name).map UInt32.ofNat

/-- The function with a number. -/
def function? (p : Program) (index : UInt32) : Option Function := p.functions[index.toNat]?

/-- The name of the piece with a number. -/
def pieceName? (p : Program) (index : UInt32) : Option String := p.pieces[index.toNat]?

end Program

end Lockstep.Script
