import Lockstep.Fingerprint.Basic
/-!
# Resources

Players own energy and metal.  Amounts of the two are kept apart by their types; a positive amount
is produced and a negative one consumed.  An account books what the units of one player ask for and
get of one resource during a period.
-/

namespace Lockstep

/-- A resource that players own. -/
inductive Resource where
  /-- Energy. -/
  | energy
  /-- Metal. -/
  | metal
deriving DecidableEq, Inhabited

/-- An amount of a resource; a negative one is consumed. -/
structure Amount (r : Resource) where
  /-- How much. -/
  value : Scalar
deriving DecidableEq, Inhabited

/-- An amount of energy. -/
abbrev Energy := Amount .energy

/-- An amount of metal. -/
abbrev Metal := Amount .metal

namespace Amount

variable {r : Resource}

instance : Zero (Amount r) := ⟨⟨0⟩⟩

/-- A whole amount. -/
def ofWhole (n : Int) : Amount r := ⟨.ofWhole n⟩

/-- The sum, wrapped. -/
protected def add (a b : Amount r) : Amount r := ⟨a.value + b.value⟩

/-- The difference, wrapped. -/
protected def sub (a b : Amount r) : Amount r := ⟨a.value - b.value⟩

/-- The opposite. -/
protected def neg (a : Amount r) : Amount r := ⟨-a.value⟩

instance : Add (Amount r) := ⟨Amount.add⟩
instance : Sub (Amount r) := ⟨Amount.sub⟩
instance : Neg (Amount r) := ⟨Amount.neg⟩
instance : Ord (Amount r) := ⟨fun a b => compare a.value b.value⟩

/-- Whether the amount is consumed. -/
def isNegative (a : Amount r) : Bool := decide (a.value < 0)

/-- An amount as text. -/
def text (a : Amount r) : String := a.value.text

instance : Fingerprinted (Amount r) := ⟨fun a => fingerprint a.value⟩

end Amount

/-- The books of one resource of a player. -/
structure Account (r : Resource) where
  /-- What is in store. -/
  stored : Amount r
  /-- What can be stored. -/
  capacity : Amount r
  /-- Whether consumption is refused for now. -/
  stalled : Bool
  /-- What units asked to consume in this period. -/
  desired : Amount r
  /-- What units asked to consume in the period before. -/
  previousDesired : Amount r
  /-- What units consumed in this period. -/
  consumed : Amount r
  /-- What units produced in this period. -/
  produced : Amount r
deriving DecidableEq, Inhabited

namespace Account

variable {r : Resource}

/-- An account with nothing on it. -/
def empty : Account r := ⟨0, 0, false, 0, 0, 0, 0⟩

/-- Whether a request is granted: production always is, consumption unless the account is
stalled. -/
def grants (a : Account r) (apparent : Amount r) : Bool := !(apparent.isNegative && a.stalled)

/-- Notes a request: consumption is desired whether or not it is granted. -/
def request (a : Account r) (apparent : Amount r) : Account r :=
  if apparent.isNegative then { a with desired := a.desired - apparent } else a

/-- Books what a granted request really takes or brings. -/
def book (a : Account r) (actual : Amount r) : Account r :=
  if actual.isNegative then { a with consumed := a.consumed - actual }
  else { a with produced := a.produced + actual }

/-- Begins a new period: remembers what was desired and clears the books. -/
def reset (a : Account r) : Account r :=
  { a with previousDesired := a.desired, desired := 0, consumed := 0, produced := 0 }

instance : Fingerprinted (Account r) := ⟨fun a =>
  fingerprint a.stored + fingerprint a.capacity + fingerprint a.stalled + fingerprint a.desired
    + fingerprint a.previousDesired + fingerprint a.consumed + fingerprint a.produced⟩

end Account

/-- The books of one resource of a unit. -/
structure UnitAccount (r : Resource) where
  /-- What the unit produced in this period. -/
  produced : Amount r
  /-- What the unit consumed in this period. -/
  consumed : Amount r
  /-- What the unit consumed in the period before. -/
  previousConsumed : Amount r
deriving DecidableEq, Inhabited

namespace UnitAccount

variable {r : Resource}

/-- An account with nothing on it. -/
def empty : UnitAccount r := ⟨0, 0, 0⟩

/-- Books an amount. -/
def book (a : UnitAccount r) (delta : Amount r) : UnitAccount r :=
  if delta.isNegative then { a with consumed := a.consumed - delta }
  else { a with produced := a.produced + delta }

/-- Begins a new period: remembers what was consumed and clears the books. -/
def reset (a : UnitAccount r) : UnitAccount r := ⟨0, 0, a.consumed⟩

instance : Fingerprinted (UnitAccount r) := ⟨fun a =>
  fingerprint a.produced + fingerprint a.consumed + fingerprint a.previousConsumed⟩

end UnitAccount

end Lockstep
