/-!
# Overflow of checked arithmetic

Most arithmetic of the battlefield wraps or saturates by design.  Where neither is meant, a result
that does not fit its word stops the whole computation; this module names those results and holds
the checked operations.
-/

namespace Lockstep

/-- A checked operation whose result does not fit its word. -/
inductive Overflow where
  /-- A sum. -/
  | add
  /-- A difference. -/
  | subtract
  /-- A product. -/
  | multiply
  /-- An opposite. -/
  | negate
deriving DecidableEq, Inhabited

namespace Overflow

/-- What is reported when an operation overflows. -/
def message : Overflow → String
  | add => "attempt to add with overflow"
  | subtract => "attempt to subtract with overflow"
  | multiply => "attempt to multiply with overflow"
  | negate => "attempt to negate with overflow"

/-- Whether an integer fits a signed 32-bit word. -/
def FitsSigned (n : Int) : Prop := -2147483648 ≤ n ∧ n < 2147483648

instance (n : Int) : Decidable (FitsSigned n) := inferInstanceAs (Decidable (_ ∧ _))

/-- An integer that has to fit a signed 32-bit word. -/
def signed (cause : Overflow) (n : Int) : Except Overflow Int :=
  if FitsSigned n then .ok n else .error cause

/-- A natural number that has to fit an unsigned 32-bit word. -/
def unsigned (cause : Overflow) (n : Nat) : Except Overflow Nat :=
  if n < UInt32.size then .ok n else .error cause

/-- A difference of natural numbers that must not be negative. -/
def difference (m n : Nat) : Except Overflow Nat :=
  if n ≤ m then .ok (m - n) else .error subtract

/-- The word after a word, for counters. -/
def successor (n : UInt32) : Except Overflow UInt32 :=
  if n.toNat + 1 < UInt32.size then .ok (n + 1) else .error add

theorem successor_eq_ok {n m : UInt32} (h : successor n = .ok m) : m.toNat = n.toNat + 1 := by
  rw [successor] at h
  split at h
  · cases h
    rw [UInt32.toNat_add, UInt32.toNat_one]
    exact Nat.mod_eq_of_lt ‹_›
  · cases h

end Overflow

end Lockstep
