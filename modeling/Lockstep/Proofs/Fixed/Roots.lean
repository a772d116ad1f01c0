import Mathlib.Data.Nat.Sqrt
import Lockstep.Proofs.Fixed.Checked
import Lockstep.Proofs.Fixed.Wrapping
/-!
# Roots are exact

Digit by digit the root of a number is found as its root rounded down, whatever the number
(`Root.digits_eq_sqrt`).  What carries the induction is that the digits still to be found can make
up for the rest: the number is at least the square of the root found so far, and less than the
square of the root that one more than all other digits would make of it.

A machine need not go through all thirty-two digits.  It looks for the first one that can be set and
goes on from there until the digit has been shifted out (`Root.floorChecked`); the digits that it
leaves out are not set.

Hypotenuses and lengths follow.  A length is rounded twice, first in the plane of two components and
then with the third one, and the first rounding costs one 65536th at most.
-/

namespace Lockstep

namespace Root

variable {n R : Nat}

/-- The square of the next larger root that a digit leads to. -/
lemma square_add_two_pow (R k : Nat) :
    (R + 2 ^ k) * (R + 2 ^ k) = R * R + (R * 2 ^ (k + 1) + 4 ^ k) := by
  have hfour : (4 : Nat) ^ k = 2 ^ k * 2 ^ k := by
    rw [← Nat.mul_pow]
  rw [hfour, Nat.pow_succ]
  ring

/-- The induction is on the digits that are still to be found. -/
theorem digits_eq_sqrt {k : Nat} (hle : R * R ≤ n) (hlt : n < (R + 2 ^ k) * (R + 2 ^ k)) :
    digits k (n - R * R) (R * 2 ^ k) = Nat.sqrt n := by
  induction k generalizing R with
  | zero =>
    rw [digits, Nat.pow_zero, Nat.mul_one]
    exact Nat.eq_sqrt.2 ⟨hle, hlt⟩
  | succ k ih =>
    have hsquare := square_add_two_pow R k
    have hhalf : R * 2 ^ (k + 1) / 2 = R * 2 ^ k := by
      rw [Nat.pow_succ, ← Nat.mul_assoc, Nat.mul_div_cancel _ Nat.two_pos]
    rw [digits, Nat.pow_eq, hhalf]
    by_cases hset : R * 2 ^ (k + 1) + 4 ^ k ≤ n - R * R
    · have hrest : n - R * R - (R * 2 ^ (k + 1) + 4 ^ k) = n - (R + 2 ^ k) * (R + 2 ^ k) := by
        omega
      have hroot : R * 2 ^ k + 4 ^ k = (R + 2 ^ k) * 2 ^ k := by
        rw [Nat.add_mul, ← Nat.mul_pow]
      rw [if_pos hset, hrest, hroot]
      refine ih (by omega) ?_
      rwa [Nat.add_assoc, ← Nat.two_mul, ← Nat.pow_succ']
    · rw [if_neg hset]
      exact ih hle (by omega)

lemma floor_eq_sqrt (h : n < 2 ^ 64) : floor n = Nat.sqrt n :=
  digits_eq_sqrt (R := 0) (k := 32) (Nat.zero_le n) (by omega)

/-! ### The loops of a machine -/

/-- Halves the digit twice, as often as its square is more than the number. -/
def firstBit (n bit : Nat) : Nat := if n < bit then firstBit n (bit / 4) else bit

/-- Finds digits of a root until the digit has been shifted out; each operation is carried out in a
word. -/
def extractChecked (bit : Nat) (rest root : Int) : Except Trap Int :=
  if bit = 0 then .ok root
  else do
    let next ← Word.unsigned64.add root bit
    if next ≤ rest then do
      let rest ← Word.unsigned64.sub rest next
      let root ← Word.unsigned64.add (root / 2) bit
      extractChecked (bit / 4) rest root
    else extractChecked (bit / 4) rest (root / 2)

/-- `floor`, as a machine does it. -/
def floorChecked (n : Nat) : Except Trap Int :=
  if n < 2 then .ok n else extractChecked (firstBit n (4 ^ 31)) n 0

lemma extractChecked_zero (rest root : Int) : extractChecked 0 rest root = .ok root := by
  rw [extractChecked, if_pos rfl]

/-- One round of the loop is one digit. -/
lemma extractChecked_succ {k : Nat}
    (h : ∀ rest root, extractChecked (4 ^ k / 4) rest root = digitsChecked k rest root)
    (rest root : Int) : extractChecked (4 ^ k) rest root = digitsChecked (k + 1) rest root := by
  have hbit : ((4 ^ k : Nat) : Int) = 4 ^ k := Int.natCast_pow 4 k
  rw [extractChecked, if_neg (Nat.ne_of_gt (Nat.pow_pos (by decide))), digitsChecked]
  simp only [hbit, h]

lemma extractChecked_eq (k : Nat) (rest root : Int) :
    extractChecked (4 ^ k) rest root = digitsChecked (k + 1) rest root := by
  induction k generalizing rest root with
  | zero => exact extractChecked_succ extractChecked_zero rest root
  | succ k ih =>
    have hquarter : 4 ^ (k + 1) / 4 = 4 ^ k := Nat.mul_div_cancel _ (by decide)
    refine extractChecked_succ (fun rest root => ?_) rest root
    rw [hquarter, ih]

/-- The digits before the first one that can be set are not set. -/
lemma exists_firstBit (hn : 0 < n) (k : Nat) :
    ∃ j ≤ k, firstBit n (4 ^ k) = 4 ^ j ∧ digits (k + 1) n 0 = digits (j + 1) n 0 := by
  induction k with
  | zero =>
    have hbit : firstBit n (4 ^ 0) = 4 ^ 0 := by
      rw [firstBit, if_neg (by omega)]
    exact ⟨0, Nat.le_refl 0, hbit, rfl⟩
  | succ k ih =>
    by_cases hlt : n < 4 ^ (k + 1)
    · obtain ⟨j, hj, hbit, hdigits⟩ := ih
      have hquarter : 4 ^ (k + 1) / 4 = 4 ^ k := Nat.mul_div_cancel _ (by decide)
      refine ⟨j, by omega, ?_, ?_⟩
      · rw [firstBit, if_pos hlt, hquarter, hbit]
      · rw [digits, Nat.pow_eq, if_neg (by omega), Nat.zero_div, hdigits]
    · refine ⟨k + 1, Nat.le_refl _, ?_, rfl⟩
      rw [firstBit, if_neg hlt]

lemma floorChecked_eq (h : n < 2 ^ 64) : floorChecked n = .ok (floor n : Int) := by
  rw [floorChecked]
  split
  · rename_i hsmall
    have hroot : n = Nat.sqrt n := by
      obtain rfl | rfl : n = 0 ∨ n = 1 := by omega
      · exact Nat.sqrt_zero.symm
      · exact Nat.sqrt_one.symm
    rw [floor_eq_sqrt h, ← hroot]
  · obtain ⟨j, hj, hbit, hdigits⟩ := exists_firstBit (n := n) (by omega) 31
    rw [hbit, extractChecked_eq, floor, hdigits]
    exact digitsChecked_eq n 0 (by omega) (by omega) (by omega)

end Root

/-! ### Roots of scalars and lengths -/

namespace Scalar

/-- The sum of the squares of two scalars. -/
def squares (a b : Scalar) : Nat := a.toRaw.natAbs ^ 2 + b.toRaw.natAbs ^ 2

lemma natAbs_toRaw_le (a : Scalar) : a.toRaw.natAbs ≤ 2 ^ 31 := by
  have ha := a.toRaw_within
  omega

lemma toRaw_ofRaw_min (r : Nat) :
    (ofRaw (min r Root.limit)).toRaw = (min r Root.limit : Nat) := by
  have hlimit : Root.limit = 2147483647 := rfl
  have hmin : min (r : Int) Root.limit = (min r Root.limit : Nat) := by omega
  rw [hmin]
  exact toRaw_ofRaw_of_le (by omega) (by omega)

lemma toRaw_sqrt (a : Scalar) : a.sqrt.toRaw = Nat.sqrt (a.toRaw.toNat * 65536) := by
  have ha := a.toRaw_within
  rw [sqrt]
  split
  · rename_i hneg
    rw [Int.toNat_of_nonpos hneg]
    rfl
  · have hroot : Nat.sqrt (a.toRaw.toNat * 65536) < 2 ^ 24 := Nat.sqrt_lt.2 (by omega)
    have hlimit : Root.limit = 2147483647 := rfl
    rw [toRaw_ofRaw_min, Root.floor_eq_sqrt (by omega), Nat.min_eq_left (by omega)]

lemma squares_lt (a b : Scalar) : squares a b < 2 ^ 64 := by
  have ha := Nat.pow_le_pow_left a.natAbs_toRaw_le 2
  have hb := Nat.pow_le_pow_left b.natAbs_toRaw_le 2
  rw [squares]
  omega

lemma toRaw_hypot (a b : Scalar) :
    (a.hypot b).toRaw = (min (Nat.sqrt (squares a b)) Root.limit : Nat) := by
  have hsquares : a.toRaw.natAbs * a.toRaw.natAbs + b.toRaw.natAbs * b.toRaw.natAbs =
      squares a b := by
    rw [squares, Nat.pow_two, Nat.pow_two]
  simp only [hypot]
  rw [toRaw_ofRaw_min, hsquares, Root.floor_eq_sqrt (squares_lt a b)]

end Scalar

namespace Vector3

/-- The length of a vector in 65536ths, with nothing lost but the fraction. -/
def exactLength (v : Vector3) : Nat :=
  Nat.sqrt (v.x.toRaw.natAbs ^ 2 + v.y.toRaw.natAbs ^ 2 + v.z.toRaw.natAbs ^ 2)

/-- If one leg is rounded down or cut off, the hypotenuse does not become larger. -/
lemma sqrt_min_le (s z limit : Nat) :
    Nat.sqrt (min (Nat.sqrt s) limit ^ 2 + z ^ 2) ≤ Nat.sqrt (s + z ^ 2) := by
  refine Nat.sqrt_le_sqrt (Nat.add_le_add_right ?_ (z ^ 2))
  calc min (Nat.sqrt s) limit ^ 2 ≤ Nat.sqrt s ^ 2 := Nat.pow_le_pow_left (Nat.min_le_left ..) 2
    _ ≤ s := Nat.sqrt_le' s

/-- If one leg is rounded down, the hypotenuse becomes smaller by one at most. -/
lemma sqrt_le_succ (s z : Nat) :
    Nat.sqrt (s + z ^ 2) ≤ Nat.sqrt (Nat.sqrt s ^ 2 + z ^ 2) + 1 := by
  have hs := Nat.lt_succ_sqrt' s
  have hlt := Nat.lt_succ_sqrt' (Nat.sqrt s ^ 2 + z ^ 2)
  have hle : Nat.sqrt s ≤ Nat.sqrt (Nat.sqrt s ^ 2 + z ^ 2) :=
    Nat.le_sqrt'.2 (Nat.le_add_right ..)
  generalize Nat.sqrt (Nat.sqrt s ^ 2 + z ^ 2) = r at *
  generalize Nat.sqrt s = h at *
  refine Nat.lt_succ_iff.1 (Nat.sqrt_lt'.2 ?_)
  simp only [Nat.succ_eq_add_one] at *
  calc s + z ^ 2 < (h + 1) ^ 2 + z ^ 2 := by omega
    _ = h ^ 2 + z ^ 2 + (2 * h + 1) := by ring
    _ ≤ (r + 1) ^ 2 + (2 * r + 3) := by omega
    _ = (r + 1 + 1) ^ 2 := by ring

lemma length_within (v : Vector3) :
    (min v.exactLength Root.limit : Nat) - 1 ≤ v.length.toRaw ∧
      v.length.toRaw ≤ (min v.exactLength Root.limit : Nat) := by
  have hplane := Scalar.toRaw_hypot v.x v.y
  have hlength : v.length.toRaw = (min (Nat.sqrt (min (Nat.sqrt (v.x.squares v.y)) Root.limit ^ 2 +
      v.z.toRaw.natAbs ^ 2)) Root.limit : Nat) := by
    rw [length, Scalar.toRaw_hypot, Scalar.squares, hplane, Int.natAbs_natCast]
  have hexact : v.exactLength = Nat.sqrt (v.x.squares v.y + v.z.toRaw.natAbs ^ 2) := rfl
  rw [hlength, hexact]
  generalize v.x.squares v.y = s
  generalize v.z.toRaw.natAbs = z
  have hle := sqrt_min_le s z Root.limit
  have hge := sqrt_le_succ s z
  rcases Nat.le_total (Nat.sqrt s) Root.limit with hsmall | hlarge
  · rw [Nat.min_eq_left hsmall] at hle ⊢
    omega
  · -- the plane is already longer than a scalar can be
    rw [Nat.min_eq_right hlarge] at hle ⊢
    have hlimit : Root.limit ≤ Nat.sqrt (Root.limit ^ 2 + z ^ 2) :=
      Nat.le_sqrt'.2 (Nat.le_add_right ..)
    omega

end Vector3

/-- The root of every number of 64 binary digits is found, no operation leaves its word, and it is
exact but for the fraction.  So are the root of a scalar, for which its 65536ths are taken 65536
times, and the hypotenuse over two scalars, whose squares do not leave their words either; but it is
cut off at the largest scalar.  The length of a vector, which is rounded twice, is short by one
65536th at most. -/
theorem Root.roots_are_exact :
    (∀ n : UInt64, ∃ r : Nat, Root.floorChecked n.toNat = .ok (r : Int) ∧
      Root.floor n.toNat = r ∧ r * r ≤ n.toNat ∧ n.toNat < (r + 1) * (r + 1)) ∧
    (∀ a : Scalar, a.sqrt.toRaw = Nat.sqrt (a.toRaw.toNat * 65536)) ∧
    (∀ a b : Scalar, Scalar.hypotChecked a b = .ok (a.hypot b) ∧ (a.hypot b).toRaw =
      (min (Nat.sqrt (a.toRaw.natAbs ^ 2 + b.toRaw.natAbs ^ 2)) Root.limit : Nat)) ∧
    ∀ v : Vector3, (min v.exactLength Root.limit : Nat) - 1 ≤ v.length.toRaw ∧
      v.length.toRaw ≤ (min v.exactLength Root.limit : Nat) := by
  refine ⟨fun n => ?_, Scalar.toRaw_sqrt, fun a b => ?_, Vector3.length_within⟩
  · have hn : n.toNat < 2 ^ 64 := n.toNat_lt
    have hroot : Root.floor n.toNat = Nat.sqrt n.toNat := Root.floor_eq_sqrt hn
    exact ⟨Nat.sqrt n.toNat, hroot ▸ Root.floorChecked_eq hn, hroot, Nat.eq_sqrt.1 rfl⟩
  · exact ⟨Scalar.hypotChecked_eq a b, Scalar.toRaw_hypot a b⟩

end Lockstep
