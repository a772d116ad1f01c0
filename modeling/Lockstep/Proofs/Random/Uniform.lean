import Mathlib.Algebra.Group.Nat.Defs
import Lockstep.Random.Uniform
/-!
# Draws stay in their range

Whatever words the stream holds, a number that is drawn below a bound is below it, and one that is
drawn between two words is between them.  The carry of the second word never takes the first draw to
the bound: where the high half is as large as it can be, the low half is too small for a second word
to be asked for.
-/

namespace Lockstep.Random.Generator

variable {w range low high : UInt32}

lemma toNat_stretched (w range : UInt32) :
    (stretched w range).toNat = w.toNat * range.toNat := by
  have hlt : w.toNat * range.toNat < 2 ^ 32 * 2 ^ 32 := Nat.mul_lt_mul'' w.toNat_lt range.toNat_lt
  rw [stretched, UInt64.toNat_mul, UInt32.toNat_toUInt64, UInt32.toNat_toUInt64]
  exact Nat.mod_eq_of_lt hlt

lemma toNat_highHalf (n : UInt64) : (highHalf n).toNat = n.toNat / 2 ^ 32 := by
  have hshift : (n >>> 32).toNat = n.toNat / 2 ^ 32 := by
    rw [UInt64.toNat_shiftRight, Nat.shiftRight_eq_div_pow]
    rfl
  have := n.toNat_lt
  rw [highHalf, UInt64.toNat_toUInt32, hshift]
  exact Nat.mod_eq_of_lt (by omega)

/-- The halves of a double word that is made of a word and a range. -/
lemma halves_stretched (w range : UInt32) :
    2 ^ 32 * (highHalf (stretched w range)).toNat + (stretched w range).toUInt32.toNat =
      w.toNat * range.toNat := by
  rw [toNat_highHalf, UInt64.toNat_toUInt32, toNat_stretched]
  exact Nat.div_add_mod _ _

/-- The double word leaves room for one more range below the end. -/
lemma mul_toNat_add_le (w range : UInt32) :
    w.toNat * range.toNat + range.toNat ≤ 2 ^ 32 * range.toNat := by
  rw [← Nat.succ_mul]
  exact Nat.mul_le_mul_right _ w.toNat_lt

lemma highHalf_stretched_lt (h : range ≠ 0) (w : UInt32) :
    (highHalf (stretched w range)).toNat < range.toNat := by
  have hpos : 0 < range.toNat := Nat.pos_of_ne_zero fun hzero => h (UInt32.toNat_inj.1 hzero)
  have hhalves := halves_stretched w range
  have hroom := mul_toNat_add_le w range
  exact Nat.lt_of_mul_lt_mul_left (a := 2 ^ 32) (by omega)

/-- A second word is drawn only if the first draw can still be raised. -/
lemma highHalf_succ_lt (h : range ≠ 0)
    (hlow : -range < (stretched w range).toUInt32) :
    (highHalf (stretched w range)).toNat + 1 < range.toNat := by
  have hpos : 0 < range.toNat := Nat.pos_of_ne_zero fun hzero => h (UInt32.toNat_inj.1 hzero)
  have hneg : (-range).toNat = 2 ^ 32 - range.toNat := by
    rw [UInt32.toNat_neg]
    exact Nat.mod_eq_of_lt (Nat.sub_lt (by decide) hpos)
  rw [UInt32.lt_iff_toNat_lt, hneg] at hlow
  have hhalves := halves_stretched w range
  have hroom := mul_toNat_add_le w range
  have hlt : 2 ^ 32 * ((highHalf (stretched w range)).toNat + 1) < 2 ^ 32 * range.toNat := by
    have := range.toNat_lt
    omega
  exact Nat.lt_of_mul_lt_mul_left hlt

/-- A number that is drawn below a bound is below it. -/
theorem below_lt (h : range ≠ 0) (g : Generator) : (g.below range).1.toNat < range.toNat := by
  rw [below]
  have hhigh := highHalf_stretched_lt h g.next.1
  simp only
  split
  · rename_i hlow
    have hraised := highHalf_succ_lt h hlow
    split
    · rw [UInt32.toNat_add, UInt32.toNat_one]
      exact Nat.lt_of_le_of_lt (Nat.mod_le _ _) hraised
    · exact hhigh
  · exact hhigh

/-- A number that is drawn between two words is between them. -/
theorem between_mem (h : low ≤ high) (g : Generator) :
    low ≤ (g.between low high).1 ∧ (g.between low high).1 ≤ high := by
  rw [UInt32.le_iff_toNat_le] at h
  have hspan : (high - low).toNat = high.toNat - low.toNat := 
    UInt32.toNat_sub_of_le high low (UInt32.le_iff_toNat_le.2 h)
  have hhigh := high.toNat_lt
  rw [between]
  simp only [UInt32.le_iff_toNat_le]
  split
  · -- only the range of all words has no room for its size
    rename_i hall
    have hsize : (high.toNat - low.toNat + 1) % 2 ^ 32 = 0 := by
      rw [← hspan, ← UInt32.toNat_one, ← UInt32.toNat_add, hall]
      rfl
    have := g.next.1.toNat_lt
    omega
  · rename_i hrange
    have hdraw := below_lt hrange g
    have hsize : (high - low + 1).toNat ≤ high.toNat - low.toNat + 1 := by
      rw [UInt32.toNat_add, UInt32.toNat_one, hspan]
      exact Nat.mod_le _ _
    have hsum : (low + (g.below (high - low + 1)).1).toNat =
        low.toNat + (g.below (high - low + 1)).1.toNat := by
      rw [UInt32.toNat_add]
      exact Nat.mod_eq_of_lt (by omega)
    rw [hsum]
    omega

end Lockstep.Random.Generator
