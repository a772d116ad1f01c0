import Mathlib.Tactic.Common
import Lockstep.Fixed.Angle
import Lockstep.Fixed.Scalar
/-!
# Sums that wrap around

The word of a sum is the sum of the words, whatever wraps around; so scalars and angles that are
written by integers can be added and subtracted as those.  An integer can be read off again where it
stays in the range of the word (`Scalar.toRaw_ofRaw_of_le`, `Angle.signed_ofInt_of_le`).
-/

namespace Lockstep

namespace Scalar

@[simp] lemma ofRaw_toRaw (a : Scalar) : ofRaw a.toRaw = a :=
  congrArg Scalar.mk (Int32.ofInt_toInt a.raw)

lemma ofRaw_add (m n : Int) : ofRaw (m + n) = ofRaw m + ofRaw n :=
  congrArg Scalar.mk (Int32.ofInt_add m n)

lemma ofRaw_sub (m n : Int) : ofRaw (m - n) = ofRaw m - ofRaw n :=
  congrArg Scalar.mk (Int32.ofInt_sub m n)

lemma sub_sub_self (a b : Scalar) : a - (a - b) = b := by
  have h : a.raw - (a.raw - b.raw) = b.raw := by
    rw [Int32.sub_eq_add_neg a.raw (a.raw - b.raw), Int32.neg_sub, Int32.add_comm,
      Int32.sub_add_cancel]
  exact congrArg Scalar.mk h

theorem toRaw_ofRaw_of_le {n : Int} (hle : -2147483648 ≤ n) (hlt : n < 2147483648) :
    (ofRaw n).toRaw = n := by
  rw [toRaw_ofRaw, UInt32.size]
  exact Int.bmod_eq_of_le (by omega) (by omega)

lemma toRaw_add_of_le {a b : Scalar} (hle : -2147483648 ≤ a.toRaw + b.toRaw)
    (hlt : a.toRaw + b.toRaw < 2147483648) : (a + b).toRaw = a.toRaw + b.toRaw := by
  rw [toRaw_add, UInt32.size]
  exact Int.bmod_eq_of_le (by omega) (by omega)

lemma toRaw_sub_of_le {a b : Scalar} (hle : -2147483648 ≤ a.toRaw - b.toRaw)
    (hlt : a.toRaw - b.toRaw < 2147483648) : (a - b).toRaw = a.toRaw - b.toRaw := by
  rw [toRaw_sub, UInt32.size]
  exact Int.bmod_eq_of_le (by omega) (by omega)

/-- Only the least scalar has no opposite. -/
lemma toRaw_neg_of_lt {a : Scalar} (h : -2147483648 < a.toRaw) : (-a).toRaw = -a.toRaw := by
  have hlt : a.toRaw < 2147483648 := a.raw.toInt_lt
  rw [toRaw_neg, UInt32.size]
  exact Int.bmod_eq_of_le (by omega) (by omega)

/-- Only the least scalar has no size. -/
lemma toRaw_abs_of_lt {a : Scalar} (h : -2147483648 < a.toRaw) :
    a.abs.toRaw = a.toRaw.natAbs := by
  have hzero : (0 : Scalar).toRaw = 0 := rfl
  rw [abs]
  split
  · rename_i hneg
    rw [lt_iff, hzero] at hneg
    rw [toRaw_neg_of_lt h]
    omega
  · rename_i hneg
    rw [lt_iff, hzero] at hneg
    omega

lemma toRaw_abs_of_le {a : Scalar} (h : a.toRaw ≤ -2147483648) :
    a.abs.toRaw = -2147483648 := by
  have hle : -2147483648 ≤ a.toRaw := a.raw.le_toInt
  have hneg : a < 0 := lt_iff.2 (Int.lt_of_le_of_lt h (by decide))
  rw [abs, if_pos hneg, toRaw_neg, Int.le_antisymm h hle]
  decide

end Scalar

namespace Angle

lemma ext_toNat {a b : Angle} (h : (a.units.toNat : Int) = b.units.toNat) : a = b := by
  obtain ⟨a⟩ := a
  obtain ⟨b⟩ := b
  exact congrArg Angle.mk (UInt16.toNat_inj.1 (by exact_mod_cast h))

lemma toNat_ofInt (n : Int) : ((ofInt n).units.toNat : Int) = n % 65536 := by
  have hnonneg : 0 ≤ n % 65536 := Int.emod_nonneg n (by decide)
  have hlt : n % 65536 < 65536 := Int.emod_lt_of_pos n (by decide)
  simp only [ofInt, UInt16.ofInt, UInt16.toNat_ofNat', Int.reducePow, Nat.reducePow]
  omega

@[simp] lemma ofInt_toNat (a : Angle) : ofInt a.units.toNat = a := by
  have hlt := a.units.toNat_lt
  refine ext_toNat ?_
  rw [toNat_ofInt]
  omega

lemma ofInt_add (m n : Int) : ofInt (m + n) = ofInt m + ofInt n :=
  congrArg Angle.mk (UInt16.ofInt_add m n)

lemma offset_eq (a : Angle) (n : Int) : a.offset n = a + ofInt n := by
  rw [offset, ofInt_add, ofInt_toNat]

lemma signed_eq (a : Angle) : a.signed = (a.units.toNat : Int).bmod 65536 := by
  rw [signed]
  conv_lhs => rw [← UInt16.ofNat_toNat (x := a.units), UInt16.toInt16_ofNat', Int16.toInt_ofNat']

@[simp] lemma ofInt_signed (a : Angle) : ofInt a.signed = a := by
  have hlt := a.units.toNat_lt
  refine ext_toNat ?_
  rw [toNat_ofInt, signed_eq, Int.bmod_def]
  omega

theorem signed_ofInt_of_le {n : Int} (hle : -32768 ≤ n) (hlt : n < 32768) :
    (ofInt n).signed = n := by
  rw [signed_eq, toNat_ofInt, Int.bmod_def]
  omega

lemma offset_offset (a : Angle) (m n : Int) : (a.offset m).offset n = a.offset (m + n) := by
  rw [offset_eq, offset_eq, offset_eq, ofInt_add]
  exact congrArg Angle.mk (UInt16.add_assoc ..)

@[simp] lemma offset_zero (a : Angle) : a.offset 0 = a := by
  rw [offset, Int.add_zero, ofInt_toNat]

lemma offset_sub (a : Angle) (n : Int) : a.offset n - a = ofInt n := by
  rw [offset_eq]
  have h : a.units + UInt16.ofInt n - a.units = UInt16.ofInt n := by
    rw [UInt16.add_comm, UInt16.add_sub_cancel]
  exact congrArg Angle.mk h

lemma sub_offset (a : Angle) (n : Int) : a - a.offset n = ofInt (-n) := by
  have h := offset_sub (a.offset n) (-n)
  rwa [offset_offset, Int.add_right_neg, offset_zero] at h

/-- Turned on by the signed difference, an angle is the other one. -/
lemma offset_signed_sub (a b : Angle) : a.offset (b - a).signed = b := by
  rw [offset_eq, ofInt_signed]
  have h : a.units + (b.units - a.units) = b.units := by
    rw [UInt16.add_comm, UInt16.sub_add_cancel]
  exact congrArg Angle.mk h

/-- The signed difference is the shortest way from an angle to another one. -/
lemma natAbs_signed_sub_le {a b : Angle} {n : Int} (h : a.offset n = b) :
    (b - a).signed.natAbs ≤ n.natAbs := by
  rw [← h, offset_sub, signed_eq, toNat_ofInt, Int.bmod_def]
  omega

end Angle

end Lockstep
