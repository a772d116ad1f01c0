import Lockstep.Fingerprint.Basic
import Mathlib.Algebra.BigOperators.Group.List.Basic
import Mathlib.Algebra.GroupWithZero.Nat
/-!
# Sums of fingerprints

Fingerprints are added modulo `2 ^ 32`, so they form a commutative group.  Two things follow that
make them fit to compare replicas: a sum does not depend on the order of the summands, and if two
lists of summands differ in one place, the sums differ just when the summands there do
(`sum_map_eq_iff`).
-/

namespace Lockstep

namespace Fingerprint

instance : Neg Fingerprint := ⟨fun f => ⟨-f.val⟩⟩

/-- Fingerprints can be subtracted. -/
instance : AddCommGroup Fingerprint where
  add_assoc := add_assoc
  zero_add := zero_add
  add_zero := add_zero
  add_comm := add_comm
  neg_add_cancel f := congrArg mk (UInt32.add_left_neg f.val)
  nsmul := nsmulRec
  zsmul := zsmulRec

lemma toNat_add (f g : Fingerprint) :
    (f + g).val.toNat = (f.val.toNat + g.val.toNat) % 2 ^ 32 :=
  UInt32.toNat_add f.val g.val

/-- The sum as a number, reduced once at the end. -/
lemma toNat_sum (l : List Fingerprint) :
    (sum l).val.toNat = (l.map fun f => f.val.toNat).sum % 2 ^ 32 := by
  induction l with
  | nil => rfl
  | cons f l ih => rw [sum_cons, toNat_add, ih, List.map_cons, List.sum_cons, Nat.add_mod_mod]

/-- Sums of sums, as numbers, reduced once at the end. -/
lemma toNat_sum_sum (l : List (List Fingerprint)) :
    (sum (l.map sum)).val.toNat =
      (l.map fun m => (m.map fun f => f.val.toNat).sum).sum % 2 ^ 32 := by
  induction l with
  | nil => rfl
  | cons m l ih =>
    rw [List.map_cons, sum_cons, toNat_add, ih, toNat_sum, List.map_cons, List.sum_cons,
      ← Nat.add_mod]

variable {α : Type}

lemma sum_flatMap (l : List α) (f : α → List Fingerprint) :
    sum (l.flatMap f) = sum (l.map fun a => sum (f a)) := by
  induction l with
  | nil => rfl
  | cons a l ih => rw [List.flatMap_cons, sum_append, ih, List.map_cons, sum_cons]

variable [DecidableEq α]

/-- If two families of summands over the same places agree but at one of them, the sums are equal
just when the summands there are. -/
theorem sum_map_eq_iff {l : List α} {f g : α → Fingerprint} {a : α} (hl : l.Nodup) (ha : a ∈ l)
    (h : ∀ b ∈ l, b ≠ a → f b = g b) : sum (l.map f) = sum (l.map g) ↔ f a = g a := by
  have hsplit (k : α → Fingerprint) : sum (l.map k) = k a + sum ((l.erase a).map k) := by
    rw [sum_perm ((List.perm_cons_erase ha).map k), List.map_cons, sum_cons]
  have hrest : (l.erase a).map f = (l.erase a).map g :=
    List.map_congr_left fun b hb => h b (List.mem_of_mem_erase hb) (hl.mem_erase_iff.1 hb).1
  rw [hsplit f, hsplit g, hrest]
  exact add_left_inj _

end Fingerprint

end Lockstep
