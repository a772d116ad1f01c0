import Lockstep.Collection.NameTable
import Lockstep.Fixed.Vector
import Lockstep.Identifier
/-!
# Fingerprints

Replicas of a battle compare a single word after each tick.  The fingerprint of a value is the sum,
modulo `2 ^ 32`, of the fingerprints of its parts, so it depends neither on the order of the parts
nor on where they are kept.
-/

namespace Lockstep

/-- A word that stands for a value when replicas are compared. -/
structure Fingerprint where
  /-- The word. -/
  val : UInt32
deriving DecidableEq, Inhabited

namespace Fingerprint

instance : Zero Fingerprint := ⟨⟨0⟩⟩

/-- The sum, modulo `2 ^ 32`. -/
protected def add (a b : Fingerprint) : Fingerprint := ⟨a.val + b.val⟩

instance : Add Fingerprint := ⟨Fingerprint.add⟩

/-- The fingerprint of an integer: its residue modulo `2 ^ 32`. -/
def ofInt (n : Int) : Fingerprint := ⟨UInt32.ofInt n⟩

/-- The sum of a list of fingerprints. -/
def sum (l : List Fingerprint) : Fingerprint := l.foldr (· + ·) 0

/-- A fingerprint as text: eight hexadecimal digits. -/
def text (f : Fingerprint) : String :=
  let digits := Nat.toDigits 16 f.val.toNat
  String.ofList (List.replicate (8 - digits.length) '0' ++ digits)

theorem add_assoc (a b c : Fingerprint) : a + b + c = a + (b + c) :=
  congrArg mk (UInt32.add_assoc a.val b.val c.val)

theorem add_comm (a b : Fingerprint) : a + b = b + a :=
  congrArg mk (UInt32.add_comm a.val b.val)

theorem zero_add (a : Fingerprint) : 0 + a = a :=
  congrArg mk (UInt32.zero_add a.val)

theorem add_zero (a : Fingerprint) : a + 0 = a :=
  congrArg mk (UInt32.add_zero a.val)

@[simp] theorem sum_nil : sum [] = 0 := rfl

@[simp] theorem sum_cons (a : Fingerprint) (l : List Fingerprint) : sum (a :: l) = a + sum l := rfl

theorem sum_append (l m : List Fingerprint) : sum (l ++ m) = sum l + sum m := by
  induction l with
  | nil => exact (zero_add _).symm
  | cons a l ih => rw [List.cons_append, sum_cons, sum_cons, ih, add_assoc]

/-- The order of the summands does not matter. -/
theorem sum_perm {l m : List Fingerprint} (h : l.Perm m) : sum l = sum m := by
  induction h with
  | nil => rfl
  | cons a _ ih => rw [sum_cons, sum_cons, ih]
  | swap a b l => rw [sum_cons, sum_cons, sum_cons, sum_cons, ← add_assoc, add_comm b a, add_assoc]
  | trans _ _ ih₁ ih₂ => rw [ih₁, ih₂]

end Fingerprint

/-- Values that have a fingerprint. -/
class Fingerprinted (α : Type) where
  /-- The fingerprint of a value. -/
  fingerprint : α → Fingerprint

export Fingerprinted (fingerprint)

namespace Fingerprinted

variable {α β : Type}

instance : Fingerprinted Fingerprint := ⟨fun f => f⟩

/-- Truth counts one. -/
instance : Fingerprinted Bool := ⟨fun b => if b then ⟨1⟩ else ⟨0⟩⟩

instance : Fingerprinted UInt8 := ⟨fun n => .ofInt n.toNat⟩
instance : Fingerprinted UInt16 := ⟨fun n => .ofInt n.toNat⟩
instance : Fingerprinted UInt32 := ⟨fun n => ⟨n⟩⟩
instance : Fingerprinted Int8 := ⟨fun n => .ofInt n.toInt⟩
instance : Fingerprinted Int16 := ⟨fun n => .ofInt n.toInt⟩
instance : Fingerprinted Int32 := ⟨fun n => .ofInt n.toInt⟩

/-- The sum of the two halves of a long word. -/
instance : Fingerprinted UInt64 := ⟨fun n => ⟨n.toUInt32 + (n >>> 32).toUInt32⟩⟩

/-- The sum of the two halves of a long word. -/
instance : Fingerprinted Int64 := ⟨fun n => fingerprint n.toUInt64⟩

/-- The sum of the bytes of the text. -/
instance : Fingerprinted String := ⟨fun s => .sum (s.toUTF8.toList.map fingerprint)⟩

instance : Fingerprinted Scalar := ⟨fun a => fingerprint a.raw⟩
instance : Fingerprinted Angle := ⟨fun a => fingerprint a.units⟩
instance : Fingerprinted Vector3 :=
  ⟨fun v => fingerprint v.x + fingerprint v.y + fingerprint v.z⟩

instance : Fingerprinted UnitId := ⟨fun id => ⟨id.val⟩⟩
instance : Fingerprinted PlayerId := ⟨fun id => ⟨id.val⟩⟩
instance : Fingerprinted FeatureId := ⟨fun id => ⟨id.val⟩⟩
instance : Fingerprinted ProjectileId := ⟨fun id => ⟨id.val⟩⟩
instance : Fingerprinted Tick := ⟨fun t => ⟨t.val⟩⟩

/-- Nothing counts zero. -/
instance [Fingerprinted α] : Fingerprinted (Option α) := ⟨fun o => (o.map fingerprint).getD 0⟩

/-- The sum of the members. -/
instance [Fingerprinted α] : Fingerprinted (List α) := ⟨fun l => .sum (l.map fingerprint)⟩

/-- The sum of the parts. -/
instance [Fingerprinted α] [Fingerprinted β] : Fingerprinted (α × β) :=
  ⟨fun p => fingerprint p.1 + fingerprint p.2⟩

/-- The sum of the names and the values. -/
instance [Fingerprinted α] : Fingerprinted (NameTable α) := ⟨fun t => fingerprint t.toList⟩

/-- The sum of the keys and the values. -/
instance [Ranked α] [Fingerprinted α] [Fingerprinted β] : Fingerprinted (SortedTable α β) :=
  ⟨fun t => fingerprint t.toList⟩

end Fingerprinted

end Lockstep
