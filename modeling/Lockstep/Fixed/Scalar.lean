/-!
# Fixed-point scalars

Every quantity that takes part in the state of the battlefield is a 16.16 fixed-point number: a
signed 32-bit word counting parts of 1/65536.  Sums wrap around, products and quotients are formed
exactly and then cut back to a word, so two machines that run the same commands agree bit for bit.
-/

namespace Lockstep

/-- A 16.16 fixed-point number, held as the number of its 65536ths. -/
structure Scalar where
  /-- The number times 65536. -/
  raw : Int32
deriving DecidableEq, Inhabited

namespace Scalar

/-- The number of 65536ths in one whole. -/
def one : Int := 65536

/-- The scalar with the 65536ths `n`, wrapped to a word. -/
def ofRaw (n : Int) : Scalar := ⟨Int32.ofInt n⟩

/-- The 65536ths of a scalar as an exact integer. -/
def toRaw (a : Scalar) : Int := a.raw.toInt

/-- Nothing. -/
def zero : Scalar := ⟨0⟩

instance : Zero Scalar := ⟨zero⟩

/-- A whole number; outside -32768 to 32767 it wraps. -/
def ofWhole (n : Int) : Scalar := ofRaw (n * one)

/-- The whole part, rounded toward negative infinity. -/
def floor (a : Scalar) : Int := a.toRaw / one

/-- The quotient of two whole numbers, cut toward zero; zero when the denominator is. -/
def ofRatio (num den : Int) : Scalar :=
  if den = 0 then 0 else ofRaw ((num * one).tdiv den)

/-- The sum, wrapped. -/
protected def add (a b : Scalar) : Scalar := ⟨a.raw + b.raw⟩

/-- The difference, wrapped. -/
protected def sub (a b : Scalar) : Scalar := ⟨a.raw - b.raw⟩

/-- The opposite; the most negative scalar is its own opposite. -/
protected def neg (a : Scalar) : Scalar := ⟨-a.raw⟩

/-- The exact product rounded down to a 65536th, then wrapped. -/
protected def mul (a b : Scalar) : Scalar := ofRaw (a.toRaw * b.toRaw / one)

/-- The exact quotient cut toward zero, then wrapped; division by zero gives zero. -/
protected def div (a b : Scalar) : Scalar := ofRatio a.toRaw b.toRaw

instance : Add Scalar := ⟨Scalar.add⟩
instance : Sub Scalar := ⟨Scalar.sub⟩
instance : Neg Scalar := ⟨Scalar.neg⟩
instance : Mul Scalar := ⟨Scalar.mul⟩
instance : Div Scalar := ⟨Scalar.div⟩

instance : LT Scalar := ⟨fun a b => a.raw < b.raw⟩
instance : LE Scalar := ⟨fun a b => a.raw ≤ b.raw⟩
instance (a b : Scalar) : Decidable (a < b) := inferInstanceAs (Decidable (a.raw < b.raw))
instance (a b : Scalar) : Decidable (a ≤ b) := inferInstanceAs (Decidable (a.raw ≤ b.raw))
instance : Ord Scalar := ⟨fun a b => compare a.raw b.raw⟩

/-- The size without its sign; the most negative scalar, which has no opposite, keeps its sign. -/
def abs (a : Scalar) : Scalar := if a < 0 then -a else a

/-- The larger of two scalars. -/
protected def max (a b : Scalar) : Scalar := if a ≤ b then b else a

theorem toRaw_ofRaw (n : Int) : (ofRaw n).toRaw = n.bmod UInt32.size := Int32.toInt_ofInt

theorem toRaw_add (a b : Scalar) : (a + b).toRaw = (a.toRaw + b.toRaw).bmod UInt32.size :=
  Int32.toInt_add a.raw b.raw

theorem toRaw_sub (a b : Scalar) : (a - b).toRaw = (a.toRaw - b.toRaw).bmod UInt32.size :=
  Int32.toInt_sub a.raw b.raw

theorem toRaw_neg (a : Scalar) : (-a).toRaw = (-a.toRaw).bmod UInt32.size :=
  Int32.toInt_neg a.raw

theorem lt_iff {a b : Scalar} : a < b ↔ a.toRaw < b.toRaw := Int32.lt_iff_toInt_lt

theorem le_iff {a b : Scalar} : a ≤ b ↔ a.toRaw ≤ b.toRaw := Int32.le_iff_toInt_le

end Scalar

end Lockstep
