import Lockstep.Fixed.Scalar
/-!
# Integer square roots

The square root of a natural number, rounded down, is found one binary digit at a time from the
top, keeping the part of the number that the digits found so far do not account for.  Roots and
hypotenuses of scalars follow from it without any rounding of their own.
-/

namespace Lockstep

namespace Root

/-- Finds `count` binary digits of a root.  `rest` is what is left of the number and `root` is twice
the root found so far, both scaled so that the next digit stands for `4 ^ (count - 1)`. -/
def digits : (count rest root : Nat) → Nat
  | 0, _, root => root
  | count + 1, rest, root =>
    let bit := Nat.pow 4 count
    if root + bit ≤ rest then digits count (rest - (root + bit)) (root / 2 + bit)
    else digits count rest (root / 2)

/-- The square root of a number below `2 ^ 64`, rounded down. -/
def floor (n : Nat) : Nat := digits 32 n 0

/-- The largest number of 65536ths that a scalar can hold. -/
def limit : Nat := 2147483647

end Root

namespace Scalar

/-- The square root of a scalar, rounded down; zero for anything that is not positive. -/
def sqrt (a : Scalar) : Scalar :=
  if a.toRaw ≤ 0 then 0 else ofRaw (min (Root.floor (a.toRaw.toNat * 65536)) Root.limit)

/-- The length of the hypotenuse over two legs, rounded down and capped at the largest scalar. -/
def hypot (a b : Scalar) : Scalar :=
  let a := a.toRaw.natAbs
  let b := b.toRaw.natAbs
  ofRaw (min (Root.floor (a * a + b * b)) Root.limit)

end Scalar

end Lockstep
