import Lockstep.Fixed.Scalar
/-!
# Decimal text of a quotient

A quotient of integers is written with a fixed number of decimal places.  The last place is rounded
to nearest and an exact half goes to the even neighbour; the sign of the numerator is kept even when
all the digits are zero.  Scalars are written with four places.
-/

namespace Lockstep.Decimal

/-- `num / den` rounded to the nearest integer, an exact half to the even one. -/
def roundHalfEven (num den : Nat) : Nat :=
  let q := num / den
  let r := num % den
  if 2 * r < den then q
  else if den < 2 * r then q + 1
  else if q % 2 = 0 then q else q + 1

/-- The decimal digits of `n`, filled up with zeros on the left to at least `width`. -/
def padded (width n : Nat) : String :=
  let digits := Nat.toDigits 10 n
  String.ofList (List.replicate (width - digits.length) '0' ++ digits)

/-- `num / den` with `places` digits after the point. -/
def fixed (places : Nat) (num : Int) (den : Nat) : String :=
  let unit := Nat.pow 10 places
  let scaled := roundHalfEven (num.natAbs * unit) den
  let body := padded 1 (scaled / unit) ++ "." ++ padded places (scaled % unit)
  if num < 0 then "-" ++ body else body

end Lockstep.Decimal

namespace Lockstep.Scalar

/-- A scalar as text, with four decimal places. -/
def text (a : Scalar) : String := Decimal.fixed 4 a.toRaw 65536

end Lockstep.Scalar
