/-!
# Angles

An angle is a fraction of a full turn, counted in 65536ths, so that arithmetic on angles wraps by
itself.  The same unit is the one unit scripts use.
-/

namespace Lockstep

/-- An angle in 65536ths of a full turn. -/
structure Angle where
  /-- The number of 65536ths of a turn. -/
  units : UInt16
deriving DecidableEq, Inhabited

namespace Angle

instance : Zero Angle := ⟨⟨0⟩⟩

/-- A quarter of a full turn. -/
def quarterTurn : Angle := ⟨16384⟩

/-- Half of a full turn. -/
def halfTurn : Angle := ⟨32768⟩

/-- The angle of `n` units, whole turns dropped. -/
def ofInt (n : Int) : Angle := ⟨UInt16.ofInt n⟩

/-- The angle as a turn of at most half a turn either way, from -32768 to 32767. -/
def signed (a : Angle) : Int := a.units.toInt16.toInt

/-- The angle turned on by a signed number of units. -/
def offset (a : Angle) (delta : Int) : Angle := ofInt (a.units.toNat + delta)

/-- The sum, whole turns dropped. -/
protected def add (a b : Angle) : Angle := ⟨a.units + b.units⟩

/-- The difference, whole turns dropped. -/
protected def sub (a b : Angle) : Angle := ⟨a.units - b.units⟩

/-- The opposite angle. -/
protected def neg (a : Angle) : Angle := ⟨-a.units⟩

instance : Add Angle := ⟨Angle.add⟩
instance : Sub Angle := ⟨Angle.sub⟩
instance : Neg Angle := ⟨Angle.neg⟩

/-- An angle is written as its number of units. -/
def text (a : Angle) : String := toString a.units.toNat

end Angle

end Lockstep
