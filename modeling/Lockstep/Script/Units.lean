import Lockstep.Fixed.Vector
import Lockstep.Identifier
/-!
# Units of measurement of scripts

Scripts give speeds per second and durations in milliseconds, while the battle advances by ticks.
Two coordinates are packed into one script value by keeping their whole parts, each in half a word.
-/

namespace Lockstep.Script

/-- A rate per second as a rate per tick, cut toward zero. -/
def perTick (n : Int32) : Int32 := n / 30

theorem toInt_perTick (n : Int32) : (perTick n).toInt = n.toInt.tdiv 30 := by
  rw [perTick, Int32.toInt_div_of_ne_right _ _ (by decide)]
  rfl

/-- A script value as an angle; only its lower half counts. -/
def angleOfValue (n : Int32) : Angle := ⟨n.toUInt32.toUInt16⟩

/-- An angle as a script value. -/
def valueOfAngle (a : Angle) : Int32 := a.units.toUInt32.toInt32

/-- A duration in milliseconds as whole ticks; a negative one is no time. -/
def ticksOfMilliseconds (n : Int32) : Tick :=
  ⟨UInt32.ofNat (n.toInt.toNat / Tick.milliseconds)⟩

/-- Packs the whole parts of two coordinates, the first into the upper half of the word. -/
def pack (x z : Scalar) : Int32 := Int32.ofInt (x.floor * 65536 + z.floor % 65536)

/-- The two coordinates of a packed place. -/
def unpack (p : Int32) : Scalar × Scalar :=
  (.ofWhole (p.toInt / 65536), .ofWhole (p.toInt.bmod (65536)))

end Lockstep.Script
