import Lockstep.Fixed.Scalar
import Lockstep.Fixed.Angle
/-!
# Directions and rotations by integer rotation steps

Sines, cosines and the direction of a vector are found by turning a vector through a fixed sequence
of angles whose tangents are powers of one half, each time toward the goal.  A turn by such an angle
is two shifts and two sums.  Inside, a full turn has `2 ^ 32` parts and lengths carry spare binary
digits, so that only the last rounding shows.
-/

namespace Lockstep

namespace Rotation

/-- The angles whose tangents are `1`, `1/2`, `1/4`, …, in parts of which a full turn has
`2 ^ 32`. -/
def steps : List Int :=
  [536870912, 316933406, 167458907, 85004756, 42667331, 21354465, 10679838, 5340245, 2670163,
    1335087, 667544, 333772, 166886, 83443, 41722, 20861, 10430, 5215, 2608, 1304, 652, 326, 163,
    81]

/-- What the whole sequence of turns divides a length by, times `2 ^ 30`. -/
def inverseGain : Int := 652032874

/-- A vector being turned, with the angle still to go or already gone. -/
structure Turning where
  /-- First component. -/
  x : Int
  /-- Second component. -/
  y : Int
  /-- The angle, a full turn being `2 ^ 32`. -/
  z : Int
deriving DecidableEq

/-- Turns the vector back toward the first axis by the `i`th step, adding the angle to what has
been turned. -/
def Turning.flatten (v : Turning) (i : Nat) (step : Int) : Turning :=
  if 0 < v.y then ⟨v.x + (v.y >>> i), v.y - (v.x >>> i), v.z + step⟩
  else ⟨v.x - (v.y >>> i), v.y + (v.x >>> i), v.z - step⟩

/-- Turns the vector by the `i`th step in the direction of the angle still to go. -/
def Turning.advance (v : Turning) (i : Nat) (step : Int) : Turning :=
  if 0 ≤ v.z then ⟨v.x - (v.y >>> i), v.y + (v.x >>> i), v.z - step⟩
  else ⟨v.x + (v.y >>> i), v.y - (v.x >>> i), v.z + step⟩

/-- Runs a turning rule through the steps, numbered from `i`. -/
def runFrom (rule : Turning → Nat → Int → Turning) : List Int → Nat → Turning → Turning
  | [], _, v => v
  | step :: rest, i, v => runFrom rule rest (i + 1) (rule v i step)

/-- Runs a turning rule through all the steps. -/
def run (rule : Turning → Nat → Int → Turning) (v : Turning) : Turning := runFrom rule steps 0 v

end Rotation

namespace Angle

open Rotation

/-- The direction of the vector `(x, y)`, measured from the first axis toward the second.  The zero
vector has direction zero. -/
def atan2 (y x : Scalar) : Angle :=
  if x.toRaw = 0 ∧ y.toRaw = 0 then 0
  else
    let x' := x.toRaw * 65536
    let y' := y.toRaw * 65536
    -- the left half-plane is turned onto the right one: the steps reach little more than a right
    -- angle either way
    let start : Turning := if x' < 0 then ⟨-x', -y', 2147483648⟩ else ⟨x', y', 0⟩
    ofInt (((run Turning.flatten start).z + 32768) / 65536)

/-- The signed parts of a turn for an angle, brought within a right angle either way, and whether
half a turn was taken off to do so. -/
def reduced (a : Angle) : Int × Bool :=
  let z := a.signed * 65536
  if 1073741824 < z then (z - 2147483648, true)
  else if z < -1073741824 then (z + 2147483648, true)
  else (z, false)

/-- The sine and the cosine of an angle. -/
def sinCos (a : Angle) : Scalar × Scalar :=
  let (z, flipped) := a.reduced
  let v := run Turning.advance ⟨inverseGain, 0, z⟩
  let sin := (v.y + 8192) / 16384
  let cos := (v.x + 8192) / 16384
  if flipped then (Scalar.ofRaw (-sin), Scalar.ofRaw (-cos))
  else (Scalar.ofRaw sin, Scalar.ofRaw cos)

end Angle

end Lockstep
