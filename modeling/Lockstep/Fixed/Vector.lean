import Lockstep.Axis
import Lockstep.Fixed.Decimal
import Lockstep.Fixed.Root
import Lockstep.Fixed.Rotation
/-!
# Vectors

Places and velocities in the world: `y` points up, `x` and `z` span the map.
-/

namespace Lockstep

/-- A vector of three scalars. -/
abbrev Vector3 := Triple Scalar

namespace Vector3

/-- The zero vector. -/
def zero : Vector3 := ⟨0, 0, 0⟩

instance : Zero Vector3 := ⟨zero⟩

/-- The vector with whole-number components. -/
def ofWholes (x y z : Int) : Vector3 := ⟨.ofWhole x, .ofWhole y, .ofWhole z⟩

/-- The sum, component by component. -/
protected def add (v w : Vector3) : Vector3 := ⟨v.x + w.x, v.y + w.y, v.z + w.z⟩

/-- The difference, component by component. -/
protected def sub (v w : Vector3) : Vector3 := ⟨v.x - w.x, v.y - w.y, v.z - w.z⟩

/-- Each component times a scalar. -/
def scale (v : Vector3) (s : Scalar) : Vector3 := ⟨v.x * s, v.y * s, v.z * s⟩

instance : Add Vector3 := ⟨Vector3.add⟩
instance : Sub Vector3 := ⟨Vector3.sub⟩

/-- Turned about the upright axis; a positive angle turns the third axis toward the first. -/
def rotateY (v : Vector3) (a : Angle) : Vector3 :=
  let (sin, cos) := a.sinCos
  ⟨v.x * cos + v.z * sin, v.y, v.z * cos - v.x * sin⟩

/-- Turned about the first axis; a positive angle turns the upright axis toward the third. -/
def rotateX (v : Vector3) (a : Angle) : Vector3 :=
  let (sin, cos) := a.sinCos
  ⟨v.x, v.y * cos - v.z * sin, v.y * sin + v.z * cos⟩

/-- Turned about the third axis; a positive angle turns the first axis toward the upright one. -/
def rotateZ (v : Vector3) (a : Angle) : Vector3 :=
  let (sin, cos) := a.sinCos
  ⟨v.x * cos - v.y * sin, v.x * sin + v.y * cos, v.z⟩

/-- The length, as the hypotenuse over the third component and the hypotenuse of the other two. -/
def length (v : Vector3) : Scalar := (v.x.hypot v.y).hypot v.z

/-- A vector as text. -/
def text (v : Vector3) : String := "(" ++ v.x.text ++ ", " ++ v.y.text ++ ", " ++ v.z.text ++ ")"

end Vector3

end Lockstep
