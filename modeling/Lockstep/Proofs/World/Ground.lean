import Lockstep.Proofs.Space.Lookups
import Lockstep.World.Placement
/-!
# Finding the ground

To find the cell below a place, and the height of the ground there, the place is measured from the
edge of the map in 65536ths.  Here this is done in words.  However large a map is, the sides of its
grid are words, so that a place is never too far from the edge for the longer of the two words.
-/

namespace Lockstep

namespace Terrain

/-- The first coordinate of the edge of a map with so many corners along a side. -/
def edge (corners : Nat) : Int := (-((corners - 1) * tile)).tdiv 2

/-- `edge`, checked. -/
def edgeChecked (corners : Nat) : Except Trap Int := do
  let cells ← Word.signed64.sub corners 1
  let length ← Word.signed64.mul cells tile
  let opposite ← Word.signed64.neg length
  return opposite.tdiv 2

/-- `distance` from the edge of a map, checked. -/
def distanceChecked (a : Scalar) (corners : Nat) : Except Trap Int := do
  let origin ← edgeChecked corners
  let shifted ← Word.signed64.mul origin Scalar.one
  Word.signed64.sub a.toRaw shifted

/-- The coordinate of a corner, checked. -/
def coordinateChecked (corners : Nat) (i : Int) : Except Trap Scalar := do
  let origin ← edgeChecked corners
  let steps ← Word.signed64.mul i tile
  let coordinate ← Word.signed64.add origin steps
  return .ofWhole coordinate

/-- The column or row of the nearest corner, checked. -/
def nearestChecked (a : Scalar) (corners : Nat) : Except Trap Int := do
  let distance ← distanceChecked a corners
  let rounded ← Word.signed64.add distance (rawTile / 2)
  let divisor ← positive rawTile
  return rounded / divisor

/-- `nearestCorner`, checked. -/
def nearestCornerChecked (t : Terrain) (p : Vector3) : Except Trap (Int × Int) := do
  let column ← nearestChecked p.x t.heights.width
  let row ← nearestChecked p.z t.heights.height
  return (column, row)

/-- The column or row of the cell, checked. -/
def lineChecked (a : Scalar) (corners : Nat) : Except Trap Int := do
  let distance ← distanceChecked a corners
  let divisor ← positive rawTile
  return distance / divisor

/-- `clampIndex`, checked. -/
def clampIndexChecked (i : Int) (corners : Nat) : Except Trap Int := do
  let last ← Word.signed64.sub corners 1
  within 0 last i

/-- `sample`, checked. -/
def sampleChecked (t : Terrain) (column row : Int) : Except Trap Scalar := do
  let x ← clampIndexChecked column t.heights.width
  let y ← clampIndexChecked row t.heights.height
  t.heights.cellChecked x.toNat y.toNat

/-- `interpolate`, checked: sums and differences go around, products are formed in longer words. -/
def interpolateChecked (a b fraction : Scalar) : Except Trap Scalar := do
  let part ← (b - a).mulChecked fraction
  return a + part

/-- `heightAt`, checked. -/
def heightAtChecked (t : Terrain) (x z : Scalar) : Except Trap Scalar := do
  let column ← lineChecked x t.heights.width
  let row ← lineChecked z t.heights.height
  let cornerX ← coordinateChecked t.heights.width column
  let cornerZ ← coordinateChecked t.heights.height row
  let fx ← Scalar.ofRatioChecked (x - cornerX).toRaw rawTile
  let fz ← Scalar.ofRatioChecked (z - cornerZ).toRaw rawTile
  let right ← Word.signed64.add column 1
  let below ← Word.signed64.add row 1
  let h00 ← t.sampleChecked column row
  let h10 ← t.sampleChecked right row
  let h01 ← t.sampleChecked column below
  let h11 ← t.sampleChecked right below
  let top ← interpolateChecked h00 h10 fx
  let bottom ← interpolateChecked h01 h11 fx
  interpolateChecked top bottom fz

variable {t : Terrain} {corners : Nat}

/-! ### Measuring -/

/-- The origin lies in the middle of the map, half a tile from the edge for each cell of a side. -/
lemma edge_eq (corners : Nat) : edge corners = 8 - 8 * corners := by
  have hdouble : -(((corners : Int) - 1) * tile) = 2 * (8 - 8 * corners) := by
    simp only [tile]
    omega
  rw [edge, hdouble, Int.mul_tdiv_cancel_left _ (by decide)]

lemma edge_within (h : corners < UInt32.size) :
    -34359738368 ≤ edge corners ∧ edge corners ≤ 8 := by
  have hsize : UInt32.size = 4294967296 := rfl
  rw [edge_eq]
  omega

lemma edgeChecked_eq (h : corners < UInt32.size) : edgeChecked corners = .ok (edge corners) := by
  have hsize : UInt32.size = 4294967296 := rfl
  have holds : ∀ n : Int, -68719476736 ≤ n → n ≤ 68719476736 → Word.signed64.Holds n := by
    intro n hle hge
    simp only [Word.Holds, Word.signed64]
    omega
  rw [edgeChecked, Word.sub_eq (holds _ (by omega) (by omega)), ok_bind,
    Word.mul_eq (holds _ (by simp only [tile]; omega) (by simp only [tile]; omega)), ok_bind,
    Word.neg_eq (holds _ (by simp only [tile]; omega) (by simp only [tile]; omega)), ok_bind]
  rfl

lemma distanceChecked_eq (h : corners < UInt32.size) (a : Scalar) :
    distanceChecked a corners = .ok (distance a (edge corners)) := by
  have hedge := edge_within h
  have ha := a.toRaw_within
  have hmul : Word.signed64.Holds (edge corners * Scalar.one) := by
    simp only [Word.Holds, Word.signed64, Scalar.one]
    omega
  have hsub : Word.signed64.Holds (a.toRaw - edge corners * Scalar.one) := by
    simp only [Word.Holds, Word.signed64, Scalar.one]
    omega
  rw [distanceChecked, edgeChecked_eq h, ok_bind, Word.mul_eq hmul, ok_bind, Word.sub_eq hsub]
  rfl

lemma distance_within (h : corners < UInt32.size) (a : Scalar) :
    -4503599627370496 ≤ distance a (edge corners) ∧
      distance a (edge corners) ≤ 4503599627370496 := by
  have hedge := edge_within h
  have ha := a.toRaw_within
  simp only [distance, Scalar.one]
  omega

lemma nearestChecked_eq (h : corners < UInt32.size) (a : Scalar) :
    nearestChecked a corners = .ok ((distance a (edge corners) + rawTile / 2) / rawTile) := by
  have hdistance := distance_within h a
  have hhalf : rawTile / 2 = 524288 := rfl
  have hadd : Word.signed64.Holds (distance a (edge corners) + rawTile / 2) := by
    rw [hhalf]
    simp only [Word.Holds, Word.signed64]
    omega
  rw [nearestChecked, distanceChecked_eq h, ok_bind, Word.add_eq hadd, ok_bind,
    positive_eq (by decide), ok_bind]
  rfl

lemma nearestCornerChecked_eq (ht : t.heights.Measured) (p : Vector3) :
    t.nearestCornerChecked p = .ok (t.nearestCorner p) := by
  rw [nearestCornerChecked, nearestChecked_eq ht.width, ok_bind, nearestChecked_eq ht.height,
    ok_bind]
  rfl

/-! ### Heights -/

lemma lineChecked_eq (h : corners < UInt32.size) (a : Scalar) :
    lineChecked a corners = .ok (distance a (edge corners) / rawTile) := by
  rw [lineChecked, distanceChecked_eq h, ok_bind, positive_eq (by decide), ok_bind]
  rfl

/-- However far a place is from the map, the number of its cell is small. -/
lemma line_within (h : corners < UInt32.size) (a : Scalar) :
    -4294967296 ≤ distance a (edge corners) / rawTile ∧
      distance a (edge corners) / rawTile ≤ 4294967296 := by
  have hdistance := distance_within h a
  have htile : rawTile = 1048576 := rfl
  rw [htile]
  omega

lemma coordinateChecked_eq (h : corners < UInt32.size) {i : Int}
    (hi : -4294967296 ≤ i ∧ i ≤ 4294967296) :
    coordinateChecked corners i = .ok (.ofWhole (edge corners + i * tile)) := by
  have hedge := edge_within h
  have hmul : Word.signed64.Holds (i * tile) := by
    simp only [Word.Holds, Word.signed64, tile]
    omega
  have hadd : Word.signed64.Holds (edge corners + i * tile) := by
    simp only [Word.Holds, Word.signed64, tile]
    omega
  rw [coordinateChecked, edgeChecked_eq h, ok_bind, Word.mul_eq hmul, ok_bind, Word.add_eq hadd,
    ok_bind]
  rfl

lemma clampIndexChecked_eq (hpos : 0 < corners) (h : corners < UInt32.size) (i : Int) :
    clampIndexChecked i corners = .ok (clampIndex i corners) := by
  have hsize : UInt32.size = 4294967296 := rfl
  have hsub : Word.signed64.Holds ((corners : Int) - 1) := by
    simp only [Word.Holds, Word.signed64]
    omega
  have hrange : 0 ≤ (corners : Int) - 1 := by omega
  have hclamp : max 0 (min i ((corners : Int) - 1)) = clampIndex i corners := by
    simp only [clampIndex]
    omega
  rw [clampIndexChecked, Word.sub_eq hsub, ok_bind, within_eq hrange, hclamp]

lemma clampIndex_within (hpos : 0 < corners) (i : Int) :
    0 ≤ clampIndex i corners ∧ (clampIndex i corners).toNat < corners := by
  simp only [clampIndex]
  omega

/-- A corner that has been moved onto the map is there. -/
lemma sampleChecked_eq (ht : t.heights.Measured) (column row : Int) :
    t.sampleChecked column row = .ok (t.sample column row) := by
  obtain ⟨hx, hxlt⟩ := clampIndex_within t.heights.width_pos column
  obtain ⟨hy, hylt⟩ := clampIndex_within t.heights.height_pos row
  obtain ⟨a, ha⟩ := Grid.exists_at? hxlt hylt
  rw [sampleChecked, clampIndexChecked_eq t.heights.width_pos ht.width, ok_bind,
    clampIndexChecked_eq t.heights.height_pos ht.height, ok_bind, Grid.cellChecked_eq ht ha, sample,
    Grid.get?, if_pos ⟨hx, hy⟩, ha]
  rfl

lemma interpolateChecked_eq (a b fraction : Scalar) :
    interpolateChecked a b fraction = .ok (interpolate a b fraction) := by
  rw [interpolateChecked, Scalar.mulChecked_eq, ok_bind]
  rfl

theorem heightAtChecked_eq (ht : t.heights.Measured) (x z : Scalar) :
    t.heightAtChecked x z = .ok (t.heightAt x z) := by
  have hcolumn := line_within ht.width x
  have hrow := line_within ht.height z
  have htile : 0 < rawTile := by decide
  have hright : Word.signed64.Holds (distance x (edge t.heights.width) / rawTile + 1) := by
    simp only [Word.Holds, Word.signed64]
    omega
  have hbelow : Word.signed64.Holds (distance z (edge t.heights.height) / rawTile + 1) := by
    simp only [Word.Holds, Word.signed64]
    omega
  rw [heightAtChecked, lineChecked_eq ht.width, ok_bind, lineChecked_eq ht.height, ok_bind,
    coordinateChecked_eq ht.width hcolumn, ok_bind, coordinateChecked_eq ht.height hrow, ok_bind,
    Scalar.ofRatioChecked_eq _ htile, ok_bind, Scalar.ofRatioChecked_eq _ htile, ok_bind,
    Word.add_eq hright, ok_bind, Word.add_eq hbelow, ok_bind]
  simp only [sampleChecked_eq ht, interpolateChecked_eq, ok_bind]
  rfl

end Terrain

namespace World

/-- `footprint`, checked.  Whether a side is too long is found out in any case. -/
def footprintChecked (w : World) (position : Vector3) (width depth : Nat) : Except Trap Rect := do
  let halfWidth ← (halfSide width).mapError .overflow
  let halfDepth ← (halfSide depth).mapError .overflow
  let topLeft : Vector3 :=
    ⟨position.x - .ofWhole halfWidth, position.y, position.z - .ofWhole halfDepth⟩
  let (x, y) ← w.terrain.nearestCornerChecked topLeft
  return ⟨asSigned x, asSigned y, width, depth⟩

lemma footprintChecked_eq {w : World} (hw : w.terrain.heights.Measured) {position : Vector3}
    {width depth : Nat} {r : Rect} (hr : w.footprint position width depth = .ok r) :
    w.footprintChecked position width depth = .ok r := by
  rw [footprint] at hr
  rw [footprintChecked]
  cases hwidth : halfSide width with
  | error cause =>
    rw [hwidth] at hr
    cases hr
  | ok halfWidth =>
  cases hdepth : halfSide depth with
  | error cause =>
    rw [hwidth, hdepth] at hr
    cases hr
  | ok halfDepth =>
  rw [hwidth, hdepth] at hr
  cases hr
  simp only [Except.mapError, ok_bind, Terrain.nearestCornerChecked_eq hw]
  rfl

end World

end Lockstep
