import Lockstep.World.Definitions
/-!
# The ground

The height of the ground is given at the corners of square cells; in between it is interpolated.
The map is centered on the origin of the world.
-/

namespace Lockstep

/-- The ground of a map. -/
structure Terrain where
  /-- The heights at the corners of the cells. -/
  heights : Grid Scalar
  /-- The height of the surface of the water. -/
  seaLevel : Scalar
deriving DecidableEq, Inhabited

namespace Terrain

/-- The length of the side of a cell in whole units. -/
def tile : Int := 16

/-- The length of the side of a cell in 65536ths. -/
def rawTile : Int := tile * Scalar.one

/-- Level ground with corners at the given number of columns and rows. -/
def flat (width height : Nat) (ground seaLevel : Scalar) : Except SpaceError Terrain :=
  (Grid.fill width height ground).map fun heights => ⟨heights, seaLevel⟩

/-- The first coordinate, in whole units, of the first column of corners. -/
def left (t : Terrain) : Int := (-((t.heights.width - 1) * tile)).tdiv 2

/-- The third coordinate, in whole units, of the first row of corners. -/
def top (t : Terrain) : Int := (-((t.heights.height - 1) * tile)).tdiv 2

/-- The distance in 65536ths of a coordinate from a whole one. -/
def distance (a : Scalar) (origin : Int) : Int := a.toRaw - origin * Scalar.one

/-- The corner nearest to a place, by column and row; it need not be on the map. -/
def nearestCorner (t : Terrain) (p : Vector3) : Int × Int :=
  ((distance p.x t.left + rawTile / 2) / rawTile, (distance p.z t.top + rawTile / 2) / rawTile)

/-- The cell that a place lies in, by column and row; it need not be on the map. -/
def cellAt (t : Terrain) (p : Vector3) : Int × Int :=
  (distance p.x t.left / rawTile, distance p.z t.top / rawTile)

/-- The place of the first corner of a cell, at height zero. -/
def cornerOf (t : Terrain) (column row : Int) : Vector3 :=
  ⟨.ofWhole (t.left + column * tile), 0, .ofWhole (t.top + row * tile)⟩

/-- An index moved into the range below `n`. -/
def clampIndex (i : Int) (n : Nat) : Int := min (max i 0) (n - 1)

/-- The height at a corner; beyond the edge, at the nearest corner on the map. -/
def sample (t : Terrain) (column row : Int) : Scalar :=
  (t.heights.get? (clampIndex column t.heights.width) (clampIndex row t.heights.height)).getD 0

/-- A value between two others, by a fraction. -/
def interpolate (a b fraction : Scalar) : Scalar := a + (b - a) * fraction

/-- The height of the ground, interpolated between the four corners around a place. -/
def heightAt (t : Terrain) (x z : Scalar) : Scalar :=
  let (column, row) := t.cellAt ⟨x, 0, z⟩
  let corner := t.cornerOf column row
  let fx := Scalar.ofRatio (x - corner.x).toRaw rawTile
  let fz := Scalar.ofRatio (z - corner.z).toRaw rawTile
  interpolate (interpolate (t.sample column row) (t.sample (column + 1) row) fx)
    (interpolate (t.sample column (row + 1)) (t.sample (column + 1) (row + 1)) fx) fz

/-- The heights at the four corners of a cell. -/
def corners (t : Terrain) (column row : Int) : List Scalar :=
  [t.sample column row, t.sample (column + 1) row, t.sample column (row + 1),
    t.sample (column + 1) (row + 1)]

/-- The lower of two scalars. -/
def lower (a b : Scalar) : Scalar := if b < a then b else a

/-- Whether units of a class can stand on a cell: the water is neither too low nor too deep, and the
heights within the cell do not differ too much. -/
def isCellWalkable (t : Terrain) (c : MovementClass) (column row : Int) : Bool :=
  let first := t.sample column row
  let lowest := (t.corners column row).foldl lower first
  let highest := (t.corners column row).foldl Scalar.max first
  let depth := (t.seaLevel - lowest).floor
  let limit := if 0 < depth then c.maxWaterSlope else c.maxSlope
  decide (c.minWaterDepth ≤ depth ∧ depth ≤ c.maxWaterDepth ∧ (highest - lowest).floor ≤ limit)

/-- Whether a rectangle of cells lies on the map. -/
def covers (t : Terrain) (r : Rect) : Bool :=
  decide (0 ≤ r.x ∧ 0 ≤ r.y ∧ r.right ≤ t.heights.width - 1 ∧ r.bottom ≤ t.heights.height - 1)

/-- Whether units of a class can stand on each cell of a rectangle; off the map they cannot. -/
def isWalkable (t : Terrain) (c : MovementClass) (r : Rect) : Bool :=
  t.covers r && (⟨r.x.toNat, r.y.toNat, r.width, r.height⟩ : Region).cells.all fun (x, y) =>
    t.isCellWalkable c x y

end Terrain

end Lockstep
