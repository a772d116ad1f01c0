import Lockstep.Proofs.Fixed.Wrapping
import Lockstep.Proofs.World.Ground
import Lockstep.Proofs.World.Run
/-!
# Places, cells and footprints

The corners of the cells stand on lines across the map, one tile from each other.  Along either axis
a place has a line at or before it, which is that of its cell, and a line that is nearest; and a
footprint has a first line, from which it covers as many cells as it has.  All three are quotients
by the length of a tile, rounded down, and that is why nothing changes at the origin, where
coordinates become negative, and why an odd number of cells is laid around a place as well as an
even one.

The coordinates of a line are exact here (`lineAt`).  Where they are those of a scalar, the corner
of the map is found there (`toRaw_cornerOf`).
-/

namespace Lockstep

open Overflow (FitsSigned)

namespace Terrain

/-- Half the length of the side of a cell in 65536ths. -/
def halfTile : Int := rawTile / 2

/-- The coordinate of a line of corners in 65536ths. -/
def lineAt (corners : Nat) (i : Int) : Int := (edge corners + i * tile) * Scalar.one

/-- The line at a place or before it. -/
def lineBefore (a : Scalar) (corners : Nat) : Int := distance a (edge corners) / rawTile

/-- The line that is nearest to a place. -/
def lineNear (a : Scalar) (corners : Nat) : Int :=
  (distance a (edge corners) + rawTile / 2) / rawTile

/-- The first line of a number of cells around a place. -/
def firstLine (a : Scalar) (cells corners : Nat) : Int :=
  (distance a (edge corners) - cells * halfTile + halfTile) / rawTile

/-- The first coordinate of a column of corners in 65536ths. -/
def columnAt (t : Terrain) (column : Int) : Int := lineAt t.heights.width column

/-- The third coordinate of a row of corners in 65536ths. -/
def rowAt (t : Terrain) (row : Int) : Int := lineAt t.heights.height row

/-- Two coordinates are not further than half a tile from each other. -/
def WithinHalfTile (m n : Int) : Prop := -halfTile ≤ m - n ∧ m - n ≤ halfTile

variable {t : Terrain} {a b : Scalar} {cells corners : Nat} {i : Int}

lemma lineAt_eq (corners : Nat) (i : Int) :
    lineAt corners i = edge corners * 65536 + i * 1048576 := by
  simp only [lineAt, tile, Scalar.one]
  omega

lemma distance_eq (a : Scalar) (corners : Nat) :
    distance a (edge corners) = a.toRaw - edge corners * 65536 := rfl

lemma rawTile_eq : rawTile = 1048576 := rfl

lemma halfTile_eq : halfTile = 524288 := rfl

/-! ### Lines -/

lemma lineBefore_eq_iff : lineBefore a corners = i ↔
    lineAt corners i ≤ a.toRaw ∧ a.toRaw < lineAt corners i + rawTile := by
  rw [lineBefore, lineAt_eq, distance_eq, rawTile_eq]
  omega

lemma lineBefore_of_lineAt (h : a.toRaw = lineAt corners i) : lineBefore a corners = i := by
  rw [lineBefore_eq_iff, h, rawTile_eq]
  omega

lemma lineAt_lineBefore (a : Scalar) (corners : Nat) :
    lineAt corners (lineBefore a corners) ≤ a.toRaw ∧
      a.toRaw < lineAt corners (lineBefore a corners) + rawTile :=
  lineBefore_eq_iff.1 rfl

lemma withinHalfTile_lineNear (a : Scalar) (corners : Nat) :
    WithinHalfTile a.toRaw (lineAt corners (lineNear a corners)) := by
  rw [WithinHalfTile, lineNear, lineAt_eq, distance_eq, rawTile_eq, halfTile_eq]
  omega

lemma toRaw_ofWhole {n : Int} (h : FitsSigned (n * Scalar.one)) :
    (Scalar.ofWhole n).toRaw = n * Scalar.one :=
  Scalar.toRaw_ofRaw_of_le h.1 h.2

/-- Where its coordinates are those of scalars, a corner is found there. -/
theorem toRaw_cornerOf (t : Terrain) (column row : Int) :
    (FitsSigned (t.columnAt column) → (t.cornerOf column row).x.toRaw = t.columnAt column) ∧
      (FitsSigned (t.rowAt row) → (t.cornerOf column row).z.toRaw = t.rowAt row) :=
  ⟨toRaw_ofWhole, toRaw_ofWhole⟩

/-! ### Cells around a place -/

lemma withinHalfTile_firstLine (a : Scalar) (cells corners : Nat) :
    WithinHalfTile a.toRaw (lineAt corners (firstLine a cells corners) + cells * halfTile) := by
  rw [WithinHalfTile, firstLine, lineAt_eq, distance_eq, rawTile_eq, halfTile_eq]
  omega

/-- The cell of a place is among the cells around it. -/
lemma firstLine_le_lineBefore (a : Scalar) (corners : Nat) (hcells : 0 < cells) :
    firstLine a cells corners ≤ lineBefore a corners ∧
      lineBefore a corners < firstLine a cells corners + cells := by
  rw [firstLine, lineBefore, distance_eq, rawTile_eq, halfTile_eq]
  omega

lemma firstLine_shift (h : b.toRaw = a.toRaw + i * rawTile) :
    firstLine b cells corners = firstLine a cells corners + i := by
  rw [rawTile_eq] at h
  rw [firstLine, firstLine, distance_eq, distance_eq, rawTile_eq, h]
  omega

/-- On a map of which the sides are signed words, the first line is one as well. -/
lemma fitsSigned_firstLine (hcorners : corners < 2 ^ 31)
    (hfits : FitsSigned (a.toRaw - cells * halfTile)) : FitsSigned (firstLine a cells corners) := by
  rw [halfTile_eq] at hfits
  rw [firstLine, distance_eq, edge_eq, rawTile_eq, halfTile_eq]
  simp only [FitsSigned] at hfits ⊢
  omega

/-- As long as half the cells reach no further than scalars do, their number is small. -/
lemma cells_le_of_fitsSigned (hfits : FitsSigned (a.toRaw - cells * halfTile)) :
    cells ≤ 8192 := by
  have ha := a.toRaw_within
  rw [halfTile_eq] at hfits
  simp only [FitsSigned] at hfits
  omega

/-- The first of a number of cells is the nearest one to a place half of them away.  That place is
found although half of them may be too long for a scalar. -/
lemma lineNear_sub (hfits : FitsSigned (a.toRaw - cells * halfTile)) :
    lineNear (a - .ofWhole (cells * 8)) corners = firstLine a cells corners := by
  have hwrapped : a - .ofWhole (cells * 8) = .ofRaw (a.toRaw - cells * halfTile) := by
    rw [Scalar.ofRaw_sub, Scalar.ofRaw_toRaw, Scalar.ofWhole, halfTile_eq, Scalar.one,
      Int.mul_assoc]
    rfl
  -- both have wrapped around, and the difference is in range
  have hraw : (a - .ofWhole (cells * 8)).toRaw = a.toRaw - cells * halfTile := by
    rw [hwrapped, Scalar.toRaw_ofRaw_of_le hfits.1 hfits.2]
  rw [lineNear, firstLine, distance_eq, distance_eq, hraw, rawTile_eq, halfTile_eq]
  omega

end Terrain

namespace World

open Terrain

variable {w : World} {p q : Vector3} {width depth : Nat}

lemma halfSide_eq_ok {cells : Nat} (h : cells ≤ 8192) : halfSide cells = .ok (cells * 8) := by
  have hword : (Int32.ofNat cells).toInt = cells := Int32.toInt_ofNat_of_lt (by omega)
  have hfits : FitsSigned ((cells : Int) * tile) := by
    simp only [FitsSigned, tile]
    omega
  have hdouble : (cells : Int) * tile = 2 * (cells * 8) := by
    simp only [tile]
    omega
  rw [halfSide, hword, Overflow.signed, if_pos hfits, Except.map, hdouble,
    Int.mul_tdiv_cancel_left _ (by decide)]

/-- A footprint of which the half reaches no further than scalars do begins at the first lines of
its cells around the place. -/
lemma footprint_eq_ok (hwidth : w.terrain.heights.width < 2 ^ 31)
    (hheight : w.terrain.heights.height < 2 ^ 31)
    (hx : FitsSigned (p.x.toRaw - width * halfTile))
    (hz : FitsSigned (p.z.toRaw - depth * halfTile)) :
    w.footprint p width depth = .ok ⟨firstLine p.x width w.terrain.heights.width,
      firstLine p.z depth w.terrain.heights.height, width, depth⟩ := by
  have hcolumn := Int32.toInt_ofInt_of_le (fitsSigned_firstLine hwidth hx).1
    (fitsSigned_firstLine hwidth hx).2
  have hrow := Int32.toInt_ofInt_of_le (fitsSigned_firstLine hheight hz).1
    (fitsSigned_firstLine hheight hz).2
  have hcorner : w.terrain.nearestCorner
      ⟨p.x - .ofWhole (width * 8), p.y, p.z - .ofWhole (depth * 8)⟩ =
      (firstLine p.x width w.terrain.heights.width,
        firstLine p.z depth w.terrain.heights.height) :=
    Prod.ext (lineNear_sub hx) (lineNear_sub hz)
  rw [footprint, halfSide_eq_ok (cells_le_of_fitsSigned hx),
    halfSide_eq_ok (cells_le_of_fitsSigned hz)]
  simp only [bind, Except.bind, hcorner, asSigned, hcolumn, hrow]
  rfl

/-- Where its coordinates are those of scalars, a corner of the map is found there, and its cell is
the one that it was found for.  A place lies at or behind the corner of its cell, by less than a
tile, and not further than half a tile from the nearest corner.  A footprint with cells is centered
on a place up to half a tile and covers the cell of the place; moved by some tiles, it covers the
cells that are as many columns and rows away. -/
theorem footprints_lie_around_places (t : Terrain) (p : Vector3) (hwidth : t.heights.width < 2 ^ 31)
    (hheight : t.heights.height < 2 ^ 31) :
    (∀ column row,
      (FitsSigned (t.columnAt column) → (t.cornerOf column row).x.toRaw = t.columnAt column) ∧
      (FitsSigned (t.rowAt row) → (t.cornerOf column row).z.toRaw = t.rowAt row) ∧
      (FitsSigned (t.columnAt column) → FitsSigned (t.rowAt row) →
        t.cellAt (t.cornerOf column row) = (column, row))) ∧
    ((t.columnAt (t.cellAt p).1 ≤ p.x.toRaw ∧ p.x.toRaw < t.columnAt (t.cellAt p).1 + rawTile) ∧
      t.rowAt (t.cellAt p).2 ≤ p.z.toRaw ∧ p.z.toRaw < t.rowAt (t.cellAt p).2 + rawTile) ∧
    (WithinHalfTile p.x.toRaw (t.columnAt (t.nearestCorner p).1) ∧
      WithinHalfTile p.z.toRaw (t.rowAt (t.nearestCorner p).2)) ∧
    ∀ (w : World) (width depth : Nat), w.terrain = t → 0 < width → 0 < depth →
      FitsSigned (p.x.toRaw - width * halfTile) → FitsSigned (p.z.toRaw - depth * halfTile) →
      ∃ r : Rect, w.footprint p width depth = .ok r ∧ (r.width = width ∧ r.height = depth) ∧
        (WithinHalfTile p.x.toRaw (t.columnAt r.x + width * halfTile) ∧
          WithinHalfTile p.z.toRaw (t.rowAt r.y + depth * halfTile)) ∧
        r.contains (t.cellAt p).1 (t.cellAt p).2 = true ∧
        ∀ (q : Vector3) (i j : Int), q.x.toRaw = p.x.toRaw + i * rawTile →
          q.z.toRaw = p.z.toRaw + j * rawTile →
          FitsSigned (q.x.toRaw - width * halfTile) → FitsSigned (q.z.toRaw - depth * halfTile) →
          w.footprint q width depth = .ok ⟨r.x + i, r.y + j, width, depth⟩ := by
  refine ⟨fun column row => ?_, ⟨lineAt_lineBefore .., lineAt_lineBefore ..⟩,
    ⟨withinHalfTile_lineNear .., withinHalfTile_lineNear ..⟩, ?_⟩
  · obtain ⟨hcolumn, hrow⟩ := t.toRaw_cornerOf column row
    refine ⟨hcolumn, hrow, fun hx hz => Prod.ext ?_ ?_⟩
    · exact lineBefore_of_lineAt (hcolumn hx)
    · exact lineBefore_of_lineAt (hrow hz)
  · rintro w width depth rfl hwidthpos hdepthpos hx hz
    refine ⟨_, footprint_eq_ok hwidth hheight hx hz, ⟨rfl, rfl⟩,
      ⟨withinHalfTile_firstLine .., withinHalfTile_firstLine ..⟩, ?_, ?_⟩
    · obtain ⟨hleft, hright⟩ := firstLine_le_lineBefore p.x w.terrain.heights.width hwidthpos
      obtain ⟨habove, hbelow⟩ := firstLine_le_lineBefore p.z w.terrain.heights.height hdepthpos
      exact Rect.contains_iff.2 ⟨hleft, hright, habove, hbelow⟩
    · intro q i j hqx hqz hx' hz'
      rw [footprint_eq_ok hwidth hheight hx' hz', firstLine_shift hqx, firstLine_shift hqz]

/-- On the level map of three by three cells, three by two cells are laid around a place in the
middle one, and around a place one tile further to the left and down. -/
theorem footprints_lie_around_places_middle :
    Sample.start.terrain.heights.width < 2 ^ 31 ∧ Sample.start.terrain.heights.height < 2 ^ 31 ∧
    Sample.start.footprint ⟨.ofWhole (-3), 0, .ofWhole 5⟩ 3 2 = .ok ⟨0, 1, 3, 2⟩ ∧
    (⟨0, 1, 3, 2⟩ : Rect).contains 1 1 = true ∧
    Sample.start.footprint ⟨.ofWhole (-19), 0, .ofWhole 21⟩ 3 2 = .ok ⟨-1, 2, 3, 2⟩ := by
  have hwidth : Sample.start.terrain.heights.width < 2 ^ 31 := by decide
  have hheight : Sample.start.terrain.heights.height < 2 ^ 31 := by decide
  have hfirst : Sample.start.footprint ⟨.ofWhole (-3), 0, .ofWhole 5⟩ 3 2 = .ok ⟨0, 1, 3, 2⟩ := rfl
  obtain ⟨-, -, -, haround⟩ := footprints_lie_around_places Sample.start.terrain
    ⟨.ofWhole (-3), 0, .ofWhole 5⟩ hwidth hheight
  obtain ⟨r, hr, -, -, hcell, hmoved⟩ :=
    haround Sample.start 3 2 rfl (by decide) (by decide) (by decide) (by decide)
  cases hfirst.symm.trans hr
  have hsecond := hmoved ⟨.ofWhole (-19), 0, .ofWhole 21⟩ (-1) 1 rfl rfl (by decide) (by decide)
  exact ⟨hwidth, hheight, hfirst, hcell, hsecond⟩

end World

end Lockstep
