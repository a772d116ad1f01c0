import Lockstep.Proofs.World.Corners
/-!
# Heights between samples

The height of the ground at a place is interpolated twice: in the two rows around the place between
two samples each, and then between the two heights that come out.  Either time a value is found
between the values at two lines across the map by how far the place is from the first one
(`along`), and what can be said of one interpolation is said of `along` for any values.

The fraction of a tile is found by subtracting the corner of the cell, which may lie too far off for
a scalar; but then both it and the difference wrap around, and the fraction is right
(`toRaw_fraction`).  As a fraction is less than one, the part of a difference that is added to the
first value, rounded down, does not reach beyond the second one, whether it rises or falls
(`toRaw_interpolate`).
-/

namespace Lockstep

open Overflow (FitsSigned)

namespace Terrain

/-! ### Interpolation -/

/-- A number lies between two numbers, whichever of them is larger. -/
def Between (m n k : Int) : Prop := min m n ≤ k ∧ k ≤ max m n

/-- A part of a difference, rounded down, lies between nothing and the difference. -/
lemma between_part {m n : Int} (hnonneg : 0 ≤ m) (hle : m ≤ Scalar.one) :
    Between 0 n (n * m / Scalar.one) := by
  simp only [Scalar.one] at hle ⊢
  rcases Int.le_total 0 n with hn | hn
  · have hproduct : 0 ≤ n * m := Int.mul_nonneg hn hnonneg
    have hwhole : n * m ≤ n * 65536 := Int.mul_le_mul_of_nonneg_left hle hn
    exact ⟨by omega, by omega⟩
  · -- rounded down, a fall is made larger, but what it is compared with is a whole number
    have hproduct : n * m ≤ 0 := Int.mul_nonpos_of_nonpos_of_nonneg hn hnonneg
    have hwhole : n * 65536 ≤ n * m := Int.mul_le_mul_of_nonpos_left hn hle
    exact ⟨by omega, by omega⟩

/-- Of a rise a larger part is more, of a fall it is less. -/
lemma part_mono {m m' : Int} (h : m ≤ m') (n : Int) :
    (0 ≤ n → n * m / Scalar.one ≤ n * m' / Scalar.one) ∧
      (n ≤ 0 → n * m' / Scalar.one ≤ n * m / Scalar.one) :=
  ⟨fun hn => Int.ediv_le_ediv (by decide) (Int.mul_le_mul_of_nonneg_left h hn),
    fun hn => Int.ediv_le_ediv (by decide) (Int.mul_le_mul_of_nonpos_left hn h)⟩

variable {a b f f' : Scalar}

/-- A fraction of a whole. -/
def IsFraction (f : Scalar) : Prop := 0 ≤ f.toRaw ∧ f.toRaw < Scalar.one

/-- Nothing wraps around if the difference of the values does not. -/
theorem toRaw_interpolate (hf : IsFraction f) (hab : FitsSigned (b.toRaw - a.toRaw)) :
    (interpolate a b f).toRaw = a.toRaw + (b.toRaw - a.toRaw) * f.toRaw / Scalar.one := by
  have ha := a.toRaw_within
  have hb := b.toRaw_within
  have hdifference := (b - a).toRaw_within
  rw [← Scalar.toRaw_sub_of_le hab.1 hab.2]
  obtain ⟨hlow, hhigh⟩ := between_part (n := (b - a).toRaw) hf.1 (Int.le_of_lt hf.2)
  have hproduct : ((b - a) * f).toRaw = (b - a).toRaw * f.toRaw / Scalar.one :=
    Scalar.toRaw_ofRaw_of_le (by omega) (by omega)
  rw [← hproduct] at hlow hhigh ⊢
  rw [Scalar.toRaw_sub_of_le hab.1 hab.2] at hlow hhigh
  exact Scalar.toRaw_add_of_le (by omega) (by omega)

/-- At the beginning of a tile there is the first value. -/
lemma interpolate_zero (hf : f.toRaw = 0) : interpolate a b f = a := by
  have hproduct : (b - a) * f = 0 := by
    show Scalar.ofRaw ((b - a).toRaw * f.toRaw / Scalar.one) = 0
    rw [hf, Int.mul_zero]
    rfl
  rw [interpolate, hproduct]
  exact congrArg Scalar.mk (Int32.add_zero a.raw)

/-- Between two values that are the same there is no other one. -/
lemma interpolate_self (a f : Scalar) : interpolate a a f = a := by
  have hdifference : a - a = 0 := congrArg Scalar.mk (Int32.sub_self a.raw)
  have hproduct : (a - a) * f = 0 := by
    show Scalar.ofRaw ((a - a).toRaw * f.toRaw / Scalar.one) = 0
    rw [hdifference, show (0 : Scalar).toRaw = 0 from rfl, Int.zero_mul]
    rfl
  rw [interpolate, hproduct]
  exact congrArg Scalar.mk (Int32.add_zero a.raw)

/-! ### Along a line of samples -/

/-- How far a place is behind the line before it, as a fraction of a tile. -/
def fraction (a : Scalar) (corners : Nat) : Scalar :=
  .ofRatio (a - .ofWhole (edge corners + lineBefore a corners * tile)).toRaw rawTile

/-- The value at a place, interpolated between the values at the lines around it. -/
def along (s : Int → Scalar) (corners : Nat) (a : Scalar) : Scalar :=
  interpolate (s (lineBefore a corners)) (s (lineBefore a corners + 1)) (fraction a corners)

variable {s : Int → Scalar} {corners : Nat} {i : Int}

/-- The line may be too far off for a scalar, but the distance from it is not. -/
theorem toRaw_fraction (a : Scalar) (corners : Nat) : (fraction a corners).toRaw =
    (a.toRaw - lineAt corners (lineBefore a corners)) / 16 := by
  obtain ⟨hle, hlt⟩ := lineAt_lineBefore a corners
  rw [rawTile_eq] at hlt
  have hwrapped : a - .ofWhole (edge corners + lineBefore a corners * tile) =
      .ofRaw (a.toRaw - lineAt corners (lineBefore a corners)) := by
    rw [Scalar.ofRaw_sub, Scalar.ofRaw_toRaw]
    rfl
  rw [fraction, hwrapped, Scalar.toRaw_ofRaw_of_le (by omega) (by omega)]
  have hnonneg : 0 ≤ (a.toRaw - lineAt corners (lineBefore a corners)) * Scalar.one := by
    rw [Scalar.one]
    omega
  have hquotient : ((a.toRaw - lineAt corners (lineBefore a corners)) * Scalar.one).tdiv rawTile =
      (a.toRaw - lineAt corners (lineBefore a corners)) / 16 := by
    rw [Int.tdiv_eq_ediv_of_nonneg hnonneg, rawTile_eq, Scalar.one]
    omega
  rw [Scalar.ofRatio, if_neg (by decide), hquotient]
  exact Scalar.toRaw_ofRaw_of_le (by omega) (by omega)

lemma isFraction_fraction (a : Scalar) (corners : Nat) : IsFraction (fraction a corners) := by
  obtain ⟨hle, hlt⟩ := lineAt_lineBefore a corners
  rw [rawTile_eq] at hlt
  rw [IsFraction, toRaw_fraction, Scalar.one]
  omega

/-- On a line there is its value. -/
lemma along_lineAt (s : Int → Scalar) (h : a.toRaw = lineAt corners i) :
    along s corners a = s i := by
  have hfraction : (fraction a corners).toRaw = 0 := by
    rw [toRaw_fraction, lineBefore_of_lineAt h, h, Int.sub_self]
    rfl
  rw [along, interpolate_zero hfraction, lineBefore_of_lineAt h]

lemma along_const {c : Scalar} (h : ∀ i, s i = c) : along s corners a = c := by
  rw [along, h, h, interpolate_self]

/-- From one line to the next one, both included, the value grows with the distance from the first
one; the distance counts in sixteenths. -/
lemma toRaw_along (hs : FitsSigned ((s (i + 1)).toRaw - (s i).toRaw))
    (hle : lineAt corners i ≤ a.toRaw) (hge : a.toRaw ≤ lineAt corners (i + 1)) :
    (along s corners a).toRaw = (s i).toRaw +
      ((s (i + 1)).toRaw - (s i).toRaw) * ((a.toRaw - lineAt corners i) / 16) / Scalar.one := by
  rcases Int.lt_or_eq_of_le hge with hlt | heq
  · have hline : lineBefore a corners = i := by
      rw [lineBefore_eq_iff, rawTile_eq]
      rw [lineAt_eq] at *
      omega
    have hf := isFraction_fraction a corners
    rw [along, hline, toRaw_interpolate hf hs, toRaw_fraction, hline]
  · -- the place belongs to the next tile already, and a whole part of the difference leads there
    have hdistance : (a.toRaw - lineAt corners i) / 16 = Scalar.one := by
      rw [heq, lineAt_eq, lineAt_eq, Scalar.one]
      omega
    rw [along_lineAt s heq, hdistance, Int.mul_ediv_cancel _ (by decide)]
    omega

lemma between_along (s : Int → Scalar) (a : Scalar)
    (hs : FitsSigned ((s (lineBefore a corners + 1)).toRaw - (s (lineBefore a corners)).toRaw)) :
    Between (s (lineBefore a corners)).toRaw (s (lineBefore a corners + 1)).toRaw
      (along s corners a).toRaw := by
  have hf := isFraction_fraction a corners
  obtain ⟨hlow, hhigh⟩ := between_part (n := (s (lineBefore a corners + 1)).toRaw -
    (s (lineBefore a corners)).toRaw) hf.1 (Int.le_of_lt hf.2)
  rw [along, toRaw_interpolate hf hs, Between]
  omega

/-- From one line to the next one heights go from one value to the other, always up or always
down. -/
structure Slopes (first second before after : Scalar) : Prop where
  between : Between first.toRaw second.toRaw before.toRaw
  rising : first ≤ second → before ≤ after
  falling : second ≤ first → after ≤ before

lemma slopes_along (hs : FitsSigned ((s (i + 1)).toRaw - (s i).toRaw))
    (hle : lineAt corners i ≤ a.toRaw) (hab : a.toRaw ≤ b.toRaw)
    (hge : b.toRaw ≤ lineAt corners (i + 1)) :
    Slopes (s i) (s (i + 1)) (along s corners a) (along s corners b) := by
  have hwidth : lineAt corners (i + 1) - lineAt corners i = 1048576 := by
    rw [lineAt_eq, lineAt_eq]
    omega
  have ha := toRaw_along (s := s) hs hle (Int.le_trans hab hge)
  have hb := toRaw_along (s := s) hs (Int.le_trans hle hab) hge
  have hnonneg : 0 ≤ (a.toRaw - lineAt corners i) / 16 := by omega
  have hone : (a.toRaw - lineAt corners i) / 16 ≤ Scalar.one := by
    rw [Scalar.one]
    omega
  have hfurther : (a.toRaw - lineAt corners i) / 16 ≤ (b.toRaw - lineAt corners i) / 16 := by omega
  obtain ⟨hlow, hhigh⟩ := between_part (n := (s (i + 1)).toRaw - (s i).toRaw) hnonneg hone
  obtain ⟨hrise, hfall⟩ := part_mono hfurther ((s (i + 1)).toRaw - (s i).toRaw)
  refine ⟨?_, fun hup => ?_, fun hdown => ?_⟩
  · rw [Between, ha]
    omega
  · rw [Scalar.le_iff] at hup ⊢
    have := hrise (by omega)
    omega
  · rw [Scalar.le_iff] at hdown ⊢
    have := hfall (by omega)
    omega

/-! ### The ground -/

/-- No two samples are so far from each other that their difference wraps around. -/
def Gentle (t : Terrain) : Prop :=
  ∀ a ∈ t.heights.cells, ∀ b ∈ t.heights.cells, a.toRaw - b.toRaw < 2147483648

instance (t : Terrain) : Decidable t.Gentle := by
  unfold Gentle
  infer_instance

variable {t : Terrain} {x z x' z' : Scalar} {column row : Int}

lemma exists_sample_eq (t : Terrain) (column row : Int) :
    t.heights.get? (clampIndex column t.heights.width) (clampIndex row t.heights.height) =
      some (t.sample column row) := by
  obtain ⟨hx, hxlt⟩ := clampIndex_within t.heights.width_pos column
  obtain ⟨hy, hylt⟩ := clampIndex_within t.heights.height_pos row
  obtain ⟨a, ha⟩ := Grid.exists_at? hxlt hylt
  rw [sample, Grid.get?, if_pos ⟨hx, hy⟩, ha]
  rfl

lemma sample_mem (t : Terrain) (column row : Int) : t.sample column row ∈ t.heights.cells := by
  obtain ⟨i, j, -, -, h⟩ := Grid.get?_eq_some_iff.1 (t.exists_sample_eq column row)
  rw [Grid.at?] at h
  split at h
  · exact Array.mem_of_getElem? h
  · cases h

lemma sample_of_get? {a : Scalar} (h : t.heights.get? column row = some a) :
    t.sample column row = a := by
  obtain ⟨i, j, rfl, rfl, hat⟩ := Grid.get?_eq_some_iff.1 h
  obtain ⟨hi, hj⟩ := Grid.lt_of_at? hat
  have hclamped := t.exists_sample_eq i j
  have hcolumn : clampIndex i t.heights.width = i := by
    simp only [clampIndex]
    omega
  have hrow : clampIndex j t.heights.height = j := by
    simp only [clampIndex]
    omega
  rw [hcolumn, hrow, h] at hclamped
  exact (Option.some.inj hclamped).symm

lemma Gentle.fitsSigned (ht : t.Gentle) (column row column' row' : Int) :
    FitsSigned ((t.sample column row).toRaw - (t.sample column' row').toRaw) := by
  have hlt := ht _ (t.sample_mem column row) _ (t.sample_mem column' row')
  have hgt := ht _ (t.sample_mem column' row') _ (t.sample_mem column row)
  exact ⟨by omega, hlt⟩

/-- The height in a row of samples. -/
def rowHeight (t : Terrain) (x : Scalar) (row : Int) : Scalar :=
  along (fun column => t.sample column row) t.heights.width x

/-- Heights are interpolated in the rows first. -/
lemma heightAt_eq_along (t : Terrain) (x z : Scalar) :
    t.heightAt x z = along (t.rowHeight x) t.heights.height z := rfl

lemma heightAt_of_row (x : Scalar) (hz : z.toRaw = t.rowAt row) :
    t.heightAt x z = along (fun column => t.sample column row) t.heights.width x := by
  rw [heightAt_eq_along, along_lineAt (t.rowHeight x) hz, rowHeight]

lemma heightAt_of_column (z : Scalar) (hx : x.toRaw = t.columnAt column) :
    t.heightAt x z = along (fun row => t.sample column row) t.heights.height z := by
  have hrow : t.rowHeight x = fun row => t.sample column row :=
    funext fun _ => along_lineAt _ hx
  rw [heightAt_eq_along, hrow]

lemma heightAt_of_corner (hx : x.toRaw = t.columnAt column) (hz : z.toRaw = t.rowAt row) :
    t.heightAt x z = t.sample column row := by
  rw [heightAt_of_row x hz, along_lineAt _ hx]

lemma heightAt_of_level {c : Scalar} (h : ∀ a ∈ t.heights.cells, a = c) (x z : Scalar) :
    t.heightAt x z = c := by
  have hrow : ∀ row, t.rowHeight x row = c :=
    fun row => along_const fun column => h _ (t.sample_mem column row)
  rw [heightAt_eq_along, along_const hrow]

lemma between_rowHeight (ht : t.Gentle) (x : Scalar) (row : Int) :
    Between (t.sample (lineBefore x t.heights.width) row).toRaw
      (t.sample (lineBefore x t.heights.width + 1) row).toRaw (t.rowHeight x row).toRaw :=
  between_along (fun column => t.sample column row) x (ht.fitsSigned ..)

/-- The heights in two rows are not further apart than two samples are, so that the second
interpolation does not leave the samples either. -/
lemma exists_corners_le_heightAt (ht : t.Gentle) (x z : Scalar) :
    (∃ a ∈ t.corners (t.cellAt ⟨x, 0, z⟩).1 (t.cellAt ⟨x, 0, z⟩).2, a ≤ t.heightAt x z) ∧
      ∃ b ∈ t.corners (t.cellAt ⟨x, 0, z⟩).1 (t.cellAt ⟨x, 0, z⟩).2, t.heightAt x z ≤ b := by
  have hcell : t.cellAt ⟨x, 0, z⟩ =
      (lineBefore x t.heights.width, lineBefore z t.heights.height) := rfl
  rw [heightAt_eq_along, hcell]
  simp only [corners, List.mem_cons, List.not_mem_nil, or_false, exists_eq_or_imp, exists_eq_left,
    Scalar.le_iff]
  have hupper := between_rowHeight ht x (lineBefore z t.heights.height)
  have hlower := between_rowHeight ht x (lineBefore z t.heights.height + 1)
  generalize lineBefore x t.heights.width = column at *
  -- whichever two samples the two heights are closest to, these are not too far apart
  have hdifference : FitsSigned ((t.rowHeight x (lineBefore z t.heights.height + 1)).toRaw -
      (t.rowHeight x (lineBefore z t.heights.height)).toRaw) := by
    generalize lineBefore z t.heights.height = row at *
    have h00 := ht.fitsSigned column (row + 1) column row
    have h01 := ht.fitsSigned column (row + 1) (column + 1) row
    have h10 := ht.fitsSigned (column + 1) (row + 1) column row
    have h11 := ht.fitsSigned (column + 1) (row + 1) (column + 1) row
    simp only [Between, FitsSigned] at *
    omega
  have hheight := between_along (t.rowHeight x) z hdifference
  simp only [Between] at hupper hlower hheight
  constructor <;> omega

/-- If no difference of samples wraps around, the height at a place on the map or off it is found
with fractions of a tile that are less than one, and lies between two of the four samples around the
place; beyond the edge these are samples on the edge.  At the corner of a sample the height is that
sample, on level ground it is the same everywhere, and along the edge of a cell it goes from one
sample to the other, always up or always down. -/
theorem heights_stay_within_samples (ht : t.Gentle) (x z : Scalar) :
    let (column, row) := t.cellAt ⟨x, 0, z⟩
    let fx := fraction x t.heights.width
    let fz := fraction z t.heights.height
    (t.heightAt x z =
        interpolate (interpolate (t.sample column row) (t.sample (column + 1) row) fx)
          (interpolate (t.sample column (row + 1)) (t.sample (column + 1) (row + 1)) fx) fz ∧
      IsFraction fx ∧ IsFraction fz) ∧
    ((∃ a ∈ t.corners column row, a ≤ t.heightAt x z) ∧
      ∃ b ∈ t.corners column row, t.heightAt x z ≤ b) ∧
    (∀ column row, x.toRaw = t.columnAt column → z.toRaw = t.rowAt row →
      t.heightAt x z = t.sample column row ∧
        ∀ a, t.heights.get? column row = some a → t.heightAt x z = a) ∧
    (∀ c, (∀ a ∈ t.heights.cells, a = c) → t.heightAt x z = c) ∧
    (∀ column row x', z.toRaw = t.rowAt row → t.columnAt column ≤ x.toRaw →
      x.toRaw ≤ x'.toRaw → x'.toRaw ≤ t.columnAt (column + 1) →
      Slopes (t.sample column row) (t.sample (column + 1) row)
        (t.heightAt x z) (t.heightAt x' z)) ∧
    ∀ column row z', x.toRaw = t.columnAt column → t.rowAt row ≤ z.toRaw →
      z.toRaw ≤ z'.toRaw → z'.toRaw ≤ t.rowAt (row + 1) →
      Slopes (t.sample column row) (t.sample column (row + 1))
        (t.heightAt x z) (t.heightAt x z') := by
  refine ⟨⟨rfl, isFraction_fraction .., isFraction_fraction ..⟩,
    exists_corners_le_heightAt ht x z, ?_, fun c hlevel => heightAt_of_level hlevel x z, ?_, ?_⟩
  · intro column row hx hz
    have hheight := heightAt_of_corner hx hz
    exact ⟨hheight, fun a ha => hheight.trans (sample_of_get? ha)⟩
  · intro column row x' hz hle hlater hge
    rw [heightAt_of_row x hz, heightAt_of_row x' hz]
    exact slopes_along (s := fun column => t.sample column row) (ht.fitsSigned ..) hle hlater hge
  · intro column row z' hx hle hlater hge
    rw [heightAt_of_column z hx, heightAt_of_column z' hx]
    exact slopes_along (s := fun row => t.sample column row) (ht.fitsSigned ..) hle hlater hge

/-- The ground of one cell, which rises by sixteen units from the left edge to the right one. -/
def rise : Terrain :=
  ⟨⟨2, 2, #[0, .ofWhole 16, 0, .ofWhole 16], Nat.two_pos, Nat.two_pos, rfl⟩, 0⟩

/-- Along the upper edge the ground rises, half of it in half a tile. -/
theorem heights_stay_within_samples_rise :
    rise.Gentle ∧ rise.heightAt (.ofWhole (-8)) (.ofWhole (-8)) = 0 ∧
    rise.heightAt 0 (.ofWhole (-8)) = .ofWhole 8 ∧
    rise.heightAt (.ofWhole (-8)) (.ofWhole (-8)) ≤ rise.heightAt 0 (.ofWhole (-8)) := by
  have ht : rise.Gentle := by decide
  obtain ⟨-, -, hcorner, -, hrow, -⟩ :=
    heights_stay_within_samples ht (.ofWhole (-8)) (.ofWhole (-8))
  have hslopes := hrow 0 0 0 rfl (by decide) (by decide) (by decide)
  exact ⟨ht, (hcorner 0 0 rfl rfl).2 0 rfl, by decide, hslopes.rising (by decide)⟩

end Terrain

end Lockstep
