import Lockstep.Proofs.World.Run
/-!
# What is in the way around a rectangle

Whoever asks for obstacles around a rectangle is told of those in four strips: the row above, the
columns on either side, and a row as far below the top of the rectangle as it is wide.  For a square
these are the cells around it and no others.  Below a wide rectangle one row too far down is looked
at in place of the row that is next to it; a high one has that row inside, and it is only there that
it matters what stands in the rectangle.
-/

namespace Lockstep

open Overflow (FitsSigned)

variable {w : World} {r : Rect} {x y : Int}

/-! ### The cells around a rectangle -/

namespace Rect

/-- Whether a cell lies around a rectangle: next to it, be it at a corner, but not inside. -/
def surrounds (r : Rect) (x y : Int) : Bool :=
  (⟨r.x - 1, r.y - 1, r.width + 2, r.height + 2⟩ : Rect).contains x y && !r.contains x y

/-- Whether a cell is looked at for obstacles around a rectangle: it lies around it and not below,
or it lies in the row below the square on its upper side. -/
def isProbed (r : Rect) (x y : Int) : Bool :=
  r.surrounds x y && decide (y ≠ r.bottom) ||
    decide (r.x - 1 ≤ x ∧ x ≤ r.right ∧ y = r.y + r.width)

/-- A rectangle has cells, and the columns and rows around it are signed words. -/
structure HasRing (r : Rect) : Prop where
  width : 0 < r.width
  height : 0 < r.height
  left : FitsSigned (r.x - 1)
  right : FitsSigned r.right
  top : FitsSigned (r.y - 1)
  bottom : FitsSigned r.bottom

instance (r : Rect) : Decidable r.HasRing :=
  decidable_of_iff (0 < r.width ∧ 0 < r.height ∧ FitsSigned (r.x - 1) ∧ FitsSigned r.right ∧
      FitsSigned (r.y - 1) ∧ FitsSigned r.bottom)
    ⟨fun ⟨h₁, h₂, h₃, h₄, h₅, h₆⟩ => ⟨h₁, h₂, h₃, h₄, h₅, h₆⟩,
      fun h => ⟨h.width, h.height, h.left, h.right, h.top, h.bottom⟩⟩

lemma surrounds_iff : r.surrounds x y = true ↔
    (r.x - 1 ≤ x ∧ x ≤ r.right ∧ r.y - 1 ≤ y ∧ y ≤ r.bottom) ∧
      ¬(r.x ≤ x ∧ x < r.right ∧ r.y ≤ y ∧ y < r.bottom) := by
  simp only [surrounds, Bool.and_eq_true, Bool.not_eq_true', ← Bool.not_eq_true, contains_iff,
    right, bottom]
  omega

lemma isProbed_iff : r.isProbed x y = true ↔
    (r.surrounds x y = true ∧ y ≠ r.bottom) ∨
      (r.x - 1 ≤ x ∧ x ≤ r.right ∧ y = r.y + r.width) := by
  simp only [isProbed, Bool.or_eq_true, Bool.and_eq_true, decide_eq_true_iff]

/-- Around a square just the cells around it are looked at. -/
lemma isProbed_of_square (hsquare : r.width = r.height) (x y : Int) :
    r.isProbed x y = r.surrounds x y := by
  rw [Bool.eq_iff_iff, isProbed_iff, surrounds_iff]
  simp only [right, bottom, hsquare]
  omega

/-- No cell inside a rectangle is looked at, except for the row below the square on its upper side,
if the rectangle is high enough to have that row inside. -/
lemma isProbed_inside (hprobed : r.isProbed x y = true) (hinside : r.contains x y = true) :
    r.width < r.height ∧ y = r.y + r.width := by
  rw [isProbed_iff, surrounds_iff] at hprobed
  rw [contains_iff] at hinside
  rcases hprobed with ⟨⟨-, houtside⟩, -⟩ | ⟨-, -, hrow⟩
  · exact absurd hinside houtside
  · simp only [bottom] at hinside
    exact ⟨by omega, hrow⟩

/-- The four strips as they are in whole numbers. -/
def strips (r : Rect) : List Rect :=
  [⟨r.x - 1, r.y - 1, r.width + 2, 1⟩, ⟨r.x - 1, r.y + r.width, r.width + 2, 1⟩,
    ⟨r.x - 1, r.y, 1, r.height⟩, ⟨r.right, r.y, 1, r.height⟩]

lemma isEmpty_of_mem_strips (hheight : 0 < r.height) {s : Rect} (hs : s ∈ r.strips) :
    s.isEmpty = false := by
  simp only [strips, List.mem_cons, List.not_mem_nil, or_false] at hs
  rcases hs with rfl | rfl | rfl | rfl <;> simp only [isEmpty, decide_eq_false_iff_not] <;> omega

/-- The cells of the four strips are those that are looked at. -/
lemma exists_mem_strips_iff (h : r.HasRing) :
    (∃ s ∈ r.strips, s.contains x y = true) ↔ r.isProbed x y = true := by
  have hwidth := h.width
  have hheight := h.height
  simp only [strips, List.mem_cons, List.not_mem_nil, or_false, exists_eq_or_imp, exists_eq_left,
    contains_iff, isProbed_iff, surrounds_iff, right, bottom]
  omega

end Rect

namespace World

/-! ### Obstacles -/

/-- Whether there is no cell at a column and row, or one that cannot be entered. -/
def isObstacle (w : World) (x y : Int) : Bool := (w.occupancy.get? x y).all Occupancy.blocks

lemma onMap_of_not_isObstacle (h : w.isObstacle x y = false) :
    0 ≤ x ∧ x < w.occupancy.width ∧ 0 ≤ y ∧ y < w.occupancy.height := by
  rw [isObstacle, Grid.get?] at h
  split at h
  · rename_i hxy
    cases hc : w.occupancy.at? x.toNat y.toNat with
    | none => simp [hc] at h
    | some c =>
      have := Grid.lt_of_at? hc
      omega
  · simp at h

/-- The first and the last cell of a rectangle show whether it leaves the map. -/
lemma exists_region?_of_free (hr : r.isEmpty = false)
    (hfree : ∀ x y, r.contains x y = true → w.isObstacle x y = false) :
    ∃ region, w.occupancy.region? r = some region := by
  simp only [Rect.isEmpty, decide_eq_false_iff_not] at hr
  have hfirst := onMap_of_not_isObstacle (hfree r.x r.y (by
    rw [Rect.contains_iff, Rect.right, Rect.bottom]; omega))
  have hlast := onMap_of_not_isObstacle (hfree (r.right - 1) (r.bottom - 1) (by
    rw [Rect.contains_iff, Rect.right, Rect.bottom]; omega))
  exact ⟨_, Grid.region?_eq_some_iff.2 ⟨by omega, rfl⟩⟩

lemma isBlocked_eq_false_iff (hr : r.isEmpty = false) :
    w.isBlocked r = false ↔ ∀ x y, r.contains x y = true → w.isObstacle x y = false := by
  constructor
  · intro h x y hin
    cases hregion : w.occupancy.region? r with
    | none => simp [isBlocked, hregion] at h
    | some region =>
      obtain ⟨hmap, -⟩ := Grid.region?_eq_some_iff.1 hregion
      have hxy : 0 ≤ x ∧ 0 ≤ y := by
        rw [Rect.contains_iff] at hin
        omega
      have hcell : r.contains x.toNat y.toNat = true := by
        rwa [Int.toNat_of_nonneg hxy.1, Int.toNat_of_nonneg hxy.2]
      obtain ⟨hx, hy⟩ :=
        Grid.lt_of_mem_region? hregion ((Grid.mem_cells_of_region? hregion).2 hcell)
      obtain ⟨c, hc⟩ := Grid.exists_at? hx hy
      rw [isObstacle, Grid.get?, if_pos hxy, hc]
      exact not_isBlocked hregion h hc hcell
  · intro h
    obtain ⟨region, hregion⟩ := exists_region?_of_free hr h
    rw [isBlocked, hregion]
    refine Grid.anyIn_eq_false_iff.2 fun {x y a} hmem ha => ?_
    have hfree := h x y ((Grid.mem_cells_of_region? hregion).1 hmem)
    simpa [isObstacle, Grid.get?, ha] using hfree

/-- A rectangle that has cells is blocked if and only if one of them is an obstacle. -/
lemma isBlocked_iff (hr : r.isEmpty = false) :
    w.isBlocked r = true ↔ ∃ x y, r.contains x y = true ∧ w.isObstacle x y = true := by
  rw [← Bool.not_eq_false, isBlocked_eq_false_iff hr]
  simp only [not_forall, exists_prop, Bool.not_eq_false]

/-! ### The answer -/

/-- The row that is looked at in place of the one below a rectangle can be told in signed words. -/
def CanProbe (r : Rect) : Prop := FitsSigned r.width ∧ FitsSigned (r.y + r.width)

instance (r : Rect) : Decidable (CanProbe r) := inferInstanceAs (Decidable (_ ∧ _))

lemma asSigned_of_fits {n : Int} (h : FitsSigned n) : asSigned n = n :=
  Int32.toInt_ofInt_of_le h.1 h.2

/-- A number that is too large for a signed word is read as a negative one. -/
lemma asSigned_of_large {n : Int} (h : 2147483648 ≤ n) (hn : n < 4294967296) :
    asSigned n = n - 4294967296 := by
  have hsize : Int32.size = 4294967296 := rfl
  rw [asSigned, Int32.toInt_ofInt, ← Int.sub_bmod_right]
  exact Int.bmod_eq_of_le (by omega) (by omega)

/-- The strips are formed unless the row in place of the one below cannot be told. -/
lemma surroundingStrips_eq (h : r.HasRing) :
    surroundingStrips r = if CanProbe r then .ok r.strips else .error .add := by
  have hx : Overflow.signed .subtract (r.x - 1) = .ok (r.x - 1) := if_pos h.left
  have hy : Overflow.signed .subtract (r.y - 1) = .ok (r.y - 1) := if_pos h.top
  have hleft := h.left
  have hright := h.right
  have hsize : UInt32.size = 4294967296 := rfl
  simp only [FitsSigned, Rect.right] at hleft hright
  rw [surroundingStrips, hx, hy]
  by_cases hwidth : FitsSigned r.width
  · have hlength : Overflow.unsigned .add (r.width + 2) = .ok (r.width + 2) := by
      rw [FitsSigned] at hwidth
      exact if_pos (by omega)
    have hbeyond : Overflow.signed .add (r.x + r.width) = .ok (r.x + r.width) := if_pos h.right
    rw [hlength, asSigned_of_fits hwidth, hbeyond]
    by_cases hrow : FitsSigned (r.y + r.width)
    · have hbelow : Overflow.signed .add (r.y + r.width) = .ok (r.y + r.width) := if_pos hrow
      rw [hbelow, if_pos ⟨hwidth, hrow⟩]
      rfl
    · have hbelow : Overflow.signed .add (r.y + r.width) = .error .add := if_neg hrow
      rw [hbelow, if_neg fun hprobe => hrow hprobe.2]
      rfl
  · -- the width is read as a negative number, and the column on the right leaves the signed words
    have hlarge : 2147483648 ≤ (r.width : Int) := by
      rw [FitsSigned] at hwidth
      omega
    have hbeyond : Overflow.signed .add (r.x + asSigned r.width) = .error .add := by
      rw [asSigned_of_large hlarge (by omega)]
      exact if_neg (by rw [FitsSigned]; omega)
    rw [hbeyond, if_neg fun hprobe => hwidth hprobe.1, Overflow.unsigned, Overflow.signed]
    split <;> split <;> rfl

/-- **Obstacles around a rectangle.**  In every world, for every rectangle with cells whose
surroundings can be told in signed words, the answer is that something is in the way if and only if
some cell that is looked at is an obstacle, be it off the map or one that cannot be entered.  There
is an answer unless the row that is looked at in place of the one below cannot be told; then the sum
overflows.  For a square the cells that are looked at are those around it.  Of the cells inside a
rectangle only those in that row are looked at, and only if it is higher than wide. -/
theorem surroundings_blocked_iff (w : World) (h : r.HasRing) :
    (CanProbe r → ∃ answer, w.isSurroundingBlocked r = .ok answer ∧
      (answer = true ↔ ∃ x y, r.isProbed x y = true ∧ w.isObstacle x y = true)) ∧
    (¬CanProbe r → w.isSurroundingBlocked r = .error .add) ∧
    (r.width = r.height → ∀ x y, r.isProbed x y = r.surrounds x y) ∧
    ∀ x y, r.isProbed x y = true → r.contains x y = true →
      r.width < r.height ∧ y = r.y + r.width := by
  refine ⟨fun hprobe => ?_, fun hprobe => ?_, Rect.isProbed_of_square,
    fun x y => Rect.isProbed_inside⟩
  · refine ⟨r.strips.any w.isBlocked, ?_, ?_⟩
    · rw [isSurroundingBlocked, surroundingStrips_eq h, if_pos hprobe]
      rfl
    · rw [List.any_eq_true]
      constructor
      · rintro ⟨s, hs, hblocked⟩
        obtain ⟨x, y, hin, hobstacle⟩ :=
          (isBlocked_iff (Rect.isEmpty_of_mem_strips h.height hs)).1 hblocked
        exact ⟨x, y, (Rect.exists_mem_strips_iff h).1 ⟨s, hs, hin⟩, hobstacle⟩
      · rintro ⟨x, y, hprobed, hobstacle⟩
        obtain ⟨s, hs, hin⟩ := (Rect.exists_mem_strips_iff h).2 hprobed
        exact ⟨s, hs, (isBlocked_iff (Rect.isEmpty_of_mem_strips h.height hs)).2
          ⟨x, y, hin, hobstacle⟩⟩
  · rw [isSurroundingBlocked, surroundingStrips_eq h, if_neg hprobe]
    rfl

/-- Nothing is in the way around the middle cell of the level map. -/
theorem surroundings_blocked_iff_middle :
    (⟨1, 1, 1, 1⟩ : Rect).HasRing ∧ CanProbe ⟨1, 1, 1, 1⟩ ∧
    Sample.start.isSurroundingBlocked ⟨1, 1, 1, 1⟩ = .ok false ∧
    ∀ x y, (⟨1, 1, 1, 1⟩ : Rect).surrounds x y = true → Sample.start.isObstacle x y = false := by
  have hring : (⟨1, 1, 1, 1⟩ : Rect).HasRing := by decide
  have hprobe : CanProbe ⟨1, 1, 1, 1⟩ := by decide
  obtain ⟨hanswer, -, hsquare, -⟩ := surroundings_blocked_iff Sample.start hring
  obtain ⟨answer, hsome, hiff⟩ := hanswer hprobe
  have hfree : Sample.start.isSurroundingBlocked ⟨1, 1, 1, 1⟩ = .ok false := by decide +kernel
  rw [hfree] at hsome
  cases hsome
  refine ⟨hring, hprobe, hfree, fun x y hxy => ?_⟩
  rw [← hsquare rfl] at hxy
  exact Bool.eq_false_iff.2 fun hobstacle => by simpa using hiff.2 ⟨x, y, hxy, hobstacle⟩

/-- Below a rectangle of one by two cells at the lower edge the map ends, and yet nothing is said to
be in the way. -/
theorem surroundings_may_miss_row_below :
    World.new Sample.setup = .ok Sample.start ∧ (⟨1, 1, 1, 2⟩ : Rect).HasRing ∧
    Sample.start.isSurroundingBlocked ⟨1, 1, 1, 2⟩ = .ok false ∧
    (⟨1, 1, 1, 2⟩ : Rect).surrounds 1 3 = true ∧ Sample.start.isObstacle 1 3 = true :=
  ⟨Sample.new_setup, by decide, by decide +kernel, by decide, by decide +kernel⟩

end World

end Lockstep
