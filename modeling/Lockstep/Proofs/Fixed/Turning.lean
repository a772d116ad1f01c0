import Mathlib.Analysis.SpecialFunctions.Trigonometric.Bounds
import Mathlib.Analysis.SpecialFunctions.Trigonometric.Arctan
import Mathlib.Analysis.Complex.Trigonometric
import Lockstep.Fixed.Rotation
/-!
# Turning, as multiplication of complex numbers

A vector that is being turned and the angle that is still to go are read as one complex number, the
vector turned by that angle (`Turning.reading`).  A step turns the vector one way and the angle the
other, so it leaves this number where it is, except that it stretches it by a factor that depends on
the step alone; that the step is not quite its angle and that shifts are rounded makes a small
difference (`norm_reading_turn_sub_le`).  A run multiplies the factors and adds the differences up
(`norm_reading_runFrom_sub_le`).
-/

namespace Lockstep.Rotation

open Complex

/-- The angle of a part, of which half a turn has `2 ^ 31`, in radians. -/
noncomputable def part : ℝ := Real.pi / 2147483648

/-- The complex number of length one in the direction of an angle in parts. -/
noncomputable def bearing (z : ℤ) : ℂ := exp ((z * part : ℝ) * I)

@[simp] lemma norm_bearing (z : ℤ) : ‖bearing z‖ = 1 := norm_exp_ofReal_mul_I _

lemma bearing_add (z z' : ℤ) : bearing (z + z') = bearing z * bearing z' := by
  rw [bearing, bearing, bearing, ← exp_add]
  push_cast
  ring_nf

lemma norm_exp_sub_one_le (r : ℝ) : ‖exp (r * I) - 1‖ ≤ |r| := by
  rw [mul_comm]
  exact Real.norm_exp_I_mul_ofReal_sub_one_le

/-- Directions are not farther apart than their angles. -/
lemma norm_bearing_sub_le (z z' : ℤ) : ‖bearing z - bearing z'‖ ≤ |(z - z' : ℤ)| * part := by
  have hsplit : bearing z - bearing z' =
      (exp (((z - z' : ℤ) * part : ℝ) * I) - 1) * bearing z' := by
    rw [sub_mul, one_mul, ← bearing, ← bearing_add, sub_add_cancel]
  have hpart : 0 ≤ part := div_nonneg Real.pi_pos.le (by norm_num)
  rw [hsplit, norm_mul, norm_bearing, mul_one]
  refine (norm_exp_sub_one_le _).trans_eq ?_
  rw [abs_mul, abs_of_nonneg hpart, Int.cast_abs]

namespace Turning

/-- The vector as a complex number. -/
def point (v : Turning) : ℂ := v.x + v.y * I

/-- The vector turned by the angle. -/
noncomputable def reading (v : Turning) : ℂ := v.point * bearing v.z

/-- A turn by the `i`th step, forward or back as the sign says. -/
def turn (v : Turning) (sign : ℤ) (i : ℕ) (step : ℤ) : Turning :=
  ⟨v.x - sign * (v.y >>> i), v.y + sign * (v.x >>> i), v.z - sign * step⟩

@[simp] lemma norm_reading (v : Turning) : ‖v.reading‖ = ‖v.point‖ := by
  rw [reading, norm_mul, norm_bearing, mul_one]

end Turning

/-- A rule turns vectors one way or the other. -/
def Turns (rule : Turning → ℕ → ℤ → Turning) : Prop :=
  ∀ v i step, ∃ sign : ℤ, (sign = 1 ∨ sign = -1) ∧ rule v i step = v.turn sign i step

lemma turns_flatten : Turns Turning.flatten := by
  intro v i step
  rw [Turning.flatten]
  split
  · exact ⟨-1, .inr rfl, by simp only [Turning.turn, Turning.mk.injEq]; omega⟩
  · exact ⟨1, .inl rfl, by simp only [Turning.turn, Turning.mk.injEq]; omega⟩

lemma turns_advance : Turns Turning.advance := by
  intro v i step
  rw [Turning.advance]
  split
  · exact ⟨1, .inl rfl, by simp only [Turning.turn, Turning.mk.injEq]; omega⟩
  · exact ⟨-1, .inr rfl, by simp only [Turning.turn, Turning.mk.injEq]; omega⟩

/-! ### One step -/

/-- What the `i`th step multiplies lengths by. -/
noncomputable def stretch (i : ℕ) : ℝ := √(1 + ((1 / 2) ^ i) ^ 2)

lemma one_le_stretch (i : ℕ) : 1 ≤ stretch i :=
  Real.one_le_sqrt.2 (le_add_of_nonneg_right (sq_nonneg _))

/-- A shift divides by a power of two and cuts less than one off. -/
lemma exists_shiftRight_eq (n : ℤ) (i : ℕ) :
    ∃ cut : ℝ, 0 ≤ cut ∧ cut < 1 ∧ ((n >>> i : ℤ) : ℝ) = n * (1 / 2) ^ i - cut := by
  have hpos : (0 : ℤ) < 2 ^ i := Int.pow_pos (by decide)
  have hpos' : (0 : ℝ) < 2 ^ i := by positivity
  have hdiv : (n : ℝ) = 2 ^ i * (n / 2 ^ i : ℤ) + (n % 2 ^ i : ℤ) := by
    exact_mod_cast (Int.mul_ediv_add_emod n (2 ^ i)).symm
  have hnonneg : (0 : ℝ) ≤ (n % 2 ^ i : ℤ) := by exact_mod_cast Int.emod_nonneg n hpos.ne'
  have hlt : ((n % 2 ^ i : ℤ) : ℝ) < 2 ^ i := by exact_mod_cast Int.emod_lt_of_pos n hpos
  refine ⟨(n % 2 ^ i : ℤ) / 2 ^ i, by positivity, (div_lt_one hpos').2 hlt, ?_⟩
  rw [Int.shiftRight_eq_div_pow, Int.natCast_pow, Nat.cast_ofNat, hdiv, one_div, inv_pow]
  field_simp
  ring

/-- A turn by the angle with the tangent `(1 / 2) ^ i` is a shift and a sum in each coordinate, but
for the factor. -/
lemma stretch_mul_exp {sign : ℤ} (hsign : sign = 1 ∨ sign = -1) (i : ℕ) :
    stretch i * exp ((sign * Real.arctan ((1 / 2) ^ i) : ℝ) * I) = 1 + sign * (1 / 2) ^ i * I := by
  have hne : stretch i ≠ 0 := (zero_lt_one.trans_le (one_le_stretch i)).ne'
  have hcos : stretch i * Real.cos (Real.arctan ((1 / 2) ^ i)) = 1 := by
    rw [Real.cos_arctan, ← stretch, mul_one_div_cancel hne]
  have hsin : stretch i * Real.sin (Real.arctan ((1 / 2) ^ i)) = (1 / 2) ^ i := by
    rw [Real.sin_arctan, ← stretch, mul_div_cancel₀ _ hne]
  rw [exp_mul_I, ← ofReal_cos, ← ofReal_sin]
  rcases hsign with rfl | rfl
  · simp only [Int.cast_one, one_mul]
    rw [mul_add, ← mul_assoc, ← ofReal_mul, ← ofReal_mul, hcos, hsin]
    push_cast
    rfl
  · simp only [Int.cast_neg, Int.cast_one, neg_mul, one_mul, Real.cos_neg, Real.sin_neg]
    rw [mul_add, ← mul_assoc, ← ofReal_mul, ← ofReal_mul, mul_neg, hcos, hsin]
    push_cast
    ring

variable {v : Turning} {δ : ℝ} {i : ℕ} {step : ℤ}

/-- The shifts of a turn are rounded by less than one each. -/
lemma norm_point_turn_sub_le {sign : ℤ} (hsign : sign = 1 ∨ sign = -1) (v : Turning) (i : ℕ)
    (step : ℤ) :
    ‖(v.turn sign i step).point - v.point * (1 + sign * (1 / 2) ^ i * I)‖ ≤ 2 := by
  obtain ⟨cutX, hx₀, hx₁, hx⟩ := exists_shiftRight_eq v.x i
  obtain ⟨cutY, hy₀, hy₁, hy⟩ := exists_shiftRight_eq v.y i
  have hx' : ((v.x >>> i : ℤ) : ℂ) = v.x * (1 / 2) ^ i - cutX := by
    rw [← ofReal_intCast, hx]
    push_cast
    rfl
  have hy' : ((v.y >>> i : ℤ) : ℂ) = v.y * (1 / 2) ^ i - cutY := by
    rw [← ofReal_intCast, hy]
    push_cast
    rfl
  have hsplit : (v.turn sign i step).point - v.point * (1 + sign * (1 / 2) ^ i * I) =
      sign * (cutY - cutX * I) := by
    simp only [Turning.turn, Turning.point]
    push_cast
    rw [hx', hy']
    linear_combination (-(sign : ℂ) * (1 / 2) ^ i * v.y) * I_sq
  have hnorm : ‖(sign : ℂ)‖ = 1 := by rcases hsign with rfl | rfl <;> simp
  rw [hsplit, norm_mul, hnorm, one_mul]
  calc ‖(cutY - cutX * I : ℂ)‖ ≤ ‖(cutY : ℂ)‖ + ‖(cutX * I : ℂ)‖ := norm_sub_le _ _
    _ = cutY + cutX := by
      rw [norm_mul, norm_I, mul_one, norm_real, norm_real, Real.norm_of_nonneg hy₀,
        Real.norm_of_nonneg hx₀]
    _ ≤ 2 := by linarith

/-- **What a step does.**  It stretches what the vector and the angle are read as. -/
theorem norm_reading_turn_sub_le {sign : ℤ} (hsign : sign = 1 ∨ sign = -1)
    (hstep : |Real.arctan ((1 / 2) ^ i) - step * part| ≤ δ) :
    ‖(v.turn sign i step).reading - stretch i * v.reading‖ ≤
      stretch i * (δ * ‖v.reading‖ + 2) := by
  have hstretch := one_le_stretch i
  have hturn := stretch_mul_exp hsign i
  set angle := Real.arctan ((1 / 2) ^ i)
  -- the angle of the step, less the step that is taken from the angle still to go
  have hexp : exp ((sign * angle : ℝ) * I) * bearing (v.z - sign * step) =
      exp ((sign * (angle - step * part) : ℝ) * I) * bearing v.z := by
    rw [bearing, bearing, ← exp_add, ← exp_add]
    push_cast
    ring_nf
  have hsplit : (v.turn sign i step).reading - stretch i * v.reading =
      ((v.turn sign i step).point - v.point * (1 + sign * (1 / 2) ^ i * I)) *
        bearing (v.z - sign * step) +
      stretch i * v.reading * (exp ((sign * (angle - step * part) : ℝ) * I) - 1) := by
    have hz : (v.turn sign i step).z = v.z - sign * step := rfl
    rw [Turning.reading, Turning.reading, hz, ← hturn]
    linear_combination (stretch i * v.point : ℂ) * hexp
  have hsmall : ‖exp ((sign * (angle - step * part) : ℝ) * I) - 1‖ ≤ δ := by
    have habs : |((sign : ℤ) : ℝ)| = 1 := by rcases hsign with rfl | rfl <;> simp
    refine (norm_exp_sub_one_le _).trans ?_
    rwa [abs_mul, habs, one_mul]
  rw [hsplit]
  calc _ ≤ 2 * 1 + stretch i * ‖v.reading‖ * δ := by
        refine (norm_add_le _ _).trans (add_le_add ?_ ?_)
        · rw [norm_mul, norm_bearing]
          gcongr
          exact norm_point_turn_sub_le hsign v i step
        · rw [norm_mul, norm_mul, norm_real, Real.norm_of_nonneg (by linarith)]
          gcongr
    _ ≤ stretch i * 2 + stretch i * ‖v.reading‖ * δ := by linarith
    _ = stretch i * (δ * ‖v.reading‖ + 2) := by ring

/-- With so much added, a step makes lengths larger by a factor and no more. -/
lemma norm_reading_turn_add_le {sign : ℤ} (hsign : sign = 1 ∨ sign = -1) (hδ : 0 < δ)
    (hstep : |Real.arctan ((1 / 2) ^ i) - step * part| ≤ δ) :
    ‖(v.turn sign i step).reading‖ + 2 / δ ≤
      stretch i * ((1 + δ) * (‖v.reading‖ + 2 / δ)) := by
  have hone := one_le_stretch i
  have hturn := norm_reading_turn_sub_le (v := v) hsign hstep
  have htriangle := norm_le_norm_sub_add (v.turn sign i step).reading (stretch i * v.reading)
  rw [norm_mul, norm_real, Real.norm_of_nonneg (by linarith)] at htriangle
  have hadded : 2 / δ ≤ stretch i * (2 / δ) := le_mul_of_one_le_left (by positivity) hone
  have hexpand : (1 + δ) * (‖v.reading‖ + 2 / δ) =
      ‖v.reading‖ + (δ * ‖v.reading‖ + 2) + 2 / δ := by
    field_simp
    ring
  rw [hexpand]
  linarith

/-! ### All steps -/

/-- What some steps, numbered from `i`, multiply lengths by. -/
noncomputable def gain : List ℤ → ℕ → ℝ
  | [], _ => 1
  | _ :: rest, i => stretch i * gain rest (i + 1)

lemma gain_pos (l : List ℤ) (i : ℕ) : 0 < gain l i := by
  induction l generalizing i with
  | nil => exact one_pos
  | cons _ rest ih => exact mul_pos (one_pos.trans_le (one_le_stretch i)) (ih (i + 1))

/-- **What the steps do together.**  The induction is on the steps; what has been said of the first
one is stretched by the others. -/
theorem norm_reading_runFrom_sub_le {rule : Turning → ℕ → ℤ → Turning} (hrule : Turns rule)
    {l : List ℤ} (hl : ∀ p ∈ l.zipIdx i, |Real.arctan ((1 / 2) ^ p.2) - p.1 * part| ≤ δ)
    (hδ : 0 < δ) :
    ‖(runFrom rule l i v).reading - gain l i * v.reading‖ ≤
      gain l i * (((1 + δ) ^ l.length - 1) * (‖v.reading‖ + 2 / δ)) := by
  induction l generalizing v i with
  | nil => simp [runFrom, gain]
  | cons step rest ih =>
    rw [List.zipIdx_cons] at hl
    obtain ⟨sign, hsign, hv'⟩ := hrule v i step
    have hfirst := norm_reading_turn_sub_le (v := v) hsign (hl _ List.mem_cons_self)
    have hlength := norm_reading_turn_add_le (v := v) hsign hδ (hl _ List.mem_cons_self)
    have hrest := ih (v := v.turn sign i step) fun p hp => hl p (List.mem_cons_of_mem _ hp)
    rw [runFrom, hv', gain, List.length_cons]
    set v' := v.turn sign i step
    set K := stretch i with hK
    set G := gain rest (i + 1)
    set grown := (1 + δ) ^ rest.length
    have hone : 1 ≤ K := one_le_stretch i
    have hG : 0 < G := gain_pos rest (i + 1)
    have hgrown : 0 ≤ grown - 1 := sub_nonneg.2 (one_le_pow₀ (by linarith))
    have hsplit : (runFrom rule rest (i + 1) v').reading - ((K * G : ℝ) : ℂ) * v.reading =
        ((runFrom rule rest (i + 1) v').reading - G * v'.reading) +
          G * (v'.reading - K * v.reading) := by
      push_cast
      ring
    rw [hsplit]
    calc _ ≤ G * ((grown - 1) * (‖v'.reading‖ + 2 / δ)) + G * (K * (δ * ‖v.reading‖ + 2)) := by
          refine (norm_add_le _ _).trans (add_le_add hrest ?_)
          rw [norm_mul, norm_real, Real.norm_of_nonneg hG.le]
          gcongr
      _ ≤ G * ((grown - 1) * (K * ((1 + δ) * (‖v.reading‖ + 2 / δ)))) +
          G * (K * (δ * ‖v.reading‖ + 2)) := by gcongr
      _ = K * G * (((1 + δ) ^ (rest.length + 1) - 1) * (‖v.reading‖ + 2 / δ)) := by
        rw [pow_succ]
        field_simp
        ring

end Lockstep.Rotation
