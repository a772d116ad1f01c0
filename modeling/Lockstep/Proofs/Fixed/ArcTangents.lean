import Mathlib.Analysis.Real.Pi.Bounds
import Mathlib.Analysis.SpecialFunctions.Complex.Arctan
import Lockstep.Proofs.Fixed.Turning
/-!
# The angles of the steps and their gain

The steps of a rotation are meant to be the angles with the tangents `1`, `1/2`, `1/4`, ….  The
first one is exactly that, an eighth of a turn; the others are compared with the first terms of the
series of the arc tangent, whose partial sums lie on both sides of it (`arctanSum_le_arctan`,
`arctan_le_arctanSum`).  So all steps together leave what a vector and an angle are read as where it
is, but for the gain, of which the inverse is known (`norm_reading_run_sub_le`,
`gain_mul_inverseGain`).
-/

namespace Lockstep

open Finset

/-! ### The series of the arc tangent -/

/-- The first terms of the series of the arc tangent. -/
def arctanSum (n : ℕ) (t : ℚ) : ℚ := ∑ k ∈ range n, (-1) ^ k * (t ^ (2 * k + 1) / (2 * k + 1))

section

variable {t : ℝ}

lemma antitone_arctanTerm (h₀ : 0 ≤ t) (h₁ : t ≤ 1) :
    Antitone fun k : ℕ => t ^ (2 * k + 1) / (2 * k + 1) := by
  intro m n h
  have hpow : t ^ (2 * n + 1) ≤ t ^ (2 * m + 1) := pow_le_pow_of_le_one h₀ h₁ (by omega)
  have hcast : (m : ℝ) ≤ n := Nat.cast_le.2 h
  exact div_le_div₀ (pow_nonneg h₀ _) hpow (by positivity) (by linarith)

lemma tendsto_arctanTerm (h₀ : 0 ≤ t) (h₁ : t < 1) :
    Filter.Tendsto (fun n => ∑ k ∈ range n, (-1) ^ k * (t ^ (2 * k + 1) / (2 * k + 1)))
      Filter.atTop (nhds (Real.arctan t)) := by
  have hsum := (Real.hasSum_arctan (x := t) (by rwa [Real.norm_of_nonneg h₀])).tendsto_sum_nat
  refine hsum.congr fun n => sum_congr rfl fun k _ => ?_
  push_cast
  ring

end

variable {t : ℚ}

lemma cast_arctanSum (n : ℕ) (t : ℚ) :
    (arctanSum n t : ℝ) = ∑ k ∈ range n, (-1) ^ k * ((t : ℝ) ^ (2 * k + 1) / (2 * k + 1)) := by
  rw [arctanSum]
  push_cast
  rfl

theorem arctanSum_le_arctan (h₀ : 0 ≤ t) (h₁ : t < 1) (n : ℕ) :
    (arctanSum (2 * n) t : ℝ) ≤ Real.arctan t := by
  have h₀' : (0 : ℝ) ≤ t := by exact_mod_cast h₀
  have h₁' : (t : ℝ) < 1 := by exact_mod_cast h₁
  rw [cast_arctanSum]
  exact (antitone_arctanTerm h₀' h₁'.le).alternating_series_le_tendsto
    (tendsto_arctanTerm h₀' h₁') n

theorem arctan_le_arctanSum (h₀ : 0 ≤ t) (h₁ : t < 1) (n : ℕ) :
    Real.arctan t ≤ arctanSum (2 * n + 1) t := by
  have h₀' : (0 : ℝ) ≤ t := by exact_mod_cast h₀
  have h₁' : (t : ℝ) < 1 := by exact_mod_cast h₁
  rw [cast_arctanSum]
  exact (antitone_arctanTerm h₀' h₁'.le).tendsto_le_alternating_series
    (tendsto_arctanTerm h₀' h₁') n

namespace Rotation

/-! ### The steps -/

/-- How far a step may be from the angle that it is meant to be, in radians. -/
def tolerance : ℚ := 1 / 262144

/-- A step is close enough to the first terms of the series, whatever `π` is between `3.141592` and
`3.141593`. -/
def IsNear (step : Int) (i : ℕ) : Prop :=
  arctanSum 9 ((1 / 2) ^ i) - step * (3.141592 / 2147483648) ≤ tolerance ∧
    step * (3.141593 / 2147483648) - arctanSum 8 ((1 / 2) ^ i) ≤ tolerance

instance (step : Int) (i : ℕ) : Decidable (IsNear step i) := inferInstanceAs (Decidable (_ ∧ _))

lemma abs_arctan_sub_le {step : Int} {i : ℕ} (hstep : 0 ≤ step) (hi : 0 < i)
    (h : IsNear step i) : |Real.arctan ((1 / 2) ^ i) - step * part| ≤ tolerance := by
  obtain ⟨hupper, hlower⟩ := h
  have h₀ : (0 : ℚ) ≤ (1 / 2) ^ i := by positivity
  have h₁ : (1 / 2 : ℚ) ^ i < 1 := pow_lt_one₀ (by norm_num) (by norm_num) hi.ne'
  have hle := arctan_le_arctanSum h₀ h₁ 4
  have hge := arctanSum_le_arctan h₀ h₁ 4
  have hstep' : (0 : ℝ) ≤ step := by exact_mod_cast hstep
  have hpart : (step : ℝ) * (3.141592 / 2147483648) ≤ step * part :=
    mul_le_mul_of_nonneg_left (by rw [part]; gcongr; exact Real.pi_gt_d6.le) hstep'
  have hpart' : (step : ℝ) * part ≤ step * (3.141593 / 2147483648) :=
    mul_le_mul_of_nonneg_left (by rw [part]; gcongr; exact Real.pi_lt_d6.le) hstep'
  rw [← Rat.cast_le (K := ℝ)] at hupper hlower
  push_cast at hle hge hupper hlower
  exact abs_le.2 ⟨by linarith, by linarith⟩

lemma arctan_first_step : Real.arctan ((1 / 2) ^ 0) - (536870912 : Int) * part = 0 := by
  rw [pow_zero, Real.arctan_one, part]
  push_cast
  ring

/-- **The steps are the angles that they are meant to be.** -/
lemma steps_near : ∀ p ∈ steps.zipIdx,
    |Real.arctan ((1 / 2) ^ p.2) - p.1 * part| ≤ tolerance := by
  have hrest : ∀ p ∈ steps.tail.zipIdx 1, 0 ≤ p.1 ∧ 0 < p.2 ∧ IsNear p.1 p.2 := by
    decide +kernel
  have hsteps : steps.zipIdx = (536870912, 0) :: steps.tail.zipIdx 1 := rfl
  intro p hp
  rw [hsteps] at hp
  rcases List.mem_cons.1 hp with rfl | hmem
  · rw [arctan_first_step, abs_zero]
    norm_num [tolerance]
  · obtain ⟨hstep, hi, hnear⟩ := hrest p hmem
    exact abs_arctan_sub_le hstep hi hnear

/-! ### The gain -/

/-- The square of what some steps, numbered from `i`, multiply lengths by. -/
def squaredGain : List ℤ → ℕ → ℚ
  | [], _ => 1
  | _ :: rest, i => (1 + ((1 / 2) ^ i) ^ 2) * squaredGain rest (i + 1)

lemma gain_sq (l : List ℤ) (i : ℕ) : gain l i ^ 2 = squaredGain l i := by
  induction l generalizing i with
  | nil => simp [gain, squaredGain]
  | cons step rest ih =>
    rw [gain, squaredGain, mul_pow, ih, stretch, Real.sq_sqrt (by positivity)]
    push_cast
    rfl

/-- **The inverse of the gain is right to the nearest part.** -/
theorem gain_mul_inverseGain :
    1073741823 ≤ gain steps 0 * inverseGain ∧ gain steps 0 * inverseGain ≤ 1073741825 := by
  have hgain : 0 ≤ gain steps 0 * inverseGain :=
    mul_nonneg (gain_pos steps 0).le (by norm_num [inverseGain])
  have hsq : (gain steps 0 * inverseGain) ^ 2 = (squaredGain steps 0 * inverseGain ^ 2 : ℚ) := by
    rw [mul_pow, gain_sq]
    push_cast
    rfl
  have hnear : 1073741823 ^ 2 ≤ squaredGain steps 0 * inverseGain ^ 2 ∧
      squaredGain steps 0 * inverseGain ^ 2 ≤ 1073741825 ^ 2 := by decide +kernel
  constructor
  · refine (sq_le_sq₀ (by norm_num) hgain).1 ?_
    rw [hsq]
    exact_mod_cast hnear.1
  · refine (sq_le_sq₀ hgain (by norm_num)).1 ?_
    rw [hsq]
    exact_mod_cast hnear.2

/-- A vector and the angle still to go are read the same after all steps, but for the gain. -/
theorem norm_reading_run_sub_le {rule : Turning → ℕ → ℤ → Turning} (hrule : Turns rule)
    (v : Turning) : ‖(run rule v).reading - gain steps 0 * v.reading‖ ≤
      gain steps 0 * (25 / 262144 * ‖v.reading‖ + 50) := by
  have hδ : (0 : ℝ) < tolerance := by norm_num [tolerance]
  refine (norm_reading_runFrom_sub_le hrule steps_near hδ).trans ?_
  have hpow : (1 + (tolerance : ℝ)) ^ steps.length - 1 ≤ 25 * tolerance := by
    norm_num [tolerance, steps]
  refine mul_le_mul_of_nonneg_left ?_ (gain_pos steps 0).le
  calc ((1 + (tolerance : ℝ)) ^ steps.length - 1) * (‖v.reading‖ + 2 / tolerance)
      ≤ 25 * tolerance * (‖v.reading‖ + 2 / tolerance) := by gcongr
    _ = 25 / 262144 * ‖v.reading‖ + 50 := by
      rw [tolerance]
      push_cast
      ring

lemma norm_point_run_le {rule : Turning → ℕ → ℤ → Turning} (hrule : Turns rule) (v : Turning) :
    ‖(run rule v).point‖ ≤ gain steps 0 * (‖v.reading‖ + (25 / 262144 * ‖v.reading‖ + 50)) := by
  have hrun := norm_reading_run_sub_le hrule v
  have htriangle := norm_le_norm_sub_add (run rule v).reading (gain steps 0 * v.reading)
  rw [norm_mul, Complex.norm_real, Real.norm_of_nonneg (gain_pos steps 0).le] at htriangle
  rw [← Turning.norm_reading]
  linarith

lemma gain_between : 1 ≤ gain steps 0 ∧ gain steps 0 ≤ 2 := by
  obtain ⟨hge, hle⟩ := gain_mul_inverseGain
  simp only [inverseGain] at hge hle
  push_cast at hge hle
  constructor <;> linarith

end Rotation

end Lockstep
