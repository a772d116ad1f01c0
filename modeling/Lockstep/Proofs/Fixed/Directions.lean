import Lockstep.Proofs.Fixed.ArcTangents
import Lockstep.Proofs.Fixed.Roots
/-!
# Directions and what they point along

The direction of a vector is found by turning the vector onto the first axis and counting the parts;
the sine and the cosine of an angle are found by turning a vector from the first axis until no part
is left.  Both runs keep what the vector and the angle are read as, so it only has to be seen how
close they come to their goals: the second coordinate becomes small against the first
(`flat_run`), and less than a hundred parts are left (`abs_z_run_advance_le`).  So the two agree on
every vector, and in every quadrant (`directions_point_along_vectors`).
-/

namespace Lockstep

namespace Rotation

open Complex

variable {v : Turning} {l : List ℤ} {M : ℤ} {n : ℕ}

/-! ### A vector is turned onto the first axis -/

/-- A vector to the right that is not steep: each of the last `n` steps has halved the slope, but
for a cut of at most one. -/
structure Flat (v : Turning) (n : ℕ) : Prop where
  right : 0 ≤ v.x
  low : |(v.y : ℝ)| ≤ (1 / 2) ^ n * v.x + n

/-- The first step is half a right angle and is not rounded. -/
lemma flat_flatten_zero (h : 0 ≤ v.x) (step : ℤ) : Flat (v.flatten 0 step) 0 := by
  have hbound : 0 ≤ (v.flatten 0 step).x ∧ |(v.flatten 0 step).y| ≤ (v.flatten 0 step).x := by
    simp only [Turning.flatten, Int.shiftRight_zero, abs_le]
    split <;> simp only <;> omega
  refine ⟨hbound.1, ?_⟩
  simp only [pow_zero, one_mul, Nat.cast_zero, add_zero]
  exact_mod_cast hbound.2

lemma Flat.flatten (h : Flat v n) (step : ℤ) : Flat (v.flatten (n + 1) step) (n + 1) := by
  obtain ⟨hright, hlow⟩ := h
  obtain ⟨cutX, hx₀, hx₁, hx⟩ := exists_shiftRight_eq v.x (n + 1)
  have hpos : (0 : ℤ) < 2 ^ (n + 1) := Int.pow_pos (by decide)
  have hshift : ∀ m : ℤ, m >>> (n + 1) = m / 2 ^ (n + 1) := fun m => by
    rw [Int.shiftRight_eq_div_pow, Int.natCast_pow, Nat.cast_ofNat]
  have hright' : (0 : ℝ) ≤ v.x := by exact_mod_cast hright
  have hhalf : (1 / 2 : ℝ) ^ n = 2 * (1 / 2) ^ (n + 1) := by rw [pow_succ]; ring
  obtain ⟨hge, hle⟩ := abs_le.1 hlow
  rw [hhalf] at hge hle
  -- the vector becomes longer to the right, so it is enough to compare with what it was
  suffices ∃ x y : ℤ, (v.flatten (n + 1) step).x = x ∧ (v.flatten (n + 1) step).y = y ∧ v.x ≤ x ∧
      |(y : ℝ)| ≤ (1 / 2) ^ (n + 1) * v.x + (n + 1) by
    obtain ⟨x, y, hx', hy', hlonger, hsmall⟩ := this
    refine ⟨by omega, ?_⟩
    rw [hx', hy', Nat.cast_succ]
    have hlonger' : (v.x : ℝ) ≤ x := by exact_mod_cast hlonger
    have hscaled : (1 / 2 : ℝ) ^ (n + 1) * v.x ≤ (1 / 2) ^ (n + 1) * x := by gcongr
    linarith
  rw [Turning.flatten]
  split
  · rename_i hy
    have hy' : (0 : ℝ) < v.y := by exact_mod_cast hy
    refine ⟨_, _, rfl, rfl, le_add_of_nonneg_right ?_, ?_⟩
    · rw [hshift]
      exact Int.ediv_nonneg hy.le hpos.le
    · push_cast
      rw [hx, abs_le]
      constructor <;> linarith
  · rename_i hy
    have hy' : (v.y : ℝ) ≤ 0 := by exact_mod_cast not_lt.1 hy
    refine ⟨_, _, rfl, rfl, ?_, ?_⟩
    · rw [hshift]
      exact le_sub_self_iff _ |>.2 (Int.ediv_nonpos_of_nonpos_of_neg (not_lt.1 hy) hpos)
    · push_cast
      rw [hx, abs_le]
      constructor <;> linarith

lemma flat_runFrom (h : Flat v n) (l : List ℤ) :
    Flat (runFrom Turning.flatten l (n + 1) v) (n + l.length) := by
  induction l generalizing v n with
  | nil => exact h
  | cons step rest ih =>
    rw [runFrom, List.length_cons, Nat.add_comm rest.length, ← Nat.add_assoc]
    exact ih (h.flatten step)

/-- **After all steps a vector lies on the first axis**, but for the last bit of its slope and what
has been cut off. -/
theorem flat_run (h : 0 ≤ v.x) : Flat (run Turning.flatten v) 23 :=
  flat_runFrom (flat_flatten_zero h 536870912) steps.tail

/-! ### No angle is left -/

/-- How large an angle of at most so many parts can be after some steps. -/
def remaining : List ℤ → ℤ → ℤ
  | [], M => M
  | step :: rest, M => remaining rest (max (M - step) step)

lemma abs_z_advance_le (h : |v.z| ≤ M) (i : ℕ) {step : ℤ} :
    |(v.advance i step).z| ≤ max (M - step) step := by
  rw [abs_le] at h
  simp only [Turning.advance, abs_le]
  split <;> simp only <;> omega

lemma abs_z_runFrom_advance_le (h : |v.z| ≤ M) (l : List ℤ) (i : ℕ) :
    |(runFrom Turning.advance l i v).z| ≤ remaining l M := by
  induction l generalizing v M i with
  | nil => exact h
  | cons step rest ih => exact ih (abs_z_advance_le h i) (i + 1)

/-- **From within a right angle, all steps leave next to nothing.** -/
theorem abs_z_run_advance_le (h : |v.z| ≤ 1073741824) : |(run Turning.advance v).z| ≤ 82 := by
  have hsteps : remaining steps 1073741824 = 82 := by decide +kernel
  exact hsteps ▸ abs_z_runFrom_advance_le h steps 0

/-! ### Where angles point -/

@[simp] lemma bearing_zero : bearing 0 = 1 := by simp [bearing]

/-- Angles that differ by a few parts point almost the same way. -/
lemma norm_bearing_sub_le_of_le {z z' : ℤ} (h : |z - z'| ≤ M) :
    ‖bearing z - bearing z'‖ ≤ M * (3.15 / 2147483648) := by
  have hpart : part ≤ 3.15 / 2147483648 := by
    rw [part]
    gcongr
    exact Real.pi_lt_d2.le
  have hM : (0 : ℝ) ≤ M := by exact_mod_cast (abs_nonneg _).trans h
  refine (norm_bearing_sub_le z z').trans ?_
  exact mul_le_mul (by exact_mod_cast h) hpart (div_nonneg Real.pi_pos.le (by norm_num)) hM

/-- A vector whose angle has but a few parts left is almost what it is read as. -/
lemma norm_point_sub_reading_le (h : |v.z| ≤ M) :
    ‖v.point - v.reading‖ ≤ ‖v.point‖ * (M * (3.15 / 2147483648)) := by
  have hsplit : v.point - v.reading = v.point * (bearing 0 - bearing v.z) := by
    rw [Turning.reading, bearing_zero]
    ring
  rw [hsplit, norm_mul]
  gcongr
  exact norm_bearing_sub_le_of_le (by rwa [zero_sub, abs_neg])

@[simp] lemma bearing_half : bearing 2147483648 = -1 := by
  have hpi : ((2147483648 : ℤ) : ℝ) * part = Real.pi := by
    rw [part]
    push_cast
    ring
  rw [bearing, hpi, exp_pi_mul_I]

end Rotation

namespace Angle

open Complex Rotation

/-- A vector with its spare digits, turned onto the right half-plane. -/
def start (x y : ℤ) : Turning :=
  if x * 65536 < 0 then ⟨-(x * 65536), -(y * 65536), 2147483648⟩ else ⟨x * 65536, y * 65536, 0⟩

/-- The direction of a vector in parts. -/
def partsOf (x y : ℤ) : ℤ := (run Turning.flatten (start x y)).z

lemma atan2_eq {x y : Scalar} (h : ¬(x.toRaw = 0 ∧ y.toRaw = 0)) :
    atan2 y x = ofInt ((partsOf x.toRaw y.toRaw + 32768) / 65536) := by
  rw [atan2, if_neg h]
  rfl

/-- Folding the left half-plane onto the right one is half a turn. -/
lemma reading_start (x y : ℤ) : (start x y).reading = 65536 * (x + y * I) := by
  rw [start]
  split
  · simp only [Turning.reading, Turning.point, bearing_half]
    push_cast
    ring
  · simp only [Turning.reading, Turning.point, bearing_zero]
    push_cast
    ring

lemma start_right (x y : ℤ) : 0 ≤ (start x y).x := by
  rw [start]
  split <;> simp only <;> omega

/-- **Where the direction of a vector points.**  Along the direction lies a vector that differs from
the given one by a part in nine thousand of it, and by the rounding of the shifts. -/
lemma exists_norm_sub_partsOf_le (x y : ℤ) : ∃ length : ℝ, 0 ≤ length ∧
    ‖(x + y * I : ℂ) - length * bearing (partsOf x y)‖ ≤ (7 * ‖(x + y * I : ℂ)‖ + 75) / 65536 := by
  have hrun := norm_reading_run_sub_le turns_flatten (start x y)
  obtain ⟨hright, hlow⟩ := flat_run (start_right x y)
  obtain ⟨hgain, -⟩ := gain_between
  have hpoint := norm_point_run_le turns_flatten (start x y)
  rw [reading_start] at hrun hpoint
  rw [partsOf]
  set v := run Turning.flatten (start x y)
  set p : ℂ := x + y * I
  set G := gain steps 0
  have hnorm : ‖(65536 * p : ℂ)‖ = 65536 * ‖p‖ := by rw [norm_mul]; norm_num
  rw [hnorm] at hrun hpoint
  have hright' : (0 : ℝ) ≤ v.x := by exact_mod_cast hright
  have hlong : (v.x : ℝ) ≤ G * (65536 * ‖p‖ + (25 / 262144 * (65536 * ‖p‖) + 50)) := by
    calc (v.x : ℝ) = v.point.re := by simp [Turning.point]
      _ ≤ ‖v.point‖ := re_le_norm _
      _ ≤ _ := hpoint
  refine ⟨v.x / (65536 * G), by positivity, ?_⟩
  have hne : (G : ℂ) ≠ 0 := by
    rw [ofReal_ne_zero]
    linarith
  -- it differs by what is left of the second coordinate and by what the run leaves out
  have hsplit : p - ((v.x / (65536 * G) : ℝ) : ℂ) * bearing v.z =
      ((1 / (65536 * G) : ℝ) : ℂ) *
        (v.y * I * bearing v.z - (v.reading - G * (65536 * p))) := by
    rw [Turning.reading, Turning.point]
    push_cast
    field_simp
    ring
  have hsecond : ‖(v.y * I * bearing v.z : ℂ)‖ = |(v.y : ℝ)| := by
    rw [norm_mul, norm_mul, norm_I, norm_bearing, mul_one, mul_one, norm_intCast]
  have hscale : 0 ≤ 1 / (65536 * G) := by positivity
  rw [hsplit, norm_mul, norm_real, Real.norm_of_nonneg hscale, one_div_mul_eq_div,
    div_le_div_iff₀ (by positivity) (by norm_num)]
  have htriangle := norm_sub_le (v.y * I * bearing v.z : ℂ) (v.reading - G * (65536 * p))
  rw [hsecond] at htriangle
  have hfar : 0 ≤ G * ‖p‖ := by positivity
  have hslope : (1 / 2 : ℝ) ^ 23 * v.x ≤
      (1 / 2) ^ 23 * (G * (65536 * ‖p‖ + (25 / 262144 * (65536 * ‖p‖) + 50))) := by gcongr
  norm_num at hslope hlow
  linarith

/-! ### Sines and cosines -/

/-- The vector that an angle in parts points along. -/
def along (z : ℤ) : Turning := run Turning.advance ⟨inverseGain, 0, z⟩

lemma along_within {z : ℤ} (h : |z| ≤ 1073741824) : (along z).Within 34359738368 := by
  have hz := abs_le.1 h
  have hstart : Turning.Within ⟨inverseGain, 0, z⟩ 1073741824 :=
    Turning.within_mk (by decide) (by decide) (by omega)
  have hbound : bound steps 0 1073741824 ≤ 34359738368 := by decide +kernel
  have hfits : bound steps 0 1073741824 ≤ Word.signed64.greatest := by decide +kernel
  exact (runFromChecked_eq governs_advance steps_nonneg (by decide) hstart hfits).2.mono hbound

/-- The vector has the length `2 ^ 30` and points along the angle.  What the run leaves out, the
parts that are left and what is wrong with the inverse of the gain are next to nothing, together
less than a part in ten thousand. -/
lemma norm_along_sub_le {z : ℤ} (h : |z| ≤ 1073741824) :
    ‖(along z).point - 1073741824 * bearing z‖ ≤ 102800 := by
  have hrun := norm_reading_run_sub_le turns_advance ⟨inverseGain, 0, z⟩
  have hleft : |(along z).z| ≤ 82 := abs_z_run_advance_le h
  have hstart : Turning.reading ⟨inverseGain, 0, z⟩ = (inverseGain : ℝ) * bearing z := by
    simp [Turning.reading, Turning.point]
  have hinverse : (0 : ℝ) ≤ inverseGain := by norm_num [inverseGain]
  have hpoint := norm_point_run_le turns_advance ⟨inverseGain, 0, z⟩
  rw [hstart, norm_mul, norm_bearing, norm_real, Real.norm_of_nonneg hinverse, mul_one]
    at hrun hpoint
  obtain ⟨hge, hle⟩ := gain_mul_inverseGain
  obtain ⟨hgain, hgain'⟩ := gain_between
  change ‖(along z).reading - _‖ ≤ _ at hrun
  change ‖(along z).point‖ ≤ _ at hpoint
  set v := along z
  set G := gain steps 0
  set unscaled := (inverseGain : ℝ)
  have hrun' : ‖v.reading - G * (unscaled * bearing z)‖ ≤ 102502 := by
    refine hrun.trans ?_
    linarith
  have hlength : ‖v.point‖ ≤ 1073741825 + 102502 := by
    refine hpoint.trans ?_
    linarith
  have hturned : ‖v.point - v.reading‖ ≤ 200 := by
    refine (norm_point_sub_reading_le hleft).trans ?_
    push_cast
    linarith
  have hgained : ‖((G * unscaled - 1073741824 : ℝ) : ℂ) * bearing z‖ ≤ 1 := by
    rw [norm_mul, norm_bearing, mul_one, norm_real, Real.norm_eq_abs, abs_le]
    constructor <;> linarith
  have hsplit : v.point - 1073741824 * bearing z =
      (v.point - v.reading) + (v.reading - G * (unscaled * bearing z)) +
        ((G * unscaled - 1073741824 : ℝ) : ℂ) * bearing z := by
    push_cast
    ring
  rw [hsplit]
  have htriangle := norm_add₃_le (a := v.point - v.reading)
    (b := v.reading - G * (unscaled * bearing z))
    (c := ((G * unscaled - 1073741824 : ℝ) : ℂ) * bearing z)
  linarith

/-- The sign that comes with an angle that has been brought within a right angle. -/
def sign (a : Angle) : ℤ := if a.reduced.2 then -1 else 1

lemma bearing_signed (a : Angle) :
    bearing (a.signed * 65536) = a.sign * bearing a.reduced.1 := by
  have hback : ∀ z, bearing (z - 2147483648) = -bearing z := fun z => by
    have hadd := bearing_add (z - 2147483648) 2147483648
    rw [sub_add_cancel, bearing_half] at hadd
    rw [hadd]
    ring
  have hforth : ∀ z, bearing (z + 2147483648) = -bearing z := fun z => by
    rw [bearing_add, bearing_half, mul_neg_one]
  simp only [sign, reduced]
  split
  · simp only [if_true, hback]
    push_cast
    ring
  split
  · simp only [if_true, hforth]
    push_cast
    ring
  · simp

lemma toRaw_sinCos (a : Angle) :
    a.sinCos.1.toRaw = a.sign * (((along a.reduced.1).y + 8192) / 16384) ∧
      a.sinCos.2.toRaw = a.sign * (((along a.reduced.1).x + 8192) / 16384) := by
  obtain ⟨hx, hy, -⟩ := along_within (abs_le.2 a.reduced_within)
  have hraw : ∀ n : ℤ, -34359738368 ≤ n ∧ n ≤ 34359738368 →
      (Scalar.ofRaw ((n + 8192) / 16384)).toRaw = (n + 8192) / 16384 ∧
        (Scalar.ofRaw (-((n + 8192) / 16384))).toRaw = -((n + 8192) / 16384) := fun n hn =>
    ⟨Scalar.toRaw_ofRaw_of_le (by omega) (by omega), Scalar.toRaw_ofRaw_of_le (by omega) (by omega)⟩
  have hsinCos : a.sinCos =
      if a.reduced.2 then (Scalar.ofRaw (-(((along a.reduced.1).y + 8192) / 16384)),
        Scalar.ofRaw (-(((along a.reduced.1).x + 8192) / 16384)))
      else (Scalar.ofRaw (((along a.reduced.1).y + 8192) / 16384),
        Scalar.ofRaw (((along a.reduced.1).x + 8192) / 16384)) := rfl
  rw [hsinCos, sign]
  split
  · rw [neg_one_mul, neg_one_mul]
    exact ⟨(hraw _ hy).2, (hraw _ hx).2⟩
  · rw [one_mul, one_mul]
    exact ⟨(hraw _ hy).1, (hraw _ hx).1⟩

lemma abs_round_sub_le (n : ℤ) : |(((n + 8192) / 16384 : ℤ) : ℝ) - n / 16384| ≤ 1 / 2 := by
  have hround : |(n + 8192) / 16384 * 16384 - n| ≤ 8192 := by
    rw [abs_le]
    omega
  have hround' : |(((n + 8192) / 16384 : ℤ) : ℝ) * 16384 - n| ≤ 8192 := by exact_mod_cast hround
  rw [abs_le] at hround' ⊢
  constructor <;> linarith

/-- The cosine and the sine of an angle, as a vector. -/
noncomputable def pointed (a : Angle) : ℂ := a.sinCos.2.toRaw + a.sinCos.1.toRaw * I

/-- **Where the cosine and the sine of an angle point.**  They are those of the angle up to a few
parts of a whole. -/
lemma norm_pointed_sub_le (a : Angle) : ‖a.pointed - 65536 * bearing (a.signed * 65536)‖ ≤ 8 := by
  have halong := norm_along_sub_le (abs_le.2 a.reduced_within)
  obtain ⟨hsin, hcos⟩ := a.toRaw_sinCos
  have hx := abs_round_sub_le (along a.reduced.1).x
  have hy := abs_round_sub_le (along a.reduced.1).y
  have hsign : ‖(a.sign : ℂ)‖ = 1 := by
    rw [sign]
    split <;> simp
  rw [pointed, hsin, hcos, bearing_signed]
  set z := a.reduced.1
  set x := ((along z).x + 8192) / 16384
  set y := ((along z).y + 8192) / 16384
  have hsplit : ((a.sign * x : ℤ) : ℂ) + ((a.sign * y : ℤ) : ℂ) * I -
      65536 * (a.sign * bearing z) =
      a.sign * (((x - (along z).x / 16384 : ℝ) : ℂ) + ((y - (along z).y / 16384 : ℝ) : ℂ) * I +
        (1 / 16384 : ℝ) * ((along z).point - 1073741824 * bearing z)) := by
    rw [Turning.point]
    push_cast
    ring
  rw [hsplit, norm_mul, hsign, one_mul]
  refine (norm_add₃_le).trans ?_
  rw [norm_mul, norm_mul, norm_I, norm_real, norm_real, norm_real, mul_one, Real.norm_eq_abs,
    Real.norm_eq_abs, Real.norm_of_nonneg (by norm_num)]
  linarith

/-! ### Angles and vectors -/

/-- Whole turns do not change where an angle points. -/
lemma bearing_signed_ofInt (n : ℤ) :
    bearing ((ofInt n).signed * 65536) = bearing (n * 65536) := by
  obtain ⟨k, hk⟩ : ∃ k, (ofInt n).signed = n + k * 65536 := by
    rw [signed_eq, toNat_ofInt, Int.bmod_def]
    exact ⟨((ofInt n).signed - n) / 65536, by rw [signed_eq, toNat_ofInt, Int.bmod_def]; omega⟩
  have hturns : bearing (k * 4294967296) = 1 := by
    have hpi : ((k * 4294967296 : ℤ) : ℝ) * part = k * (2 * Real.pi) := by
      rw [part]
      push_cast
      ring
    rw [bearing, hpi]
    push_cast
    rw [mul_assoc]
    exact exp_int_mul_two_pi_mul_I k
  have hsum : (n + k * 65536) * 65536 = n * 65536 + k * 4294967296 := by ring
  rw [hk, hsum, bearing_add, hturns, mul_one]

/-- The direction of a vector is rounded to an angle, and this by at most half a unit. -/
lemma norm_pointed_atan2_sub_le {x y : Scalar} (h : ¬(x.toRaw = 0 ∧ y.toRaw = 0)) :
    ‖(atan2 y x).pointed - 65536 * bearing (partsOf x.toRaw y.toRaw)‖ ≤ 12 := by
  have hpointed := norm_pointed_sub_le (atan2 y x)
  rw [atan2_eq h, bearing_signed_ofInt, ← atan2_eq h] at hpointed
  set parts := partsOf x.toRaw y.toRaw
  have hround : ‖bearing ((parts + 32768) / 65536 * 65536) - bearing parts‖ ≤
      (32768 : ℤ) * (3.15 / 2147483648) := by
    refine norm_bearing_sub_le_of_le ?_
    rw [abs_le]
    omega
  have hsplit : (atan2 y x).pointed - 65536 * bearing parts =
      ((atan2 y x).pointed - 65536 * bearing ((parts + 32768) / 65536 * 65536)) +
        65536 * (bearing ((parts + 32768) / 65536 * 65536) - bearing parts) := by ring
  rw [hsplit]
  refine (norm_add_le _ _).trans ?_
  rw [norm_mul, Complex.norm_ofNat]
  norm_num at hround ⊢
  linarith

/-- Two vectors that lie close to one bearing, as products that belong to their difference in
direction. -/
lemma norm_conj_mul_sub_le {p q : ℂ} {z : ℤ} {length far near : ℝ} (hlength : 0 ≤ length)
    (hp : ‖p - length * bearing z‖ ≤ near) (hq : ‖q - 65536 * bearing z‖ ≤ far) :
    ‖(starRingEnd ℂ) p * q - 65536 * length‖ ≤ length * far + near * (65536 + far) := by
  have hunit : (starRingEnd ℂ) (bearing z) * bearing z = 1 := by
    rw [conj_mul', norm_bearing]
    norm_num
  have hsplit : (starRingEnd ℂ) p * q - 65536 * length =
      length * ((starRingEnd ℂ) (bearing z) * (q - 65536 * bearing z)) +
        (starRingEnd ℂ) (p - length * bearing z) * q := by
    rw [map_sub, map_mul, conj_ofReal]
    linear_combination (65536 * length : ℂ) * hunit
  have hq' : ‖q‖ ≤ 65536 + far := by
    have htriangle := norm_le_norm_sub_add q (65536 * bearing z)
    rw [norm_mul, norm_bearing, Complex.norm_ofNat] at htriangle
    linarith
  have hnear : 0 ≤ near := (norm_nonneg _).trans hp
  rw [hsplit]
  refine (norm_add_le _ _).trans (add_le_add ?_ ?_)
  · rw [norm_mul, norm_mul, RCLike.norm_conj, norm_bearing, one_mul, norm_real,
      Real.norm_of_nonneg hlength]
    gcongr
  · rw [norm_mul, RCLike.norm_conj]
    gcongr

lemma cast_squares (x y : Scalar) :
    (Scalar.squares x y : ℝ) = ‖(x.toRaw + y.toRaw * I : ℂ)‖ ^ 2 := by
  have hsquares : (Scalar.squares x y : ℤ) = x.toRaw ^ 2 + y.toRaw ^ 2 := by
    rw [Scalar.squares]
    push_cast
    rw [sq_abs, sq_abs]
  rw [Complex.sq_norm, ← ofReal_intCast, ← ofReal_intCast y.toRaw, normSq_add_mul_I]
  exact_mod_cast hsquares

/-- A vector is less than one longer than its rounded length, unless that is the largest scalar. -/
lemma toRaw_hypot_cases (x y : Scalar) :
    ‖(x.toRaw + y.toRaw * I : ℂ)‖ < (x.hypot y).toRaw + 1 ∨
      (x.hypot y).toRaw = 2147483647 ∧ ‖(x.toRaw + y.toRaw * I : ℂ)‖ ≤ 4294967296 := by
  have hlimit : Root.limit = 2147483647 := rfl
  rw [Scalar.toRaw_hypot]
  by_cases hcapped : Nat.sqrt (Scalar.squares x y) ≤ Root.limit
  · rw [Nat.min_eq_left hcapped]
    refine .inl (lt_of_pow_lt_pow_left₀ 2 (by positivity) ?_)
    have hroot : (Scalar.squares x y : ℝ) < (Nat.sqrt (Scalar.squares x y) + 1) ^ 2 := by
      exact_mod_cast Nat.lt_succ_sqrt' (Scalar.squares x y)
    rw [← cast_squares]
    exact_mod_cast hroot
  · refine .inr ⟨by omega, ?_⟩
    have hx := x.toRaw_within
    have hy := y.toRaw_within
    have hx' : |x.toRaw| ≤ 2147483648 := abs_le.2 ⟨hx.1, by omega⟩
    have hy' : |y.toRaw| ≤ 2147483648 := abs_le.2 ⟨hy.1, by omega⟩
    have hx'' : |(x.toRaw : ℝ)| ≤ 2147483648 := by exact_mod_cast hx'
    have hy'' : |(y.toRaw : ℝ)| ≤ 2147483648 := by exact_mod_cast hy'
    refine (norm_add_le _ _).trans ?_
    rw [norm_mul, norm_I, mul_one, norm_intCast, norm_intCast]
    linarith

lemma one_le_norm {x y : ℤ} (h : ¬(x = 0 ∧ y = 0)) : 1 ≤ ‖(x + y * I : ℂ)‖ := by
  by_cases hx : x = 0
  · have hy : 1 ≤ |(y : ℝ)| := by exact_mod_cast Int.one_le_abs fun hy => h ⟨hx, hy⟩
    exact hy.trans (by simpa using abs_im_le_norm (x + y * I : ℂ))
  · have hx' : 1 ≤ |(x : ℝ)| := by exact_mod_cast Int.one_le_abs hx
    exact hx'.trans (by simpa using abs_re_le_norm (x + y * I : ℂ))

/-- The direction of a vector points along it, in every quadrant. -/
lemma atan2_points {x y : Scalar} (h : ¬(x.toRaw = 0 ∧ y.toRaw = 0)) :
    0 < x.toRaw * (atan2 y x).sinCos.2.toRaw + y.toRaw * (atan2 y x).sinCos.1.toRaw ∧
      |x.toRaw * (atan2 y x).sinCos.1.toRaw - y.toRaw * (atan2 y x).sinCos.2.toRaw| ≤
        64 * ((x.hypot y).toRaw + 1) := by
  obtain ⟨length, hlength, hnear⟩ := exists_norm_sub_partsOf_le x.toRaw y.toRaw
  have hproduct := norm_conj_mul_sub_le hlength hnear (norm_pointed_atan2_sub_le h)
  have hhypot := toRaw_hypot_cases x y
  set b := bearing (partsOf x.toRaw y.toRaw)
  set p : ℂ := x.toRaw + y.toRaw * I
  set s := (atan2 y x).sinCos.1.toRaw
  set c := (atan2 y x).sinCos.2.toRaw
  have hone : 1 ≤ ‖p‖ := one_le_norm h
  have hclose : |‖p‖ - length| ≤ (7 * ‖p‖ + 75) / 65536 := by
    have htriangle := abs_norm_sub_norm_le p (length * b)
    rw [norm_mul, norm_bearing, mul_one, norm_real, Real.norm_of_nonneg hlength] at htriangle
    exact htriangle.trans hnear
  obtain ⟨hshort, hlong⟩ := abs_le.1 hclose
  have hre : ((starRingEnd ℂ) p * (atan2 y x).pointed - 65536 * length).re =
      (x.toRaw * c + y.toRaw * s : ℤ) - 65536 * length := by
    simp [p, pointed, s, c]
  have him : ((starRingEnd ℂ) p * (atan2 y x).pointed - 65536 * length).im =
      (x.toRaw * s - y.toRaw * c : ℤ) := by
    simp [p, pointed, s, c]
    ring
  constructor
  · have hle := (abs_re_le_norm _).trans hproduct
    rw [hre, abs_le] at hle
    have hpos : (0 : ℝ) < (x.toRaw * c + y.toRaw * s : ℤ) := by linarith
    exact_mod_cast hpos
  · have hle := (abs_im_le_norm _).trans hproduct
    rw [him, ← Int.cast_abs] at hle
    have hbound : ((|x.toRaw * s - y.toRaw * c| : ℤ) : ℝ) ≤ 64 * ((x.hypot y).toRaw + 1) := by
      rcases hhypot with hlt | ⟨hcapped, hlarge⟩
      · -- the shortest vectors are the critical ones: their length is rounded down to one
        have hwhole : (1 : ℝ) ≤ (x.hypot y).toRaw := by
          have hpos : (0 : ℝ) < (x.hypot y).toRaw := by linarith
          exact_mod_cast hpos
        linarith
      · refine hle.trans ?_
        rw [hcapped]
        push_cast
        linarith
    exact_mod_cast hbound

/-! ### Opposite vectors -/

/-- The rule that turns a vector onto the first axis does not look at the angle. -/
lemma runFrom_flatten_shift (l : List ℤ) (i : ℕ) (v : Turning) (d : ℤ) :
    runFrom Turning.flatten l i { v with z := v.z + d } =
      { runFrom Turning.flatten l i v with z := (runFrom Turning.flatten l i v).z + d } := by
  induction l generalizing i v with
  | nil => rfl
  | cons step rest ih =>
    have hstep : Turning.flatten { v with z := v.z + d } i step =
        { v.flatten i step with z := (v.flatten i step).z + d } := by
      simp only [Turning.flatten]
      split <;> simp only [Turning.mk.injEq, true_and] <;> omega
    rw [runFrom, hstep, ih]
    rfl

/-- Opposite vectors are turned onto the same one, by angles half a turn apart. -/
lemma partsOf_neg {x : ℤ} (hx : x ≠ 0) (y : ℤ) :
    partsOf (-x) (-y) = partsOf x y + 2147483648 ∨
      partsOf (-x) (-y) = partsOf x y - 2147483648 := by
  have hshift : ∀ v : Turning, (run Turning.flatten { v with z := v.z + 2147483648 }).z =
      (run Turning.flatten v).z + 2147483648 := fun v => by
    rw [run, runFrom_flatten_shift]
    rfl
  simp only [partsOf]
  rcases lt_or_gt_of_ne hx with hneg | hpos
  · have hstart : start x y = { start (-x) (-y) with z := (start (-x) (-y)).z + 2147483648 } := by
      rw [start, start, if_pos (by omega), if_neg (by omega)]
      simp only [neg_mul, zero_add]
    exact .inr (by rw [hstart, hshift, add_sub_cancel_right])
  · have hstart : start (-x) (-y) = { start x y with z := (start x y).z + 2147483648 } := by
      rw [start, start, if_pos (by omega), if_neg (by omega)]
      simp only [neg_mul, neg_neg, zero_add]
    exact .inl (by rw [hstart, hshift])

lemma atan2_neg {x y : Scalar} (hx : x.toRaw ≠ 0) (hx' : x.toRaw ≠ -2147483648)
    (hy : y.toRaw ≠ -2147483648) : atan2 (-y) (-x) = atan2 y x + halfTurn := by
  have hnegX := Scalar.toRaw_neg_of_lt (lt_of_le_of_ne x.toRaw_within.1 hx'.symm)
  have hnegY := Scalar.toRaw_neg_of_lt (lt_of_le_of_ne y.toRaw_within.1 hy.symm)
  have hne : ¬((-x).toRaw = 0 ∧ (-y).toRaw = 0) := by
    rw [hnegX]
    omega
  rw [atan2_eq hne, atan2_eq fun h => hx h.1, hnegX, hnegY]
  set parts := partsOf x.toRaw y.toRaw
  -- forward or back, half a turn is the same angle
  rcases partsOf_neg hx y.toRaw with hparts | hparts
  · have hsum : (parts + 2147483648 + 32768) / 65536 = (parts + 32768) / 65536 + 32768 := by omega
    rw [hparts, hsum, ofInt_add]
    rfl
  · have hsum : (parts - 2147483648 + 32768) / 65536 = (parts + 32768) / 65536 + -32768 := by omega
    rw [hparts, hsum, ofInt_add]
    rfl

/-- **Directions, sines and cosines agree on every vector.**  The cosine and the sine of the
direction of a vector point along it: their product with it, coordinate by coordinate, is positive,
and crosswise it is small against the length of the vector, from the shortest vectors up to the
longest ones and in every quadrant.  The direction of the opposite vector is the opposite
direction. -/
theorem directions_point_along_vectors (x y : Scalar) :
    (¬(x.toRaw = 0 ∧ y.toRaw = 0) →
      0 < x.toRaw * (atan2 y x).sinCos.2.toRaw + y.toRaw * (atan2 y x).sinCos.1.toRaw ∧
        |x.toRaw * (atan2 y x).sinCos.1.toRaw - y.toRaw * (atan2 y x).sinCos.2.toRaw| ≤
          64 * ((x.hypot y).toRaw + 1)) ∧
    (x.toRaw ≠ 0 → x.toRaw ≠ -2147483648 → y.toRaw ≠ -2147483648 →
      atan2 (-y) (-x) = atan2 y x + halfTurn) :=
  ⟨atan2_points, atan2_neg⟩

/-- A vector that points down, a little to the left, and a short vector with its opposite. -/
theorem directions_point_along_vectors_down :
    let x := Scalar.ofRaw (-1)
    let y := Scalar.ofRaw (-2147483648)
    let a := atan2 y x
    ¬(x.toRaw = 0 ∧ y.toRaw = 0) ∧
      0 < x.toRaw * a.sinCos.2.toRaw + y.toRaw * a.sinCos.1.toRaw ∧
      |x.toRaw * a.sinCos.1.toRaw - y.toRaw * a.sinCos.2.toRaw| ≤ 64 * ((x.hypot y).toRaw + 1) ∧
      atan2 (-Scalar.ofRaw 2) (-x) = atan2 (Scalar.ofRaw 2) x + halfTurn := by
  intro x y a
  have hne : ¬(x.toRaw = 0 ∧ y.toRaw = 0) := by decide
  obtain ⟨hahead, hbeside⟩ := (directions_point_along_vectors x y).1 hne
  exact ⟨hne, hahead, hbeside,
    (directions_point_along_vectors x (Scalar.ofRaw 2)).2 (by decide) (by decide) (by decide)⟩

end Angle

end Lockstep
