import Mathlib.Tactic.Ring
import Lockstep.Fixed.Vector
import Lockstep.Overflow
/-!
# Arithmetic in words

Scalars and angles are computed through integers of any size, and cut back to words at the end.  A
machine has words for the intermediate results too.  The checked form of a computation carries out
each operation in the word that it is carried out in and stops if a result does not fit; it is the
same computation, for none ever does.

Two computations need an argument of their own.  Turning a vector through the sequence of angles
makes it longer in each step, but by less and less (`Rotation.bound`); and the digits of a root are
found within the word that holds the number, since each halves what has been found before
(`Root.digitsChecked_eq`).
-/

namespace Lockstep

/-- A word of a machine, by the numbers that it can hold. -/
structure Word where
  /-- The smallest number. -/
  least : Int
  /-- The greatest number. -/
  greatest : Int

/-- What a checked computation stops at. -/
inductive Trap where
  /-- A result that does not fit its word. -/
  | overflow (cause : Overflow)
  /-- A divisor that is zero, or that is negative where it must not be. -/
  | divisor
  /-- A range without numbers. -/
  | range
  /-- A place that is not in the list. -/
  | place
deriving DecidableEq

namespace Word

/-- The signed words of 32 digits. -/
def signed32 : Word := ⟨-2147483648, 2147483647⟩

/-- The unsigned words of 32 digits. -/
def unsigned32 : Word := ⟨0, 4294967295⟩

/-- The signed words of 64 digits. -/
def signed64 : Word := ⟨-9223372036854775808, 9223372036854775807⟩

/-- The unsigned words of 64 digits. -/
def unsigned64 : Word := ⟨0, 18446744073709551615⟩

/-- A number is one that the word can hold. -/
def Holds (t : Word) (n : Int) : Prop := t.least ≤ n ∧ n ≤ t.greatest

instance (t : Word) (n : Int) : Decidable (t.Holds n) := inferInstanceAs (Decidable (_ ∧ _))

/-- A result that has to fit the word. -/
def fit (t : Word) (cause : Overflow) (n : Int) : Except Trap Int :=
  if t.Holds n then .ok n else .error (.overflow cause)

/-- A sum. -/
def add (t : Word) (a b : Int) : Except Trap Int := t.fit .add (a + b)

/-- A difference. -/
def sub (t : Word) (a b : Int) : Except Trap Int := t.fit .subtract (a - b)

/-- A product. -/
def mul (t : Word) (a b : Int) : Except Trap Int := t.fit .multiply (a * b)

/-- An opposite. -/
def neg (t : Word) (a : Int) : Except Trap Int := t.fit .negate (-a)

variable {t : Word} {a b : Int}

lemma fit_eq {n : Int} (cause : Overflow) (h : t.Holds n) : t.fit cause n = .ok n := if_pos h

lemma add_eq (h : t.Holds (a + b)) : t.add a b = .ok (a + b) := fit_eq _ h

lemma sub_eq (h : t.Holds (a - b)) : t.sub a b = .ok (a - b) := fit_eq _ h

lemma mul_eq (h : t.Holds (a * b)) : t.mul a b = .ok (a * b) := fit_eq _ h

lemma neg_eq (h : t.Holds (-a)) : t.neg a = .ok (-a) := fit_eq _ h

end Word

/-- A divisor.  By a positive one the quotient is not larger than what is divided. -/
def positive (n : Int) : Except Trap Int := if 0 < n then .ok n else .error .divisor

lemma positive_eq {n : Int} (h : 0 < n) : positive n = .ok n := if_pos h

/-- A number moved into a range, which must not be the wrong way around. -/
def within (least greatest n : Int) : Except Trap Int :=
  if least ≤ greatest then .ok (max least (min n greatest)) else .error .range

lemma within_eq {least greatest : Int} (h : least ≤ greatest) (n : Int) :
    within least greatest n = .ok (max least (min n greatest)) := if_pos h

lemma ok_bind {α β : Type} (a : α) (f : α → Except Trap β) :
    ((Except.ok a : Except Trap α) >>= f) = f a := rfl

/-- A computation on all elements of a list that comes through on each of them. -/
lemma mapM_eq_ok {α β : Type} {f : α → Except Trap β} {g : α → β} {l : List α}
    (h : ∀ a ∈ l, f a = .ok (g a)) : l.mapM f = .ok (l.map g) := by
  induction l with
  | nil => rfl
  | cons a rest ih =>
    rw [List.mapM_cons, h a List.mem_cons_self, ok_bind,
      ih fun b hb => h b (List.mem_cons_of_mem a hb)]
    rfl

/-! ### Turning a vector -/

namespace Rotation

/-- `Turning.flatten`, checked.  The angle goes around its word. -/
def flattenChecked (v : Turning) (i : Nat) (step : Int) : Except Trap Turning :=
  if 0 < v.y then do
    let x ← Word.signed64.add v.x (v.y >>> i)
    let y ← Word.signed64.sub v.y (v.x >>> i)
    return ⟨x, y, v.z + step⟩
  else do
    let x ← Word.signed64.sub v.x (v.y >>> i)
    let y ← Word.signed64.add v.y (v.x >>> i)
    return ⟨x, y, v.z - step⟩

/-- `Turning.advance`, checked. -/
def advanceChecked (v : Turning) (i : Nat) (step : Int) : Except Trap Turning :=
  if 0 ≤ v.z then do
    let x ← Word.signed64.sub v.x (v.y >>> i)
    let y ← Word.signed64.add v.y (v.x >>> i)
    let z ← Word.signed64.sub v.z step
    return ⟨x, y, z⟩
  else do
    let x ← Word.signed64.add v.x (v.y >>> i)
    let y ← Word.signed64.sub v.y (v.x >>> i)
    let z ← Word.signed64.add v.z step
    return ⟨x, y, z⟩

/-- `runFrom`, with a checked rule. -/
def runFromChecked (rule : Turning → Nat → Int → Except Trap Turning) :
    List Int → Nat → Turning → Except Trap Turning
  | [], _, v => .ok v
  | step :: rest, i, v => do runFromChecked rule rest (i + 1) (← rule v i step)

/-- All components of a vector are at most so large. -/
structure Turning.Within (v : Turning) (M : Int) : Prop where
  x : -M ≤ v.x ∧ v.x ≤ M
  y : -M ≤ v.y ∧ v.y ≤ M
  z : -M ≤ v.z ∧ v.z ≤ M

lemma Turning.within_mk {x y z M : Int} (hx : -M ≤ x ∧ x ≤ M) (hy : -M ≤ y ∧ y ≤ M)
    (hz : -M ≤ z ∧ z ≤ M) : Turning.Within ⟨x, y, z⟩ M := ⟨hx, hy, hz⟩

lemma Turning.Within.mono {v : Turning} {M M' : Int} (h : v.Within M) (hM : M ≤ M') :
    v.Within M' := by
  obtain ⟨hx, hy, hz⟩ := h
  exact ⟨by omega, by omega, by omega⟩

/-- How large the components can be after the `i`th step if they were at most `M` before it. -/
def grown (M : Int) (i : Nat) (step : Int) : Int := M + M / 2 ^ i + 1 + step

/-- How large the components can be after some steps, numbered from `i`. -/
def bound : List Int → Nat → Int → Int
  | [], _, M => M
  | step :: rest, i, M => bound rest (i + 1) (grown M i step)

variable {v : Turning} {M n step : Int} {i : Nat}

/-- A shift makes a number smaller, but for the rounding of negative numbers. -/
lemma shiftRight_within (h : -M ≤ n ∧ n ≤ M) (i : Nat) :
    -(M / 2 ^ i) - 1 ≤ n >>> i ∧ n >>> i ≤ M / 2 ^ i := by
  have hpos : (0 : Int) < 2 ^ i := Int.pow_pos (by decide)
  rw [Int.shiftRight_eq_div_pow, Int.natCast_pow, Nat.cast_ofNat]
  constructor
  · refine (Int.le_ediv_iff_mul_le hpos).2 ?_
    have hM := Int.lt_ediv_add_one_mul_self M hpos
    calc (-(M / 2 ^ i) - 1) * 2 ^ i = -((M / 2 ^ i + 1) * 2 ^ i) := by ring
      _ ≤ -M := by omega
      _ ≤ n := h.1
  · exact Int.ediv_le_ediv hpos h.2

lemma le_grown (hM : 0 ≤ M) (hstep : 0 ≤ step) (i : Nat) : M ≤ grown M i step := by
  have hquotient : 0 ≤ M / 2 ^ i := Int.ediv_nonneg hM (Int.pow_nonneg (by decide))
  simp only [grown]
  omega

lemma le_bound {l : List Int} (hM : 0 ≤ M) (hl : ∀ step ∈ l, 0 ≤ step) (i : Nat) :
    M ≤ bound l i M := by
  induction l generalizing M i with
  | nil => exact Int.le_refl M
  | cons step rest ih =>
    have hgrown := le_grown hM (hl step List.mem_cons_self) i
    have hrest := ih (Int.le_trans hM hgrown) (fun s hs => hl s (List.mem_cons_of_mem step hs))
      (i + 1)
    exact Int.le_trans hgrown hrest

/-- A checked rule is a rule, and a vector does not grow beyond what has been said. -/
def Governs (checked : Turning → Nat → Int → Except Trap Turning)
    (rule : Turning → Nat → Int → Turning) : Prop :=
  ∀ {v : Turning} {M : Int} {i : Nat} {step : Int}, v.Within M → 0 ≤ M → 0 ≤ step →
    grown M i step ≤ Word.signed64.greatest →
    checked v i step = .ok (rule v i step) ∧ (rule v i step).Within (grown M i step)

lemma governs_flatten : Governs flattenChecked Turning.flatten := by
  intro v M i step hv hM hstep hfits
  have hx := shiftRight_within hv.x i
  have hy := shiftRight_within hv.y i
  have hz := hv.z
  have hvx := hv.x
  have hvy := hv.y
  have hsigned : Word.signed64.least = -Word.signed64.greatest - 1 := rfl
  simp only [grown] at hfits ⊢
  generalize M / 2 ^ i = q at hx hy hfits ⊢
  rw [flattenChecked, Turning.flatten]
  split
  · rw [Word.add_eq ⟨by omega, by omega⟩, ok_bind, Word.sub_eq ⟨by omega, by omega⟩, ok_bind]
    exact ⟨rfl, Turning.within_mk (by omega) (by omega) (by omega)⟩
  · rw [Word.sub_eq ⟨by omega, by omega⟩, ok_bind, Word.add_eq ⟨by omega, by omega⟩, ok_bind]
    exact ⟨rfl, Turning.within_mk (by omega) (by omega) (by omega)⟩

lemma governs_advance : Governs advanceChecked Turning.advance := by
  intro v M i step hv hM hstep hfits
  have hx := shiftRight_within hv.x i
  have hy := shiftRight_within hv.y i
  have hz := hv.z
  have hvx := hv.x
  have hvy := hv.y
  have hsigned : Word.signed64.least = -Word.signed64.greatest - 1 := rfl
  simp only [grown] at hfits ⊢
  generalize M / 2 ^ i = q at hx hy hfits ⊢
  rw [advanceChecked, Turning.advance]
  split
  · rw [Word.sub_eq ⟨by omega, by omega⟩, ok_bind, Word.add_eq ⟨by omega, by omega⟩, ok_bind,
      Word.sub_eq ⟨by omega, by omega⟩, ok_bind]
    exact ⟨rfl, Turning.within_mk (by omega) (by omega) (by omega)⟩
  · rw [Word.add_eq ⟨by omega, by omega⟩, ok_bind, Word.sub_eq ⟨by omega, by omega⟩, ok_bind,
      Word.add_eq ⟨by omega, by omega⟩, ok_bind]
    exact ⟨rfl, Turning.within_mk (by omega) (by omega) (by omega)⟩

/-- The induction is on the steps; what they can still make of the vector fits a word. -/
lemma runFromChecked_eq {checked : Turning → Nat → Int → Except Trap Turning}
    {rule : Turning → Nat → Int → Turning} (hrule : Governs checked rule) {l : List Int}
    (hl : ∀ step ∈ l, 0 ≤ step) (hM : 0 ≤ M) (hv : v.Within M)
    (hfits : bound l i M ≤ Word.signed64.greatest) :
    runFromChecked checked l i v = .ok (runFrom rule l i v) ∧
      (runFrom rule l i v).Within (bound l i M) := by
  induction l generalizing v M i with
  | nil => exact ⟨rfl, hv⟩
  | cons step rest ih =>
    have hstep := hl step List.mem_cons_self
    have hrest : ∀ s ∈ rest, 0 ≤ s := fun s hs => hl s (List.mem_cons_of_mem step hs)
    have hgrown := Int.le_trans hM (le_grown hM hstep i)
    have hnext : grown M i step ≤ Word.signed64.greatest :=
      Int.le_trans (le_bound hgrown hrest (i + 1)) hfits
    obtain ⟨heq, hwithin⟩ := hrule hv hM hstep hnext
    rw [runFromChecked, heq, ok_bind, runFrom, bound]
    exact ih hrest hgrown hwithin hfits

lemma steps_nonneg : ∀ step ∈ steps, 0 ≤ step := by decide

/-- All the steps together, from a vector as large as a scalar with all its spare digits. -/
lemma runChecked_eq {checked : Turning → Nat → Int → Except Trap Turning}
    {rule : Turning → Nat → Int → Turning} (hrule : Governs checked rule)
    (hv : v.Within 140737488355328) :
    runFromChecked checked steps 0 v = .ok (run rule v) ∧
      (run rule v).Within 1125899906842624 := by
  have hbound : bound steps 0 140737488355328 ≤ 1125899906842624 := by decide
  have hfits : bound steps 0 140737488355328 ≤ Word.signed64.greatest := by decide
  obtain ⟨heq, hwithin⟩ := runFromChecked_eq hrule steps_nonneg (by decide) hv hfits
  exact ⟨heq, hwithin.mono hbound⟩

end Rotation

lemma Scalar.toRaw_within (a : Scalar) : -2147483648 ≤ a.toRaw ∧ a.toRaw ≤ 2147483647 := by
  have hle := a.raw.le_toInt
  have hlt := a.raw.toInt_lt
  rw [Scalar.toRaw]
  omega

namespace Angle

open Rotation

/-- A vector turned onto the right half-plane. -/
def rightward (v : Turning) : Except Trap Turning :=
  if v.x < 0 then do
    let x ← Word.signed64.neg v.x
    let y ← Word.signed64.neg v.y
    return ⟨x, y, 2147483648⟩
  else .ok v

/-- `atan2`, checked. -/
def atan2Checked (y x : Scalar) : Except Trap Angle :=
  if x.toRaw = 0 ∧ y.toRaw = 0 then .ok 0
  else do
    let x' := x.toRaw * 65536
    let y' := y.toRaw * 65536
    let start ← rightward ⟨x', y', 0⟩
    let v ← runFromChecked flattenChecked steps 0 start
    return ofInt ((v.z + 32768) / 65536)

lemma atan2Checked_eq (y x : Scalar) : atan2Checked y x = .ok (atan2 y x) := by
  have hx := x.toRaw_within
  have hy := y.toRaw_within
  rw [atan2Checked, atan2]
  split
  · rfl
  simp only [rightward]
  split
  · have hneg : Word.signed64.Holds (-(x.toRaw * 65536)) ∧
        Word.signed64.Holds (-(y.toRaw * 65536)) := by
      simp only [Word.Holds, Word.signed64]
      omega
    rw [Word.neg_eq hneg.1, ok_bind, Word.neg_eq hneg.2, ok_bind]
    have hstart : Turning.Within ⟨-(x.toRaw * 65536), -(y.toRaw * 65536), 2147483648⟩
        140737488355328 := Turning.within_mk (by omega) (by omega) (by decide)
    have hrun := (runChecked_eq governs_flatten hstart).1
    simp only [pure, Except.pure, ok_bind, hrun]
  · have hstart : Turning.Within ⟨x.toRaw * 65536, y.toRaw * 65536, 0⟩ 140737488355328 :=
      Turning.within_mk (by omega) (by omega) (by decide)
    have hrun := (runChecked_eq governs_flatten hstart).1
    simp only [pure, Except.pure, ok_bind, hrun]

lemma signed_within (a : Angle) : -32768 ≤ a.signed ∧ a.signed ≤ 32767 := by
  have hle := a.units.toInt16.le_toInt
  have hlt := a.units.toInt16.toInt_lt
  rw [signed]
  omega

/-- `reduced`, checked. -/
def reducedChecked (a : Angle) : Except Trap (Int × Bool) :=
  let z := a.signed * 65536
  if 1073741824 < z then (Word.signed64.sub z 2147483648).map (·, true)
  else if z < -1073741824 then (Word.signed64.add z 2147483648).map (·, true)
  else .ok (z, false)

lemma reducedChecked_eq (a : Angle) : a.reducedChecked = .ok a.reduced := by
  have ha := a.signed_within
  simp only [reducedChecked, reduced]
  split
  · rw [Word.sub_eq (by simp only [Word.Holds, Word.signed64]; omega)]
    rfl
  split
  · rw [Word.add_eq (by simp only [Word.Holds, Word.signed64]; omega)]
    rfl
  · rfl

lemma reduced_within (a : Angle) : -1073741824 ≤ a.reduced.1 ∧ a.reduced.1 ≤ 1073741824 := by
  have ha := a.signed_within
  simp only [reduced]
  split
  · simp only
    omega
  split
  · simp only
    omega
  · simp only
    omega

/-- `sinCos`, checked. -/
def sinCosChecked (a : Angle) : Except Trap (Scalar × Scalar) := do
  let (z, flipped) ← a.reducedChecked
  let v ← runFromChecked advanceChecked steps 0 ⟨inverseGain, 0, z⟩
  let y ← Word.signed64.add v.y 8192
  let x ← Word.signed64.add v.x 8192
  let sin := y / 16384
  let cos := x / 16384
  if flipped then do
    let sin ← Word.signed64.neg sin
    let cos ← Word.signed64.neg cos
    return (Scalar.ofRaw sin, Scalar.ofRaw cos)
  else return (Scalar.ofRaw sin, Scalar.ofRaw cos)

lemma sinCosChecked_eq (a : Angle) : a.sinCosChecked = .ok a.sinCos := by
  have hz := a.reduced_within
  rw [sinCosChecked, a.reducedChecked_eq, ok_bind, sinCos]
  generalize a.reduced = p at hz ⊢
  obtain ⟨z, flipped⟩ := p
  simp only at hz ⊢
  have hstart : Turning.Within ⟨inverseGain, 0, z⟩ 140737488355328 :=
    Turning.within_mk (by decide) (by decide) (by omega)
  obtain ⟨hrun, hwithin⟩ := runChecked_eq governs_advance hstart
  rw [hrun, ok_bind]
  generalize run Turning.advance ⟨inverseGain, 0, z⟩ = v at hwithin ⊢
  obtain ⟨hx, hy, -⟩ := hwithin
  have holds : ∀ n : Int, -1125899906850816 ≤ n ∧ n ≤ 1125899906850816 →
      Word.signed64.Holds n := fun n hn => by
    simp only [Word.Holds, Word.signed64]
    omega
  rw [Word.add_eq (holds _ (by omega)), ok_bind, Word.add_eq (holds _ (by omega)), ok_bind]
  cases flipped with
  | false => rfl
  | true =>
    simp only [if_true]
    rw [Word.neg_eq (holds _ (by omega)), ok_bind, Word.neg_eq (holds _ (by omega)), ok_bind]
    rfl

end Angle

/-! ### Roots -/

namespace Root

/-- `digits`, checked. -/
def digitsChecked : (count : Nat) → (rest root : Int) → Except Trap Int
  | 0, _, root => .ok root
  | count + 1, rest, root => do
    let bit : Int := 4 ^ count
    let next ← Word.unsigned64.add root bit
    if next ≤ rest then do
      let rest ← Word.unsigned64.sub rest next
      let root ← Word.unsigned64.add (root / 2) bit
      digitsChecked count rest root
    else digitsChecked count rest (root / 2)

/-- Twice the root found so far is never more than half of the largest word and one; so the next
digit can still be added to it.  The induction is on the digits. -/
theorem digitsChecked_eq {count : Nat} (rest root : Nat) (hcount : count ≤ 32)
    (hrest : rest ≤ 18446744073709551615) (hroot : root ≤ 9223372036854775808) :
    digitsChecked count rest root = .ok (digits count rest root : Int) := by
  induction count generalizing rest root with
  | zero => rfl
  | succ count ih =>
    have hcount' : count ≤ 31 := by omega
    have hbit : Nat.pow 4 count ≤ 4611686018427387904 :=
      Nat.pow_le_pow_right (by decide : 0 < 4) hcount'
    have hcast : ((4 : Int) ^ count) = (Nat.pow 4 count : Nat) := by
      rw [Nat.pow_eq, Int.natCast_pow]
      rfl
    simp only [digitsChecked, digits, hcast]
    generalize Nat.pow 4 count = bit at hbit ⊢
    have holds : ∀ n : Int, 0 ≤ n → n ≤ 18446744073709551615 → Word.unsigned64.Holds n :=
      fun n hle hge => ⟨hle, hge⟩
    rw [Word.add_eq (holds _ (by omega) (by omega)), ok_bind]
    by_cases hle : root + bit ≤ rest
    · rw [if_pos hle, if_pos (by omega), Word.sub_eq (holds _ (by omega) (by omega)), ok_bind,
        Word.add_eq (holds _ (by omega) (by omega)), ok_bind]
      have heq := ih (rest - (root + bit)) (root / 2 + bit) (by omega) (by omega) (by omega)
      rw [← heq]
      congr 1
      · omega
    · rw [if_neg hle, if_neg (by omega)]
      exact ih rest (root / 2) (by omega) hrest (by omega)

end Root

namespace Scalar

/-- `hypot`, checked. -/
def hypotChecked (a b : Scalar) : Except Trap Scalar := do
  let a ← Word.signed64.mul a.toRaw a.toRaw
  let b ← Word.signed64.mul b.toRaw b.toRaw
  let sum ← Word.unsigned64.add a b
  let root ← Root.digitsChecked 32 sum 0
  return ofRaw (min root Root.limit)

/-- The square of a scalar is at most half of what a signed word can hold. -/
lemma square_within (a : Scalar) : a.toRaw * a.toRaw = (a.toRaw.natAbs * a.toRaw.natAbs : Nat) ∧
    a.toRaw.natAbs * a.toRaw.natAbs ≤ 4611686018427387904 := by
  have ha := a.toRaw_within
  have hnat : a.toRaw.natAbs ≤ 2147483648 := by omega
  exact ⟨Int.natAbs_mul_self.symm, Nat.mul_le_mul hnat hnat⟩

lemma hypotChecked_eq (a b : Scalar) : hypotChecked a b = .ok (hypot a b) := by
  obtain ⟨haeq, hale⟩ := a.square_within
  obtain ⟨hbeq, hble⟩ := b.square_within
  simp only [hypotChecked, hypot, Root.floor]
  generalize a.toRaw.natAbs * a.toRaw.natAbs = m at haeq hale ⊢
  generalize b.toRaw.natAbs * b.toRaw.natAbs = n at hbeq hble ⊢
  have hsigned : ∀ k : Nat, k ≤ 4611686018427387904 → Word.signed64.Holds k := fun k hk => by
    simp only [Word.Holds, Word.signed64]
    omega
  have hunsigned : Word.unsigned64.Holds ((m : Int) + n) := by
    simp only [Word.Holds, Word.unsigned64]
    omega
  have hroot : Root.digitsChecked 32 ((m : Int) + n) 0 = .ok (Root.digits 32 (m + n) 0 : Int) :=
    Root.digitsChecked_eq (m + n) 0 (by decide) (by omega) (by decide)
  rw [Word.mul_eq (haeq ▸ hsigned m hale), ok_bind, Word.mul_eq (hbeq ▸ hsigned n hble), ok_bind,
    haeq, hbeq, Word.add_eq hunsigned, ok_bind, hroot, ok_bind]
  rfl

/-- The product, checked: it is formed in a word of twice the size. -/
def mulChecked (a b : Scalar) : Except Trap Scalar := do
  let product ← Word.signed64.mul a.toRaw b.toRaw
  return ofRaw (product / one)

lemma mulChecked_eq (a b : Scalar) : mulChecked a b = .ok (a * b) := by
  have ha := a.toRaw_within
  have hb := b.toRaw_within
  have hsize : (a.toRaw * b.toRaw).natAbs ≤ 4611686018427387904 := by
    rw [Int.natAbs_mul]
    have ha' : a.toRaw.natAbs ≤ 2147483648 := by omega
    have hb' : b.toRaw.natAbs ≤ 2147483648 := by omega
    exact Nat.mul_le_mul ha' hb'
  have hholds : Word.signed64.Holds (a.toRaw * b.toRaw) := by
    simp only [Word.Holds, Word.signed64]
    omega
  rw [mulChecked, Word.mul_eq hholds, ok_bind]
  rfl

/-- `ofRatio`, checked, for a denominator that is known to be positive. -/
def ofRatioChecked (num den : Int) : Except Trap Scalar := do
  let shifted ← Word.signed64.mul num one
  let divisor ← positive den
  return ofRaw (shifted.tdiv divisor)

lemma ofRatioChecked_eq (a : Scalar) {den : Int} (hden : 0 < den) :
    ofRatioChecked a.toRaw den = .ok (ofRatio a.toRaw den) := by
  have ha := a.toRaw_within
  have hholds : Word.signed64.Holds (a.toRaw * one) := by
    simp only [Word.Holds, Word.signed64, one]
    omega
  have hne : den ≠ 0 := by omega
  rw [ofRatioChecked, Word.mul_eq hholds, ok_bind, positive_eq hden, ok_bind, ofRatio, if_neg hne]
  rfl

end Scalar

/-! ### Vectors -/

namespace Vector3

open Scalar (mulChecked mulChecked_eq)

/-- `rotateX`, checked. -/
def rotateXChecked (v : Vector3) (a : Angle) : Except Trap Vector3 := do
  let (sin, cos) ← a.sinCosChecked
  let yc ← mulChecked v.y cos
  let zs ← mulChecked v.z sin
  let ys ← mulChecked v.y sin
  let zc ← mulChecked v.z cos
  return ⟨v.x, yc - zs, ys + zc⟩

/-- `rotateY`, checked. -/
def rotateYChecked (v : Vector3) (a : Angle) : Except Trap Vector3 := do
  let (sin, cos) ← a.sinCosChecked
  let xc ← mulChecked v.x cos
  let zs ← mulChecked v.z sin
  let zc ← mulChecked v.z cos
  let xs ← mulChecked v.x sin
  return ⟨xc + zs, v.y, zc - xs⟩

/-- `rotateZ`, checked. -/
def rotateZChecked (v : Vector3) (a : Angle) : Except Trap Vector3 := do
  let (sin, cos) ← a.sinCosChecked
  let xc ← mulChecked v.x cos
  let ys ← mulChecked v.y sin
  let xs ← mulChecked v.x sin
  let yc ← mulChecked v.y cos
  return ⟨xc - ys, xs + yc, v.z⟩

lemma rotateXChecked_eq (v : Vector3) (a : Angle) :
    v.rotateXChecked a = .ok (v.rotateX a) := by
  simp only [rotateXChecked, rotateX, a.sinCosChecked_eq, mulChecked_eq, ok_bind]
  rfl

lemma rotateYChecked_eq (v : Vector3) (a : Angle) :
    v.rotateYChecked a = .ok (v.rotateY a) := by
  simp only [rotateYChecked, rotateY, a.sinCosChecked_eq, mulChecked_eq, ok_bind]
  rfl

lemma rotateZChecked_eq (v : Vector3) (a : Angle) :
    v.rotateZChecked a = .ok (v.rotateZ a) := by
  simp only [rotateZChecked, rotateZ, a.sinCosChecked_eq, mulChecked_eq, ok_bind]
  rfl

end Vector3

end Lockstep
