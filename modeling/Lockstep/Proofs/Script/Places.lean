import Lockstep.Proofs.Fixed.Wrapping
import Lockstep.Proofs.Script.Readings
import Lockstep.Script.Recorder
/-!
# Packed places

A place is packed by its whole parts, each of which fits in half a word whatever its sign; so it
comes out of the word again rounded down, and every word is the packing of one pair of whole numbers
(`unpack_pack`, `pack_unpack`).  Scripts get such words from two linked values and can hand them to
three others, which take them for the place rounded down (`packed_places_round_trip`).
-/

namespace Lockstep

namespace Scalar

/-- The scalar rounded down to a whole number. -/
def roundedDown (a : Scalar) : Scalar := .ofWhole a.floor

lemma floor_within (a : Scalar) : -32768 ≤ a.floor ∧ a.floor < 32768 := by
  have hle : -2147483648 ≤ a.toRaw := a.raw.le_toInt
  have hlt : a.toRaw < 2147483648 := a.raw.toInt_lt
  rw [floor, one]
  omega

lemma toRaw_ofWhole_of_le {n : Int} (hle : -32768 ≤ n) (hlt : n < 32768) :
    (ofWhole n).toRaw = n * 65536 :=
  toRaw_ofRaw_of_le (by rw [one]; omega) (by rw [one]; omega)

lemma floor_ofWhole {n : Int} (hle : -32768 ≤ n) (hlt : n < 32768) : (ofWhole n).floor = n := by
  rw [floor, toRaw_ofWhole_of_le hle hlt]
  exact Int.mul_ediv_cancel n (by decide)

lemma toRaw_roundedDown (a : Scalar) : a.roundedDown.toRaw = a.floor * 65536 :=
  toRaw_ofWhole_of_le a.floor_within.1 a.floor_within.2

/-- The whole number just below. -/
lemma roundedDown_spec (a : Scalar) : 65536 ∣ a.roundedDown.toRaw ∧
    a.roundedDown.toRaw ≤ a.toRaw ∧ a.toRaw < a.roundedDown.toRaw + 65536 := by
  rw [toRaw_roundedDown, floor, one]
  omega

end Scalar

namespace Script

/-! ### Packing -/

/-- The lower half is never negative, and the upper half is the whole part as it is. -/
lemma toInt_pack (x z : Scalar) : (pack x z).toInt = x.floor * 65536 + z.floor % 65536 := by
  have hx := x.floor_within
  exact Scalar.toRaw_ofRaw_of_le (by omega) (by omega)

/-- Read as signed, the lower half of a word is the number of which it is the remainder. -/
lemma bmod_of_lower {m n : Int} (hle : -32768 ≤ n) (hlt : n < 32768) :
    (m * 65536 + n % 65536).bmod 65536 = n := by
  rw [Int.bmod_def]
  split <;> omega

theorem unpack_pack (x z : Scalar) : unpack (pack x z) = (x.roundedDown, z.roundedDown) := by
  have hupper : (x.floor * 65536 + z.floor % 65536) / 65536 = x.floor := by omega
  rw [unpack, toInt_pack, hupper, bmod_of_lower z.floor_within.1 z.floor_within.2]
  rfl

theorem pack_unpack (p : Int32) : pack (unpack p).1 (unpack p).2 = p := by
  have hle : -2147483648 ≤ p.toInt := p.le_toInt
  have hlt : p.toInt < 2147483648 := p.toInt_lt
  have hlower : -32768 ≤ p.toInt.bmod 65536 := Int.le_bmod (by decide)
  have hlower' : p.toInt.bmod 65536 < 32768 := Int.bmod_lt (by decide)
  have hupper : (unpack p).1.floor = p.toInt / 65536 := Scalar.floor_ofWhole (by omega) (by omega)
  have hhalf : (unpack p).2.floor = p.toInt.bmod 65536 := Scalar.floor_ofWhole hlower hlower'
  have hremainder : p.toInt.bmod 65536 % 65536 = p.toInt % 65536 := Int.bmod_emod
  rw [← Int32.toInt_inj, toInt_pack, hupper, hhalf, hremainder]
  exact Int.ediv_mul_add_emod p.toInt 65536

/-! ### Places that scripts get and hand on -/

namespace Machine

variable {σ : Type} {host : Host σ} {unit : UnitId} {m : Machine σ} {v : LinkedValue}
  {a b n : Int32} {place : Vector3}

/-- A linked value with its first argument stands for a place: that of a piece of the unit, or that
of some unit.  A unit that is not there counts as being at the origin. -/
inductive StandsFor (host : Host σ) (unit : UnitId) (m : Machine σ) (a : Int32) :
    LinkedValue → Vector3 → Prop
  /-- A piece of the unit. -/
  | piece {place : Vector3} :
    pieceAt host unit m.environment.program m.world a = .ok place →
      StandsFor host unit m a .pieceXZ place
  /-- Some unit. -/
  | unit {view : UnitView} :
    host.unit? ⟨a.toUInt32⟩ m.world = some view → StandsFor host unit m a .unitXZ view.position
  /-- No unit. -/
  | nowhere : host.unit? ⟨a.toUInt32⟩ m.world = none → StandsFor host unit m a .unitXZ 0

lemma run_getValue_of_standsFor (h : StandsFor host unit m a v place) (b : Int32) :
    (getValue host unit v.number a b).run.run m = (.ok (pack place.x place.z), m) := by
  rw [run_getValue]
  cases h with
  | piece hplace => simp only [readValue, hplace, Except.map]
  | unit hview => simp only [readValue, ofUnit, hview, Option.map_some, Option.getD_some]
  | nowhere hnone =>
    simp only [readValue, ofUnit, hnone, Option.map_none, Option.getD_none]
    rfl

/-- Whoever gets an answer gets the packing of the place that the value stands for. -/
lemma exists_standsFor (hv : v = .pieceXZ ∨ v = .unitXZ)
    (h : ((getValue host unit v.number a b).run.run m).1 = .ok n) :
    ∃ place, StandsFor host unit m a v place ∧ n = pack place.x place.z := by
  have of_standsFor {place} (hplace : StandsFor host unit m a v place) :
      ∃ place, StandsFor host unit m a v place ∧ n = pack place.x place.z := by
    rw [run_getValue_of_standsFor hplace] at h
    exact ⟨place, hplace, (Except.ok.inj h).symm⟩
  rcases hv with rfl | rfl
  · cases hplace : pieceAt host unit m.environment.program m.world a with
    | ok place => exact of_standsFor (.piece hplace)
    | error e =>
      rw [run_getValue] at h
      simp only [readValue, hplace, Except.map] at h
      cases h
  · cases hview : host.unit? ⟨a.toUInt32⟩ m.world with
    | some view => exact of_standsFor (.unit hview)
    | none => exact of_standsFor (.nowhere hview)

/-- **Packed places come out of their words rounded down.**  The two halves do not disturb each
other, whatever their signs, and every word is packed again from what comes out of it.  A script
that gets a packed place, of a piece or of a unit, can ask with it for the distance from the origin,
for the direction and for the height of the ground, now or later, and is answered for the place
rounded down. -/
theorem packed_places_round_trip :
    (∀ x z : Scalar, unpack (pack x z) = (x.roundedDown, z.roundedDown)) ∧
    (∀ a : Scalar, 65536 ∣ a.roundedDown.toRaw ∧ a.roundedDown.toRaw ≤ a.toRaw ∧
      a.toRaw < a.roundedDown.toRaw + 65536) ∧
    (∀ p : Int32, pack (unpack p).1 (unpack p).2 = p) ∧
    ∀ {σ : Type} (host : Host σ) (unit : UnitId) (m : Machine σ) (v : LinkedValue) (a b n : Int32),
      v = .pieceXZ ∨ v = .unitXZ → ((getValue host unit v.number a b).run.run m).1 = .ok n →
        ∃ place, StandsFor host unit m a v place ∧
          unpack n = (place.x.roundedDown, place.z.roundedDown) ∧
          ∀ (unit' : UnitId) (m' : Machine σ) (c : Int32),
            (getValue host unit' LinkedValue.xzHypot.number n c).run.run m' =
                (.ok (Scalar.hypot place.x.roundedDown place.z.roundedDown).raw, m') ∧
              (getValue host unit' LinkedValue.groundHeight.number n c).run.run m' =
                (.ok (host.groundHeight place.x.roundedDown place.z.roundedDown m'.world).raw, m') ∧
              ∀ view, host.unit? unit' m'.world = some view →
                (getValue host unit' LinkedValue.xzAtan.number n c).run.run m' =
                  (.ok (valueOfAngle (Angle.atan2 place.x.roundedDown place.z.roundedDown -
                    (view.rotation - Angle.halfTurn))), m') := by
  refine ⟨unpack_pack, Scalar.roundedDown_spec, pack_unpack, fun host unit m v a b n hv h => ?_⟩
  obtain ⟨place, hplace, rfl⟩ := exists_standsFor hv h
  refine ⟨place, hplace, unpack_pack .., fun unit' m' c => ⟨?_, ?_, fun view hview => ?_⟩⟩
  · rw [run_getValue]
    simp only [readValue, unpack_pack]
  · rw [run_getValue]
    simp only [readValue, unpack_pack]
  · rw [run_getValue]
    simp only [readValue, unpack_pack, ownUnit, hview, Except.map]

/-- A machine that sees a unit at a place that is not whole, to the west and to the south. -/
def Sample.lookout : Machine Recorder where
  world := (Recorder.new 0).putUnit ⟨1⟩
    { UnitView.plain ⟨0⟩ with position := ⟨.ofRaw (-163840), 0, .ofRaw 245760⟩ }
  environment := .new ⟨#[], [], [], 0⟩
  thread := default

/-- Minus two and a half is rounded down to minus three, and three and three quarters to three. -/
theorem packed_places_round_trip_lookout :
    unpack (-196605) = (.ofWhole (-3), .ofWhole 3) ∧ pack (.ofWhole (-3)) (.ofWhole 3) = -196605 ∧
      ((getValue Recorder.host ⟨1⟩ LinkedValue.unitXZ.number 1 0).run.run Sample.lookout).1 =
        .ok (-196605) ∧
      (getValue Recorder.host ⟨1⟩ LinkedValue.xzHypot.number (-196605) 0).run.run Sample.lookout =
        (.ok (Scalar.hypot (.ofWhole (-3)) (.ofWhole 3)).raw, Sample.lookout) ∧
      (getValue Recorder.host ⟨1⟩ LinkedValue.groundHeight.number (-196605) 0).run.run
        Sample.lookout = (.ok 0, Sample.lookout) ∧
      ∃ heading, (getValue Recorder.host ⟨1⟩ LinkedValue.xzAtan.number (-196605) 0).run.run
        Sample.lookout = (.ok heading, Sample.lookout) := by
  obtain ⟨-, -, hpack, hread⟩ := packed_places_round_trip
  have hget : ((getValue Recorder.host ⟨1⟩ LinkedValue.unitXZ.number 1 0).run.run
      Sample.lookout).1 = .ok (-196605) := by
    rw [run_getValue]
    rfl
  have hunpack : unpack (-196605) = (.ofWhole (-3), .ofWhole 3) := by decide +kernel
  obtain ⟨place, -, hplace, hagain⟩ := hread Recorder.host ⟨1⟩ Sample.lookout .unitXZ 1 0 (-196605)
    (.inr rfl) hget
  obtain ⟨hhypot, hheight, hatan⟩ := hagain ⟨1⟩ Sample.lookout 0
  obtain ⟨hx, hz⟩ := Prod.mk.inj (hplace.symm.trans hunpack)
  have hpacked := hpack (-196605)
  rw [hunpack] at hpacked
  rw [hx, hz] at hhypot
  exact ⟨hunpack, hpacked, hget, hhypot, hheight, _, hatan _ rfl⟩

end Machine

end Script

end Lockstep
