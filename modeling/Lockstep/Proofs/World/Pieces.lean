import Lockstep.Proofs.Fixed.Checked
import Lockstep.Proofs.Piece.Slots
import Lockstep.Proofs.World.Placement
import Lockstep.World.Scene
/-!
# Pieces within bounds

The speeds of a piece that turns are integers here.  Whoever sets a piece going gives speeds that
are words, and none of the turns makes another number of them (`Piece.Bounded.step`).  So nothing
overflows when pieces move on by a tick, nor when the place of a piece is carried up through its
parents.
-/

namespace Lockstep

open Overflow (FitsSigned)

namespace Turn

/-- The speeds of a turn are words.  A turn to an angle has a positive speed, and a spin does not
get slower by a negative amount. -/
def Bounded : Turn → Prop
  | toward _ speed => 0 < speed ∧ FitsSigned speed
  | spin speed targetSpeed acceleration =>
    FitsSigned speed ∧ FitsSigned targetSpeed ∧ FitsSigned acceleration ∧ 0 ≤ acceleration
  | stopping speed deceleration => FitsSigned speed ∧ FitsSigned deceleration ∧ 0 ≤ deceleration

lemma Bounded.spinSpeed {t : Turn} (h : t.Bounded) : FitsSigned t.spinSpeed := by
  cases t with
  | toward target speed => simp [Turn.spinSpeed, FitsSigned]
  | spin speed targetSpeed acceleration => exact h.1
  | stopping speed deceleration => exact h.1

end Turn

lemma fitsSigned_toInt (n : Int32) : FitsSigned n.toInt := ⟨n.le_toInt, n.toInt_lt⟩

/-- A number moved toward a target stays between the two. -/
lemma fitsSigned_approach {current target : Int} (hcurrent : FitsSigned current)
    (htarget : FitsSigned target) (step : Int) : FitsSigned (approach current target step) := by
  simp only [FitsSigned] at hcurrent htarget
  simp only [approach, FitsSigned]
  split
  · omega
  split <;> omega

/-- A number cut to what a word can hold. -/
def Word.saturate (t : Word) (n : Int) : Int := max t.least (min n t.greatest)

/-- `approach` in words: what goes beyond a word is cut. -/
def approachSaturating (current target step : Int) : Int :=
  if step ≤ 0 then target
  else if current < target then min (Word.signed32.saturate (current + step)) target
  else max (Word.signed32.saturate (current - step)) target

/-- What is cut would go beyond the target anyway. -/
lemma approachSaturating_eq {current target : Int} (hcurrent : FitsSigned current)
    (htarget : FitsSigned target) (step : Int) :
    approachSaturating current target step = approach current target step := by
  simp only [FitsSigned] at hcurrent htarget
  simp only [approachSaturating, approach, Word.saturate, Word.signed32]
  split
  · rfl
  split <;> omega

/-- The size of a number, checked. -/
def Word.abs (t : Word) (n : Int) : Except Trap Int := if n < 0 then t.neg n else .ok n

lemma Word.abs_eq {t : Word} {n : Int} (h : n < 0 → t.Holds (-n)) :
    t.abs n = .ok (n.natAbs : Int) := by
  rw [Word.abs]
  split
  · rw [Word.neg_eq (h ‹_›), Int.ofNat_natAbs_of_nonpos (by omega)]
  · rw [Int.natAbs_of_nonneg (by omega)]

namespace Piece

/-- All turns of a piece are bounded. -/
def Bounded (p : Piece) : Prop := ∀ axis turn, p.turns.get axis = some turn → turn.Bounded

variable {p q : Piece} {axis : Axis}

lemma bounded_new (name : String) (origin : Vector3) (parent : Option Nat) :
    (new name origin parent).Bounded := by
  intro axis turn h
  cases axis <;> cases h

lemma Bounded.of_turns (h : p.Bounded) (hturns : q.turns = p.turns) : q.Bounded := by
  rw [Bounded, hturns]
  exact h

/-- A turn that is put in the place of another one has to be bounded; all others are. -/
lemma Bounded.set (h : p.Bounded) (axis : Axis) (next : Option Turn)
    (hnext : ∀ turn ∈ next, turn.Bounded) (hturns : q.turns = p.turns.set axis next) :
    q.Bounded := by
  intro other turn hget
  rw [hturns, Triple.get_set] at hget
  split at hget
  · exact hnext turn hget
  · exact h other turn hget

lemma Bounded.moveNow (h : p.Bounded) (axis : Axis) (target : Scalar) :
    (p.moveNow axis target).Bounded := h.of_turns rfl

lemma Bounded.moveTo (h : p.Bounded) (axis : Axis) (target speed : Scalar) :
    (p.moveTo axis target speed).Bounded := by
  rw [Piece.moveTo]
  split
  · exact h.moveNow axis target
  · exact h.of_turns rfl

lemma Bounded.turnNow (h : p.Bounded) (axis : Axis) (target : Angle) :
    (p.turnNow axis target).Bounded := h.set axis none nofun rfl

lemma Bounded.turnTo (h : p.Bounded) (axis : Axis) (target : Angle) {speed : Int}
    (hspeed : FitsSigned speed) : (p.turnTo axis target speed).Bounded := by
  rw [Piece.turnTo]
  split
  · exact h.turnNow axis target
  · refine h.set axis (some (.toward target speed)) (fun turn hturn => ?_) rfl
    cases hturn
    exact ⟨by omega, hspeed⟩

lemma sizeOf_eq_ok {rate size : Int} (h : sizeOf rate = .ok size) :
    FitsSigned size ∧ 0 ≤ size := by
  rw [sizeOf, Overflow.signed] at h
  split at h
  · cases h
    exact ⟨‹_›, Int.natCast_nonneg _⟩
  · cases h

lemma Bounded.spinSpeed (h : p.Bounded) (axis : Axis) :
    FitsSigned (((p.turns.get axis).map Turn.spinSpeed).getD 0) := by
  cases hturn : p.turns.get axis with
  | none => exact ⟨by decide, by decide⟩
  | some turn => exact (h axis turn hturn).spinSpeed

lemma Bounded.spin (h : p.Bounded) {targetSpeed acceleration : Int}
    (htarget : FitsSigned targetSpeed) (hq : p.spin axis targetSpeed acceleration = .ok q) :
    q.Bounded := by
  rw [Piece.spin] at hq
  cases hsize : sizeOf acceleration with
  | error cause =>
    rw [hsize] at hq
    cases hq
  | ok size =>
    rw [hsize] at hq
    cases hq
    obtain ⟨hfits, hnonneg⟩ := sizeOf_eq_ok hsize
    refine h.set axis _ (fun turn hturn => ?_) rfl
    cases hturn
    exact ⟨h.spinSpeed axis, htarget, hfits, hnonneg⟩

lemma Bounded.stopSpin (h : p.Bounded) {deceleration : Int}
    (hq : p.stopSpin axis deceleration = .ok q) : q.Bounded := by
  rw [Piece.stopSpin] at hq
  cases hturn : p.turns.get axis with
  | none =>
    rw [hturn] at hq
    cases hq
    exact h
  | some turn =>
    simp only [hturn] at hq
    cases hsize : sizeOf deceleration with
    | error cause =>
      rw [hsize] at hq
      cases hq
    | ok size =>
      rw [hsize] at hq
      cases hq
      obtain ⟨hfits, hnonneg⟩ := sizeOf_eq_ok hsize
      refine h.set axis _ (fun next hnext => ?_) rfl
      cases hnext
      exact ⟨(h axis turn hturn).spinSpeed, hfits, hnonneg⟩

/-- What a change that cannot fail answers. -/
lemma Bounded.of_ok (h : p.Bounded) (hq : (.ok p : Except Overflow Piece) = .ok q) :
    q.Bounded := by
  cases hq
  exact h

/-! ### One tick -/

lemma turns_stepMove (p : Piece) (axis : Axis) : (p.stepMove axis).turns = p.turns := by
  rw [stepMove_eq, withMove]

lemma Bounded.stepTurn (h : p.Bounded) (axis : Axis) : (p.stepTurn axis).Bounded := by
  simp only [Piece.stepTurn]
  cases hturn : p.turns.get axis with
  | none => exact h
  | some turn =>
  have hbounded := h axis turn hturn
  cases turn with
  | toward target speed =>
    simp only
    split
    · exact h.turnNow axis target
    · exact h.of_turns rfl
  | spin speed targetSpeed acceleration =>
    obtain ⟨hspeed, htarget, hfits, hnonneg⟩ := hbounded
    refine h.set axis _ (fun next hnext => ?_) rfl
    cases hnext
    exact ⟨fitsSigned_approach hspeed htarget acceleration, htarget, hfits, hnonneg⟩
  | stopping speed deceleration =>
    obtain ⟨hspeed, hfits, hnonneg⟩ := hbounded
    have hzero : FitsSigned 0 := ⟨by decide, by decide⟩
    refine h.set axis _ (fun next hnext => ?_) rfl
    split at hnext
    · cases hnext
    · cases hnext
      exact ⟨fitsSigned_approach hspeed hzero deceleration, hfits, hnonneg⟩

lemma Bounded.stepAxis (h : p.Bounded) (axis : Axis) : (p.stepAxis axis).Bounded :=
  (h.of_turns (turns_stepMove p axis)).stepTurn axis

theorem Bounded.step (h : p.Bounded) : p.step.Bounded :=
  ((h.stepAxis .x).stepAxis .y).stepAxis .z

/-- `stepTurn`, checked. -/
def stepTurnChecked (p : Piece) (axis : Axis) : Except Trap Piece := do
  let current := p.rotation.get axis
  match p.turns.get axis with
  | none => return p
  | some (.toward target speed) =>
    let remaining := (target - current).signed
    let size ← Word.signed32.abs remaining
    if size ≤ speed then return p.turnNow axis target
    else do
      let delta ← Word.signed32.mul speed remaining.sign
      return { p with rotation := p.rotation.set axis (current.offset delta) }
  | some (.spin speed targetSpeed acceleration) =>
    let speed := approachSaturating speed targetSpeed acceleration
    return { p with
      rotation := p.rotation.set axis (current.offset speed)
      turns := p.turns.set axis (some (.spin speed targetSpeed acceleration)) }
  | some (.stopping speed deceleration) =>
    let speed := approachSaturating speed 0 deceleration
    return { p with
      rotation := p.rotation.set axis (current.offset speed)
      turns := p.turns.set axis (if speed = 0 then none else some (.stopping speed deceleration)) }

/-- `stepAxis`, checked.  Moves are sums and differences that go around by design. -/
def stepAxisChecked (p : Piece) (axis : Axis) : Except Trap Piece :=
  (p.stepMove axis).stepTurnChecked axis

/-- `step`, checked. -/
def stepChecked (p : Piece) : Except Trap Piece := Axis.all.foldlM stepAxisChecked p

lemma stepTurnChecked_eq (h : p.Bounded) (axis : Axis) :
    p.stepTurnChecked axis = .ok (p.stepTurn axis) := by
  simp only [stepTurnChecked, Piece.stepTurn]
  cases hturn : p.turns.get axis with
  | none => rfl
  | some turn =>
  have hbounded := h axis turn hturn
  cases turn with
  | toward target speed =>
    obtain ⟨hpos, hfits⟩ := hbounded
    have hsigned := (target - p.rotation.get axis).signed_within
    simp only
    generalize (target - p.rotation.get axis).signed = remaining at hsigned ⊢
    have hneg : remaining < 0 → Word.signed32.Holds (-remaining) := fun _ => by
      simp only [Word.Holds, Word.signed32]
      omega
    rw [Word.abs_eq hneg, ok_bind]
    split
    · rfl
    · -- a speed that is less than what remains is far from the ends of a word
      have hmul : Word.signed32.Holds (speed * remaining.sign) := by
        simp only [Word.Holds, Word.signed32]
        rcases Int.sign_trichotomy remaining with hs | hs | hs <;> rw [hs] <;> omega
      rw [Word.mul_eq hmul, ok_bind]
      rfl
  | spin speed targetSpeed acceleration =>
    simp only [approachSaturating_eq hbounded.1 hbounded.2.1]
    rfl
  | stopping speed deceleration =>
    have hzero : FitsSigned 0 := ⟨by decide, by decide⟩
    simp only [approachSaturating_eq hbounded.1 hzero]
    rfl

lemma stepAxisChecked_eq (h : p.Bounded) (axis : Axis) :
    p.stepAxisChecked axis = .ok (p.stepAxis axis) :=
  stepTurnChecked_eq (h.of_turns (turns_stepMove p axis)) axis

lemma stepChecked_eq (h : p.Bounded) : p.stepChecked = .ok p.step := by
  simp only [stepChecked, Axis.all, List.foldlM_cons, List.foldlM_nil, stepAxisChecked_eq h,
    ok_bind, stepAxisChecked_eq (h.stepAxis .x), stepAxisChecked_eq ((h.stepAxis .x).stepAxis .y)]
  rfl

end Piece

/-! ### Places -/

/-- A vector turned by an angle, if that is not zero. -/
def Vector3.turnedChecked (rotate : Vector3 → Angle → Except Trap Vector3) (v : Vector3)
    (a : Angle) : Except Trap Vector3 :=
  if a = 0 then .ok v else rotate v a

lemma Vector3.turnedChecked_eq {checked : Vector3 → Angle → Except Trap Vector3}
    {rotate : Vector3 → Angle → Vector3} (h : ∀ v a, checked v a = .ok (rotate v a)) (v : Vector3)
    (a : Angle) : turnedChecked checked v a = .ok (if a = 0 then v else rotate v a) := by
  rw [turnedChecked, h]
  split <;> rfl

/-- `toParent`, checked. -/
def Piece.toParentChecked (p : Piece) (v : Vector3) : Except Trap Vector3 := do
  let v ← v.turnedChecked Vector3.rotateZChecked p.rotation.z
  let v ← v.turnedChecked Vector3.rotateXChecked p.rotation.x
  let v ← v.turnedChecked Vector3.rotateYChecked p.rotation.y
  return v + p.origin + p.displacement

lemma Piece.toParentChecked_eq (p : Piece) (v : Vector3) :
    p.toParentChecked v = .ok (p.toParent v) := by
  simp only [toParentChecked, Vector3.turnedChecked_eq Vector3.rotateXChecked_eq,
    Vector3.turnedChecked_eq Vector3.rotateYChecked_eq,
    Vector3.turnedChecked_eq Vector3.rotateZChecked_eq, ok_bind]
  rfl

namespace UnitState

/-- `climb`, checked. -/
def climbChecked (pieces : List Piece) : (bound : Nat) → Option Nat → Vector3 →
    Except Trap (Option Vector3)
  | _, none, v => .ok (some v)
  | 0, some _, _ => .ok none
  | bound + 1, some i, v =>
    match pieces[i]? with
    | none => .ok none
    | some p => do climbChecked pieces bound p.parent (← p.toParentChecked v)

lemma climbChecked_eq (pieces : List Piece) (bound : Nat) (i : Option Nat) (v : Vector3) :
    climbChecked pieces bound i v = .ok (climb pieces bound i v) := by
  induction bound generalizing i v with
  | zero => cases i <;> rfl
  | succ bound ih =>
    cases i with
    | none => rfl
    | some i =>
      rw [climbChecked, climb]
      cases pieces[i]? with
      | none => rfl
      | some p =>
        simp only [p.toParentChecked_eq, ok_bind]
        exact ih p.parent (p.toParent v)

/-- `pieceWorldPosition?`, checked. -/
def pieceWorldPositionChecked (u : UnitState) (i : Nat) : Except Trap (Option Vector3) := do
  match ← climbChecked u.pieces u.pieces.length (some i) 0 with
  | none => return none
  | some v =>
    let v ← v.turnedChecked Vector3.rotateYChecked u.rotation
    return some (v + u.position)

lemma pieceWorldPositionChecked_eq (u : UnitState) (i : Nat) :
    u.pieceWorldPositionChecked i = .ok (u.pieceWorldPosition? i) := by
  rw [pieceWorldPositionChecked, climbChecked_eq, ok_bind, pieceWorldPosition?,
    pieceLocalPosition?]
  cases climb u.pieces u.pieces.length (some i) 0 with
  | none => rfl
  | some v =>
    simp only [Vector3.turnedChecked_eq Vector3.rotateYChecked_eq, ok_bind]
    rfl

/-- All pieces of a unit are bounded. -/
def Bounded (u : UnitState) : Prop := ∀ p ∈ u.pieces, p.Bounded

/-- `stepPieces`, checked. -/
def stepPiecesChecked (u : UnitState) : Except Trap UnitState := do
  let pieces ← u.pieces.mapM Piece.stepChecked
  return { u with pieces := pieces }

variable {u : UnitState}

lemma Bounded.stepPieces (h : u.Bounded) : u.stepPieces.Bounded := by
  intro p hp
  obtain ⟨q, hq, rfl⟩ := List.mem_map.1 hp
  exact (h q hq).step

lemma stepPiecesChecked_eq (h : u.Bounded) : u.stepPiecesChecked = .ok u.stepPieces := by
  rw [stepPiecesChecked, mapM_eq_ok fun p hp => Piece.stepChecked_eq (h p hp)]
  rfl

lemma Bounded.of_pieces {u' : UnitState} (h : u.Bounded) (hpieces : u'.pieces = u.pieces) :
    u'.Bounded := by
  rw [Bounded, hpieces]
  exact h

lemma Bounded.setPiece (h : u.Bounded) (i : Nat) {p : Piece} (hp : p.Bounded) :
    (u.setPiece i p).Bounded := by
  intro q hq
  rcases List.mem_or_eq_of_mem_set hq with hq | rfl
  · exact h q hq
  · exact hp

end UnitState

namespace World

/-- All units in the world are bounded. -/
def Bounded (w : World) : Prop := ∀ id u, w.units.get? id = some u → u.Bounded

variable {w : World}

lemma Bounded.of_units {w' : World} (h : w.Bounded) (hunits : w'.units = w.units) :
    w'.Bounded := by
  rw [Bounded, hunits]
  exact h

lemma Bounded.mapUnits (h : w.Bounded) {f : UnitId → UnitState → UnitState}
    (hf : ∀ id u, u.Bounded → (f id u).Bounded) :
    Bounded { w with units := w.units.mapWithKey f } := by
  intro id u hu
  rw [SortedTable.get?_mapWithKey] at hu
  obtain ⟨u₀, hu₀, rfl⟩ := Option.map_eq_some_iff.1 hu
  exact hf id u₀ (h id u₀ hu₀)

lemma Bounded.insert (h : w.Bounded) {u : UnitState} (hu : u.Bounded) (id : UnitId) :
    Bounded { w with units := w.units.insert id u } := by
  intro k u' hget
  rw [SortedTable.get?_insert] at hget
  split at hget
  · cases hget
    exact hu
  · exact h k u' hget

lemma Bounded.modifyUnit (h : w.Bounded) {f : UnitState → UnitState}
    (hf : ∀ u, u.Bounded → (f u).Bounded) (id : UnitId) : (w.modifyUnit id f).Bounded :=
  h.mapUnits fun k u hu => by
    split
    · exact hf u hu
    · exact hu

/-- A piece of a unit is changed, or the world stays as it is. -/
lemma respects_updatePiece {R : World → World → Prop} [IsPreorder World R] {id : UnitId}
    {f : Piece → Except Overflow Piece}
    (hset : ∀ {w u i p q}, w.units.get? id = some u → u.pieces[i]? = some p → f p = .ok q →
      R w (w.modifyUnit id fun u => u.setPiece i q))
    (name : String) : Respects R (updatePiece id name f) := by
  intro w
  show R w ((updatePiece id name f).on w).2
  simp only [updatePiece, Action.on_get_bind, Action.on_require_bind]
  cases hu : w.unit id with
  | error cause => exact refl_of R w
  | ok u =>
  simp only
  cases u.pieceIndex? name with
  | none => exact refl_of R w
  | some i =>
  simp only
  cases hp : u.pieces[i]? with
  | none => exact refl_of R w
  | some p =>
  simp only [Action.on_checked_bind]
  cases hq : f p with
  | error cause => exact refl_of R w
  | ok q => exact hset (unit_eq_ok.1 hu) hp hq

end World

end Lockstep
