import Lockstep.Proofs.World.Ground
import Lockstep.Proofs.World.Provision
/-!
# What scripts ask of the world, in words

A script reads its own unit and others, the places of pieces and the ground; it opens the yard of
its unit, and it tells units to leave.  Here the numbers in between are words again.  In a world in
which all units stand on the map and the sides of all grids are words, each of these comes through,
with the same answer and the same world.
-/

namespace Lockstep.World

open Script (LinkedValue Program UnitView)

/-- The sides of the grids in which cells are looked up are words. -/
structure Measured (w : World) : Prop where
  heights : w.terrain.heights.Measured
  cells : w.occupancy.Measured
  yards : ∀ {name t yard}, w.definitions.unitType name = .ok t → t.yardMap = some yard →
    yard.Measured

/-- An operation whose checked form comes through with the same answer, or the same refusal, and the
same world.  It does not stop everything. -/
def Agrees {α : Type} (checked : Except Trap (Except Refusal α × World))
    (result : Except Failure α × World) : Prop :=
  ∃ answer w', checked = .ok (answer, w') ∧ result = (answer.mapError .refused, w')

variable {w w' : World} {id : UnitId} {u : UnitState} {t : UnitType} {r : Rect}

lemma Measured.ground (hw : Measured w) (h : SameGround w w') : Measured w' where
  heights := h.terrain ▸ hw.heights
  cells := ⟨h.width ▸ hw.cells.width, h.height ▸ hw.cells.height⟩
  yards := fun ht => hw.yards (h.definitions ▸ ht)

lemma Agrees.ne_halt {α : Type} {checked : Except Trap (Except Refusal α × World)}
    {result : Except Failure α × World} (h : Agrees checked result) (cause : Halt) :
    result.1 ≠ .error (.halt cause) := by
  obtain ⟨answer, w', -, rfl⟩ := h
  cases answer <;> nofun

lemma Ordered.exists_stands (hw : Ordered w) (hu : w.units.get? id = some u) :
    ∃ t r, Stands w u.body t r :=
  hw.standing (body?_eq_some_iff.2 ⟨u, hu, rfl⟩)

/-! ### Yards -/

/-- `unitFootprint`, checked. -/
def unitFootprintChecked (w : World) (id : UnitId) : Except Trap (Except Refusal Rect) := do
  match w.unit id with
  | .error cause => return .error cause
  | .ok u =>
    match w.definitions.unitType u.unitType with
    | .error cause => return .error cause
    | .ok t =>
      match w.definitions.movementClass t.movement with
      | .error cause => return .error cause
      | .ok c =>
        let rect ← w.footprintChecked u.position c.width c.depth
        return .ok rect

/-- The yard map of a unit, or the refusal that there is none. -/
def yardMapOf (w : World) (id : UnitId) : Except Refusal YardMap :=
  match w.unit id with
  | .error cause => .error cause
  | .ok u =>
    match w.definitions.unitType u.unitType with
    | .error cause => .error cause
    | .ok t =>
      match t.yardMap with
      | some yardMap => .ok yardMap
      | none => .error (.missingYardMap u.unitType)

/-- `trySetYardOpen`, checked. -/
def trySetYardOpenChecked (id : UnitId) (isOpen : Bool) (w : World) :
    Except Trap (Except Refusal Bool × World) := do
  match ← w.unitFootprintChecked id with
  | .error cause => return (.error cause, w)
  | .ok rect =>
    match w.yardMapOf id with
    | .error cause => return (.error cause, w)
    | .ok yardMap =>
      match ← w.occupancy.regionChecked rect with
      | none => return (.error (.footprintOffMap id rect), w)
      | some region =>
        let x := UInt32.ofNat region.x
        let y := UInt32.ofNat region.y
        let blocked ← w.occupancy.anyOverlayChecked x y yardMap fun c cell =>
          !cell.isPassable isOpen && c.occupant.isSome
        if blocked then return (.ok false, w)
        else do
          let occupancy ← w.occupancy.modifyOverlayChecked x y yardMap fun c cell =>
            { c with claim := some ⟨id, cell.isPassable isOpen⟩ }
          return (.ok true, { w with
            occupancy := occupancy
            units := w.units.modify id fun u => { u with yardOpen := isOpen } })

lemma unitFootprintChecked_eq (hw : Measured w) (hu : w.units.get? id = some u)
    (hs : Stands w u.body t r) : w.unitFootprintChecked id = .ok (.ok r) := by
  obtain ⟨c, hc, hr⟩ := classFootprint_eq_ok hs.footprint
  have ht : w.definitions.unitType u.unitType = .ok t := hs.unitType
  have hr : w.footprint u.position c.width c.depth = .ok r := hr
  simp only [unitFootprintChecked, unit_eq_ok.2 hu, ht, hc, footprintChecked_eq hw.heights hr,
    ok_bind]
  rfl

/-- A unit that is not there is refused. -/
lemma unit_of_missing (hu : w.units.get? id = none) : w.unit id = .error (.unknownUnit id) := by
  rw [World.unit, hu]

lemma trySetYardOpenChecked_agrees (hw : Measured w) (ho : Ordered w) (id : UnitId)
    (isOpen : Bool) :
    Agrees (trySetYardOpenChecked id isOpen w) ((trySetYardOpen id isOpen).on w) := by
  cases hu : w.units.get? id with
  | none =>
    refine ⟨.error (.unknownUnit id), w, ?_, ?_⟩
    · simp only [trySetYardOpenChecked, unitFootprintChecked, unit_of_missing hu]
      rfl
    · simp only [trySetYardOpen, Action.on_get_bind, Action.on_ofExcept_bind, unitFootprint,
        unit_of_missing hu]
      rfl
  | some u =>
  obtain ⟨t, r, hs⟩ := ho.exists_stands hu
  have ht : w.definitions.unitType u.unitType = .ok t := hs.unitType
  obtain ⟨region, hregion⟩ := Option.isSome_iff_exists.1 hs.onMap
  simp only [trySetYardOpen, Action.on_get_bind, Action.on_ofExcept_bind, Action.on_require_bind,
    unitFootprint_eq_ok hu hs, unit_eq_ok.2 hu, ht, trySetYardOpenChecked,
    unitFootprintChecked_eq hw hu hs, ok_bind, yardMapOf]
  cases hyard : t.yardMap with
  | none => exact ⟨.error (.missingYardMap u.unitType), w, rfl, rfl⟩
  | some yard =>
  obtain ⟨⟨hx, hy⟩, hxlt, hylt⟩ := corner_of_region? hregion hs.lt
  have hmeasured := hw.yards ht hyard
  obtain ⟨blocked, hblocked⟩ := exists_isYardBlocked hregion hs.lt yard isOpen
  obtain ⟨g, hg⟩ := exists_claim hregion hs.lt yard id isOpen
  have hany := Grid.anyOverlayChecked_eq hw.cells hmeasured (hx ▸ hxlt) (hy ▸ hylt) hblocked
  have hmodify := Grid.modifyOverlayChecked_eq hw.cells hmeasured (hx ▸ hxlt) (hy ▸ hylt) hg
  simp only [Grid.regionChecked_eq hw.cells hregion, ok_bind, hany, hmodify,
    Action.on_require_bind, footprintRegion_eq_ok.2 hregion, Action.on_checked_bind, hblocked]
  cases blocked with
  | true => exact ⟨.ok false, w, rfl, rfl⟩
  | false =>
    simp only [Bool.false_eq_true, if_false, Action.on_checked_bind, hg, Action.on_set_bind]
    rw [Action.on_bind, updateUnit_on (w := { w with occupancy := g }) hu]
    exact ⟨.ok true, _, rfl, rfl⟩

/-! ### Telling units to leave -/

/-- Units are told to leave a rectangle, one after the other. -/
def tellAll (rect : Rect) : List UnitId → World → Except Refusal Unit × World
  | [], w => (.ok (), w)
  | id :: rest, w =>
    match w.unit id with
    | .error cause => (.error cause, w)
    | .ok _ => tellAll rect rest
        (w.modifyUnit id fun u => if u.orders.isEmpty then u.addOrder (.buggerOff rect) else u)

/-- `emitBuggerOff`, checked. -/
def emitBuggerOffChecked (id : UnitId) (w : World) :
    Except Trap (Except Refusal Unit × World) := do
  match ← w.unitFootprintChecked id with
  | .error cause => return (.error cause, w)
  | .ok rect =>
    match ← w.occupancy.regionChecked rect with
    | none => return (.error (.footprintOffMap id rect), w)
    | some region =>
      let cells ← w.occupancy.valuesInChecked region
      return tellAll rect (cells.filterMap fun c => c.occupant.bind Occupant.unit?) w

/-- The induction is on the units that are told. -/
lemma forM_tellToBuggerOff_on (rect : Rect) (ids : List UnitId) (w : World) :
    (ids.forM fun other => tellToBuggerOff other rect).on w =
      ((tellAll rect ids w).1.mapError .refused, (tellAll rect ids w).2) := by
  induction ids generalizing w with
  | nil => rfl
  | cons other rest ih =>
    rw [Action.on_forM_cons, tellAll]
    cases hu : w.unit other with
    | error cause =>
      simp only [tellToBuggerOff, updateUnit, Action.on_get_bind, Action.on_require_bind, hu]
      rfl
    | ok u =>
      simp only [tellToBuggerOff, updateUnit_on (unit_eq_ok.1 hu)]
      exact ih _

lemma emitBuggerOffChecked_agrees (hw : Measured w) (ho : Ordered w) (id : UnitId) :
    Agrees (emitBuggerOffChecked id w) ((emitBuggerOff id).on w) := by
  cases hu : w.units.get? id with
  | none =>
    refine ⟨.error (.unknownUnit id), w, ?_, ?_⟩
    · simp only [emitBuggerOffChecked, unitFootprintChecked, unit_of_missing hu]
      rfl
    · simp only [emitBuggerOff, Action.on_get_bind, Action.on_ofExcept_bind, unitFootprint,
        unit_of_missing hu]
      rfl
  | some u =>
  obtain ⟨t, r, hs⟩ := ho.exists_stands hu
  obtain ⟨region, hregion⟩ := Option.isSome_iff_exists.1 hs.onMap
  refine ⟨(tellAll r (w.unitsIn region) w).1, (tellAll r (w.unitsIn region) w).2, ?_, ?_⟩
  · simp only [emitBuggerOffChecked, unitFootprintChecked_eq hw hu hs, ok_bind,
      Grid.regionChecked_eq hw.cells hregion, Grid.valuesInChecked_eq hw.cells hregion]
    rfl
  · simp only [emitBuggerOff, Action.on_get_bind, Action.on_ofExcept_bind, Action.on_require_bind,
      unitFootprint_eq_ok hu hs, footprintRegion_eq_ok.2 hregion]
    exact forM_tellToBuggerOff_on r (w.unitsIn region) w

/-! ### Values -/

/-- `pieceWorldPosition?` of a piece with a name, checked. -/
def piecePositionChecked (w : World) (id : UnitId) (name : String) :
    Except Trap (Option Vector3) :=
  match w.units.get? id with
  | none => .ok none
  | some u =>
    match u.pieceIndex? name with
    | none => .ok none
    | some i => u.pieceWorldPositionChecked i

/-- The place of the piece with a number, checked. -/
def pieceAtChecked (id : UnitId) (program : Program) (w : World) (number : Int32) :
    Except Trap (Except ScriptError Vector3) :=
  match program.pieceName? number.toUInt32 with
  | none => .ok (.error (.unknownPiece number.toUInt32))
  | some name => do
    match ← w.piecePositionChecked id name with
    | none => return .error (.missingPiece name)
    | some position => return .ok position

/-- `healthPercent`, checked. -/
def healthPercentChecked (view : UnitView) : Except Trap Int32 :=
  if view.maxHitPoints = 0 then .ok 0
  else do
    let points ← Word.unsigned64.mul view.hitPoints.toNat 100
    let divisor ← positive view.maxHitPoints.toNat
    return Int32.ofInt (points / divisor)

/-- The largest number given to a unit so far, checked. -/
def maxUnitChecked (w : World) : Except Trap Int32 := do
  let last ← Word.unsigned32.sub w.nextUnit.toNat 1
  return Int32.ofInt last

/-- `readValue`, checked.  What is not computed by checked operations is read as it is. -/
def readValueChecked (id : UnitId) (program : Program) (w : World) (v : LinkedValue)
    (a b : Int32) : Except Trap (Except ScriptError Int32) :=
  let own (f : UnitView → Except Trap Int32) : Except Trap (Except ScriptError Int32) :=
    match Script.Machine.ownUnit host id w with
    | .error e => .ok (.error e)
    | .ok view => (f view).map .ok
  match v with
  | .health => own healthPercentChecked
  | .pieceXZ => (pieceAtChecked id program w a).map (·.map fun p => Script.pack p.x p.z)
  | .pieceY => (pieceAtChecked id program w a).map (·.map fun p => p.y.raw)
  | .xzAtan => own fun u =>
      (Angle.atan2Checked (Script.unpack a).1 (Script.unpack a).2).map fun angle =>
        Script.valueOfAngle (angle - (u.rotation - Angle.halfTurn))
  | .xzHypot =>
    (Scalar.hypotChecked (Script.unpack a).1 (Script.unpack a).2).map fun d => .ok d.raw
  | .atan => (Angle.atan2Checked ⟨a⟩ ⟨b⟩).map fun angle => .ok (Script.valueOfAngle angle)
  | .hypot => (Scalar.hypotChecked ⟨a⟩ ⟨b⟩).map fun d => .ok d.raw
  | .groundHeight =>
    (w.terrain.heightAtChecked (Script.unpack a).1 (Script.unpack a).2).map fun h => .ok h.raw
  | .maxId => w.maxUnitChecked.map .ok
  | v => .ok (Script.Machine.readValue host id program w v a b)

lemma piecePositionChecked_eq (w : World) (id : UnitId) (name : String) :
    w.piecePositionChecked id name = .ok (host.piecePosition? id name w) := by
  simp only [piecePositionChecked, host, piecePosition, World.unit]
  cases w.units.get? id with
  | none => rfl
  | some u =>
  simp only
  cases u.pieceIndex? name with
  | none => rfl
  | some i =>
    simp only [u.pieceWorldPositionChecked_eq, Option.bind_some]
    cases u.pieceWorldPosition? i <;> rfl

lemma pieceAtChecked_eq (id : UnitId) (program : Program) (w : World) (number : Int32) :
    pieceAtChecked id program w number =
      .ok (Script.Machine.pieceAt host id program w number) := by
  rw [pieceAtChecked, Script.Machine.pieceAt]
  cases program.pieceName? number.toUInt32 with
  | none => rfl
  | some name =>
    simp only [piecePositionChecked_eq, ok_bind]
    cases host.piecePosition? id name w <;> rfl

lemma healthPercentChecked_eq (view : UnitView) :
    healthPercentChecked view = .ok (Script.Machine.healthPercent view) := by
  rw [healthPercentChecked, Script.Machine.healthPercent]
  by_cases hzero : view.maxHitPoints = 0
  · rw [if_pos hzero, if_pos hzero]
  · have hpoints := view.hitPoints.toNat_lt
    have hmul : Word.unsigned64.Holds ((view.hitPoints.toNat : Int) * 100) := by
      simp only [Word.Holds, Word.unsigned64]
      omega
    have hpos : (0 : Int) < view.maxHitPoints.toNat := by
      have hne : view.maxHitPoints.toNat ≠ 0 := fun h => hzero (UInt32.toNat_inj.1 h)
      omega
    rw [if_neg hzero, if_neg hzero, Word.mul_eq hmul, ok_bind, positive_eq hpos, ok_bind]
    rfl

lemma maxUnitChecked_eq (hnext : 0 < w.nextUnit.toNat) :
    w.maxUnitChecked = .ok (host.maxUnit w).toInt32 := by
  have hlt := w.nextUnit.toNat_lt
  have hsub : Word.unsigned32.Holds ((w.nextUnit.toNat : Int) - 1) := by
    simp only [Word.Holds, Word.unsigned32]
    omega
  have hlast : host.maxUnit w = UInt32.ofNat (w.nextUnit.toNat - 1) := by
    have hle : (1 : UInt32) ≤ w.nextUnit := UInt32.le_iff_toNat_le.2 hnext
    show w.nextUnit - 1 = _
    rw [← UInt32.toNat_inj, UInt32.toNat_sub_of_le _ _ hle, UInt32.toNat_ofNat']
    exact (Nat.mod_eq_of_lt (by omega)).symm
  have hcast : (w.nextUnit.toNat : Int) - 1 = (w.nextUnit.toNat - 1 : Nat) := by omega
  rw [maxUnitChecked, Word.sub_eq hsub, ok_bind, hlast, UInt32.toInt32_ofNat',
    ← Int32.ofInt_eq_ofNat, hcast]
  rfl

theorem readValueChecked_eq (hw : Measured w) (hnext : 0 < w.nextUnit.toNat) (id : UnitId)
    (program : Program) (v : LinkedValue) (a b : Int32) :
    readValueChecked id program w v a b =
      .ok (Script.Machine.readValue host id program w v a b) := by
  cases v with
  | health =>
    simp only [readValueChecked, Script.Machine.readValue]
    cases Script.Machine.ownUnit host id w with
    | error e => rfl
    | ok view =>
      simp only [healthPercentChecked_eq]
      rfl
  | pieceXZ =>
    simp only [readValueChecked, pieceAtChecked_eq]
    rfl
  | pieceY =>
    simp only [readValueChecked, pieceAtChecked_eq]
    rfl
  | xzAtan =>
    simp only [readValueChecked, Script.Machine.readValue]
    cases Script.Machine.ownUnit host id w with
    | error e => rfl
    | ok view =>
      simp only [Angle.atan2Checked_eq]
      rfl
  | xzHypot =>
    simp only [readValueChecked, Scalar.hypotChecked_eq]
    rfl
  | atan =>
    simp only [readValueChecked, Angle.atan2Checked_eq]
    rfl
  | hypot =>
    simp only [readValueChecked, Scalar.hypotChecked_eq]
    rfl
  | groundHeight =>
    simp only [readValueChecked, Terrain.heightAtChecked_eq hw.heights]
    rfl
  | maxId =>
    simp only [readValueChecked, maxUnitChecked_eq hnext]
    rfl
  | _ => rfl

end Lockstep.World
