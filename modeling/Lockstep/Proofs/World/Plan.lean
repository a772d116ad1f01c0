import Lockstep.Proofs.Space.Overlay
import Lockstep.World.Placement
/-!
# The plan of the map

Of all that the world holds, the cells of the map are decided by little: the ground, the
definitions, and the type, the place and the yard of each unit.  This part of the world is its plan.
`Stands` says which rectangle a unit covers, and `Placed`, `Built`, `Moved`, `Toggled`, `Removed`
and `Landed` describe the writes on the plan cell by cell, with what had been checked before.
-/

namespace Lockstep

namespace Occupancy

lemma blocks_eq_false {c : Occupancy} :
    c.blocks = false ↔ c.occupant = none ∧ ∀ k, c.claim = some k → k.passable = true := by
  simp only [blocks, Bool.or_eq_false_iff, Option.isSome_eq_false_iff, Option.isNone_iff_eq_none]
  cases c.claim <;> simp

lemma blocksBut_eq_false {c : Occupancy} {id : UnitId} :
    c.blocksBut id = false ↔ (∀ o, c.occupant = some o → o = .unit id) ∧
      ∀ k, c.claim = some k → k.unit = id ∨ k.passable = true := by
  simp only [blocksBut, Bool.or_eq_false_iff]
  cases c.occupant <;> cases c.claim <;> simp [or_iff_not_imp_left]

end Occupancy

/-- What the plan shows of a unit. -/
structure Body where
  /-- The type. -/
  unitType : String
  /-- Where the unit is. -/
  position : Vector3
  /-- Whether the yard is open. -/
  yardOpen : Bool
deriving DecidableEq

/-- What the plan shows of a unit. -/
def UnitState.body (u : UnitState) : Body := ⟨u.unitType, u.position, u.yardOpen⟩

namespace World

/-- What the plan shows of the unit with a number. -/
def body? (w : World) (id : UnitId) : Option Body := (w.units.get? id).map UnitState.body

/-- Two worlds with the same ground and definitions, and with maps of the same size. -/
structure SameGround (w w' : World) : Prop where
  terrain : w'.terrain = w.terrain
  definitions : w'.definitions = w.definitions
  width : w'.occupancy.width = w.occupancy.width
  height : w'.occupancy.height = w.occupancy.height

/-- Two worlds with the same plan. -/
structure SamePlan (w w' : World) : Prop where
  terrain : w'.terrain = w.terrain
  definitions : w'.definitions = w.definitions
  occupancy : w'.occupancy = w.occupancy
  bodies : ∀ id, w'.body? id = w.body? id
  nextUnit : w'.nextUnit = w.nextUnit
  nextFeature : w'.nextFeature = w.nextFeature

/-- A unit of a type covers a rectangle, which lies on the map. -/
structure Stands (w : World) (b : Body) (t : UnitType) (r : Rect) : Prop where
  unitType : w.definitions.unitType b.unitType = .ok t
  footprint : w.classFootprint b.position t.movement = .ok r
  onMap : (w.occupancy.region? r).isSome

variable {w w' w'' : World} {id : UnitId} {b : Body} {t : UnitType} {r : Rect}

lemma SameGround.refl (w : World) : SameGround w w := ⟨rfl, rfl, rfl, rfl⟩

lemma SameGround.trans (h : SameGround w w') (h' : SameGround w' w'') : SameGround w w'' :=
  ⟨h'.terrain.trans h.terrain, h'.definitions.trans h.definitions, h'.width.trans h.width,
    h'.height.trans h.height⟩

lemma SameGround.symm (h : SameGround w w') : SameGround w' w :=
  ⟨h.terrain.symm, h.definitions.symm, h.width.symm, h.height.symm⟩

lemma SamePlan.ground (h : SamePlan w w') : SameGround w w' :=
  ⟨h.terrain, h.definitions, by rw [h.occupancy], by rw [h.occupancy]⟩

instance : IsPreorder World SamePlan where
  refl _ := ⟨rfl, rfl, rfl, fun _ => rfl, rfl, rfl⟩
  trans _ _ _ h h' :=
    ⟨h'.terrain.trans h.terrain, h'.definitions.trans h.definitions,
      h'.occupancy.trans h.occupancy, fun id => (h'.bodies id).trans (h.bodies id),
      h'.nextUnit.trans h.nextUnit, h'.nextFeature.trans h.nextFeature⟩

/-! ### Footprints -/

lemma footprint_congr (h : w'.terrain = w.terrain) (p : Vector3) (width depth : Nat) :
    w'.footprint p width depth = w.footprint p width depth := by
  simp only [footprint, h]

lemma classFootprint_congr (h : SameGround w w') (p : Vector3) (c : ClassChoice) :
    w'.classFootprint p c = w.classFootprint p c := by
  simp only [classFootprint, h.definitions, footprint_congr h.terrain]

lemma region?_congr (h : SameGround w w') (r : Rect) :
    w'.occupancy.region? r = w.occupancy.region? r := by
  simp only [Grid.region?, h.width, h.height]

lemma clip_congr (h : SameGround w w') (r : Rect) :
    w'.occupancy.clip r = w.occupancy.clip r := by
  simp only [Grid.clip, h.width, h.height]

lemma Stands.congr (h : SameGround w w') (hs : Stands w b t r) : Stands w' b t r :=
  ⟨h.definitions ▸ hs.unitType, (classFootprint_congr h ..).trans hs.footprint,
    (region?_congr h r).symm ▸ hs.onMap⟩

/-- The type and the place of a unit determine what it covers. -/
lemma Stands.eq {b' : Body} {t' : UnitType} {r' : Rect} (h : Stands w b t r)
    (h' : Stands w b' t' r') (htype : b'.unitType = b.unitType)
    (hplace : b'.position = b.position) : t' = t ∧ r' = r := by
  have ht : t' = t := by
    have := h'.unitType
    rw [htype, h.unitType] at this
    exact (Except.ok.inj this).symm
  refine ⟨ht, ?_⟩
  have := h'.footprint
  rw [ht, hplace, h.footprint] at this
  exact (Except.ok.inj this).symm

/-- The corner of a footprint was read as a pair of signed words. -/
lemma footprint_lt {p : Vector3} {width depth : Nat} (h : w.footprint p width depth = .ok r) :
    (r.x < 2 ^ 31 ∧ r.y < 2 ^ 31) ∧ r.width = width ∧ r.height = depth := by
  rw [footprint] at h
  cases hw : halfSide width with
  | error e => rw [hw] at h; cases h
  | ok halfWidth =>
    cases hd : halfSide depth with
    | error e => rw [hw, hd] at h; cases h
    | ok halfDepth =>
      rw [hw, hd] at h
      cases h
      exact ⟨⟨Int32.toInt_lt _, Int32.toInt_lt _⟩, rfl, rfl⟩

lemma classFootprint_eq_ok {p : Vector3} {c : ClassChoice} (h : w.classFootprint p c = .ok r) :
    ∃ m, w.definitions.movementClass c = .ok m ∧ w.footprint p m.width m.depth = .ok r := by
  rw [classFootprint] at h
  split at h
  · cases h
  · rename_i m hm
    refine ⟨m, hm, ?_⟩
    cases hf : w.footprint p m.width m.depth with
    | error cause => rw [hf] at h; cases h
    | ok r' => rw [hf] at h; cases h; rfl

lemma Stands.lt (h : Stands w b t r) : r.x < 2 ^ 31 ∧ r.y < 2 ^ 31 := by
  obtain ⟨m, -, hm⟩ := classFootprint_eq_ok h.footprint
  exact (footprint_lt hm).1

/-- The footprint of a unit in the world is the rectangle it stands on. -/
lemma unitFootprint_eq_ok {u : UnitState} (hu : w.units.get? id = some u)
    (h : Stands w u.body t r) : w.unitFootprint id = .ok r := by
  have htype : w.definitions.unitType u.unitType = .ok t := h.unitType
  simp only [unitFootprint, World.unit, hu, htype]
  exact h.footprint

lemma body?_eq_some_iff : w.body? id = some b ↔ ∃ u, w.units.get? id = some u ∧ u.body = b :=
  Option.map_eq_some_iff

/-- A unit in the world, with its type and its footprint as the operations compute them. -/
lemma stands_of_unitFootprint {u : UnitState} (hu : w.units.get? id = some u)
    (ht : w.definitions.unitType u.unitType = .ok t) (hr : w.unitFootprint id = .ok r)
    (hmap : (w.occupancy.region? r).isSome) : Stands w u.body t r := by
  refine ⟨ht, ?_, hmap⟩
  simp only [unitFootprint, World.unit, hu, ht] at hr
  exact hr

lemma mem_cells_of_onMap {x y : Nat} {region : Region} (h : w.occupancy.region? r = some region) :
    (x, y) ∈ region.cells ↔ r.contains x y = true :=
  Grid.mem_cells_of_region? h

/-! ### Writes on the plan -/

/-- A cell over which a yard map is laid with its corner at that of a rectangle takes the claim of
a unit. -/
def stamp (yard : YardMap) (r : Rect) (id : UnitId) (isOpen : Bool) (x y : Nat) (c : Occupancy) :
    Occupancy :=
  (yard.covering? r.x.toNat r.y.toNat x y).elim c fun k =>
    { c with claim := some ⟨id, k.isPassable isOpen⟩ }

@[simp] lemma stamp_occupant (yard : YardMap) (r : Rect) (id : UnitId) (isOpen : Bool) (x y : Nat)
    (c : Occupancy) : (stamp yard r id isOpen x y c).occupant = c.occupant := by
  rw [stamp]
  cases yard.covering? r.x.toNat r.y.toNat x y <;> rfl

lemma stamp_claim (yard : YardMap) (r : Rect) (id : UnitId) (isOpen : Bool) (x y : Nat)
    (c : Occupancy) : (stamp yard r id isOpen x y c).claim =
      (yard.covering? r.x.toNat r.y.toNat x y).elim c.claim fun k =>
        some ⟨id, k.isPassable isOpen⟩ := by
  rw [stamp]
  cases yard.covering? r.x.toNat r.y.toNat x y <;> rfl

/-- A unit is added to the plan. -/
structure Added (w w' : World) (id : UnitId) (b : Body) (t : UnitType) (r : Rect) : Prop where
  ground : SameGround w w'
  number : w.nextUnit = id.val
  nextUnit : w'.nextUnit.toNat = w.nextUnit.toNat + 1
  nextFeature : w'.nextFeature = w.nextFeature
  bodies : ∀ other, w'.body? other = if other = id then some b else w.body? other
  stands : Stands w b t r
  free : ∀ {x y c}, w.occupancy.at? x y = some c → r.contains x y = true → c.blocks = false

/-- A mobile unit is put on the map; it occupies its footprint. -/
structure Placed (w w' : World) (id : UnitId) (b : Body) (t : UnitType) (r : Rect) : Prop
    extends Added w w' id b t r where
  mobile : t.isMobile = true
  cells : ∀ x y, w'.occupancy.at? x y = (w.occupancy.at? x y).map fun c =>
    if r.contains x y then { c with occupant := some (.unit id) } else c

/-- A building is put on the map; it claims cells by its yard map. -/
structure Built (w w' : World) (id : UnitId) (b : Body) (t : UnitType) (r : Rect) (yard : YardMap) :
    Prop extends Added w w' id b t r where
  immobile : t.isMobile = false
  yardMap : t.yardMap = some yard
  cells : ∀ x y, w'.occupancy.at? x y =
    (w.occupancy.at? x y).map (stamp yard r id b.yardOpen x y)

/-- A mobile unit is moved: it leaves one rectangle and then occupies another one. -/
structure Moved (w w' : World) (id : UnitId) (b : Body) (position : Vector3) (t : UnitType)
    (old new : Rect) : Prop where
  ground : SameGround w w'
  nextUnit : w'.nextUnit = w.nextUnit
  nextFeature : w'.nextFeature = w.nextFeature
  body : w.body? id = some b
  bodies : ∀ other, w'.body? other =
    if other = id then some { b with position := position } else w.body? other
  before : Stands w b t old
  after : Stands w { b with position := position } t new
  mobile : t.isMobile = true
  free : ∀ {x y c}, w.occupancy.at? x y = some c → new.contains x y = true → c.blocksBut id = false
  cells : ∀ x y, w'.occupancy.at? x y = (w.occupancy.at? x y).map fun c =>
    if new.contains x y then { c with occupant := some (.unit id) }
    else if old.contains x y then vacate (.unit id) c else c

/-- The yard of a unit is opened or closed; the unit claims cells anew. -/
structure Toggled (w w' : World) (id : UnitId) (b : Body) (isOpen : Bool) (t : UnitType) (r : Rect)
    (yard : YardMap) : Prop where
  ground : SameGround w w'
  nextUnit : w'.nextUnit = w.nextUnit
  nextFeature : w'.nextFeature = w.nextFeature
  body : w.body? id = some b
  bodies : ∀ other, w'.body? other =
    if other = id then some { b with yardOpen := isOpen } else w.body? other
  stands : Stands w b t r
  yardMap : t.yardMap = some yard
  free : ∀ {x y c k}, w.occupancy.at? x y = some c →
    yard.covering? r.x.toNat r.y.toNat x y = some k → k.isPassable isOpen = false →
    c.occupant = none
  cells : ∀ x y, w'.occupancy.at? x y =
    (w.occupancy.at? x y).map (stamp yard r id isOpen x y)

/-- A unit is taken off the map. -/
structure Removed (w w' : World) (id : UnitId) : Prop where
  ground : SameGround w w'
  nextUnit : w'.nextUnit = w.nextUnit
  nextFeature : w'.nextFeature = w.nextFeature
  bodies : ∀ other, w'.body? other = if other = id then none else w.body? other
  cells : ∀ x y, w'.occupancy.at? x y = (w.occupancy.at? x y).map (release id)

/-- A feature is put on the map; a blocking one occupies its footprint, as far as that lies on the
map. -/
structure Landed (w w' : World) (id : FeatureId) (t : FeatureType) (r : Rect) : Prop where
  ground : SameGround w w'
  number : w.nextFeature = id.val
  nextFeature : w'.nextFeature.toNat = w.nextFeature.toNat + 1
  nextUnit : w'.nextUnit = w.nextUnit
  bodies : ∀ other, w'.body? other = w.body? other
  free : t.blocking = true → ∀ {x y c}, w.occupancy.at? x y = some c →
    r.contains x y = true → c.blocks = false
  cells : ∀ x y, w'.occupancy.at? x y = (w.occupancy.at? x y).map fun c =>
    if t.blocking ∧ r.contains x y then { c with occupant := some (.feature id) } else c

/-- A single write on the plan that concerns units. -/
inductive Change (w w' : World) : Prop
  | calm (h : SamePlan w w')
  | place (id : UnitId) (b : Body) (t : UnitType) (r : Rect) (h : Placed w w' id b t r)
  | build (id : UnitId) (b : Body) (t : UnitType) (r : Rect) (yard : YardMap)
    (h : Built w w' id b t r yard)
  | move (id : UnitId) (b : Body) (position : Vector3) (t : UnitType) (old new : Rect)
    (h : Moved w w' id b position t old new)
  | toggle (id : UnitId) (b : Body) (isOpen : Bool) (t : UnitType) (r : Rect) (yard : YardMap)
    (h : Toggled w w' id b isOpen t r yard)
  | remove (id : UnitId) (h : Removed w w' id)

lemma Change.ground (h : Change w w') : SameGround w w' := by
  cases h with
  | calm h => exact h.ground
  | place _ _ _ _ h => exact h.ground
  | build _ _ _ _ _ h => exact h.ground
  | move _ _ _ _ _ _ h => exact h.ground
  | toggle _ _ _ _ _ _ h => exact h.ground
  | remove _ h => exact h.ground

lemma Change.nextUnit_le (h : Change w w') : w.nextUnit.toNat ≤ w'.nextUnit.toNat := by
  cases h with
  | calm h => exact Nat.le_of_eq (congrArg _ h.nextUnit.symm)
  | place _ _ _ _ h => exact h.nextUnit ▸ Nat.le_succ _
  | build _ _ _ _ _ h => exact h.nextUnit ▸ Nat.le_succ _
  | move _ _ _ _ _ _ h => exact Nat.le_of_eq (congrArg _ h.nextUnit.symm)
  | toggle _ _ _ _ _ _ h => exact Nat.le_of_eq (congrArg _ h.nextUnit.symm)
  | remove _ h => exact Nat.le_of_eq (congrArg _ h.nextUnit.symm)

end World

end Lockstep
