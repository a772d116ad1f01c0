import Lockstep.Proofs.Respects
import Lockstep.Proofs.World.Plan
/-!
# What the operations on the map do

Each operation that writes on the plan either leaves the world as it is or does exactly one write,
all at once: what could still go wrong has been checked before the first cell is touched.
-/

namespace Lockstep

namespace World

variable {w w' : World} {id : UnitId} {b : Body} {t : UnitType} {r : Rect}

/-! ### Cells -/

lemma not_isBlocked {region : Region} (hr : w.occupancy.region? r = some region)
    (h : w.isBlocked r = false) {x y : Nat} {c : Occupancy} (hc : w.occupancy.at? x y = some c)
    (hin : r.contains x y = true) : c.blocks = false := by
  simp only [isBlocked, hr, isRegionBlocked] at h
  exact Grid.not_anyIn h ((mem_cells_of_onMap hr).2 hin) hc

lemma not_isBlockedBut {region : Region} (hr : w.occupancy.region? r = some region)
    (h : w.isBlockedBut r id = false) {x y : Nat} {c : Occupancy}
    (hc : w.occupancy.at? x y = some c) (hin : r.contains x y = true) : c.blocksBut id = false := by
  simp only [isBlockedBut, hr] at h
  exact Grid.not_anyIn h ((mem_cells_of_onMap hr).2 hin) hc

lemma at?_occupy {g : Grid Occupancy} {region : Region} (hr : g.region? r = some region)
    (o : Occupant) (x y : Nat) :
    (occupy g region o).at? x y = (g.at? x y).map fun c =>
      if r.contains x y then { c with occupant := some o } else c := by
  rw [occupy, Grid.at?_modifyIn]
  by_cases h : r.contains x y = true
  · simp only [(Grid.mem_cells_of_region? hr).2 h, h, if_true]
  · simp only [mt (Grid.mem_cells_of_region? hr).1 h, h, if_false, Bool.false_eq_true,
      Option.map_id']

/-- Only the part of a rectangle that lies on the map can be occupied. -/
lemma at?_occupy_clip (g : Grid Occupancy) (r : Rect) (o : Occupant) (x y : Nat) :
    (occupy g (g.clip r) o).at? x y = (g.at? x y).map fun c =>
      if r.contains x y then { c with occupant := some o } else c := by
  simp only [occupy, Grid.at?_modifyIn, Grid.mem_cells_clip]
  cases hc : g.at? x y with
  | none => simp
  | some c =>
    have hlt := Grid.lt_of_at? hc
    simp only [hlt.1, hlt.2, true_and, Option.map_some]
    split <;> rfl

/-- The corner of a region of the map as a pair of words. -/
lemma corner_of_region? {g : Grid Occupancy} {region : Region} (hr : g.region? r = some region)
    (hlt : r.x < 2 ^ 31 ∧ r.y < 2 ^ 31) :
    ((UInt32.ofNat region.x).toNat = r.x.toNat ∧ (UInt32.ofNat region.y).toNat = r.y.toNat) ∧
      r.x.toNat < 2 ^ 31 ∧ r.y.toNat < 2 ^ 31 := by
  obtain ⟨hin, rfl⟩ := Grid.region?_eq_some_iff.1 hr
  simp only [UInt32.toNat_ofNat']
  omega

lemma claim_eq_ok {g g' : Grid Occupancy} {region : Region} {yard : YardMap} {isOpen : Bool}
    (hr : g.region? r = some region) (hlt : r.x < 2 ^ 31 ∧ r.y < 2 ^ 31)
    (h : claim g region yard id isOpen = .ok g') :
    (g'.width = g.width ∧ g'.height = g.height) ∧
      ∀ x y, g'.at? x y = (g.at? x y).map (stamp yard r id isOpen x y) := by
  obtain ⟨⟨hx, hy⟩, hxlt, hylt⟩ := corner_of_region? hr hlt
  obtain ⟨hsize, hat⟩ := Grid.modifyOverlay_eq_ok (hx ▸ hxlt) (hy ▸ hylt) h
  refine ⟨hsize, fun x y => ?_⟩
  rw [hat, hx, hy]
  rfl

lemma not_isYardBlocked {region : Region} {yard : YardMap} {isOpen : Bool}
    (hr : w.occupancy.region? r = some region) (hlt : r.x < 2 ^ 31 ∧ r.y < 2 ^ 31)
    (h : w.isYardBlocked (UInt32.ofNat region.x) (UInt32.ofNat region.y) yard isOpen = .ok false)
    {x y : Nat} {c : Occupancy} {k : YardCell} (hc : w.occupancy.at? x y = some c)
    (hk : yard.covering? r.x.toNat r.y.toNat x y = some k) (hp : k.isPassable isOpen = false) :
    c.occupant = none := by
  obtain ⟨⟨hx, hy⟩, hxlt, hylt⟩ := corner_of_region? hr hlt
  have := Grid.not_anyOverlay (hx ▸ hxlt) (hy ▸ hylt) h hc (by rw [hx, hy]; exact hk)
  simpa [hp] using this

/-! ### Bodies -/

lemma body?_insert {u : UnitState} {other : UnitId} :
    ((w.units.insert id u).get? other).map UnitState.body =
      if other = id then some u.body else w.body? other := by
  rw [SortedTable.get?_insert]
  simp only [Ranked.rank_eq_iff]
  split <;> rfl

lemma body?_modify {f : UnitState → UnitState} {u : UnitState} (hu : w.units.get? id = some u)
    (other : UnitId) :
    ((w.units.modify id f).get? other).map UnitState.body =
      if other = id then some (f u).body else w.body? other := by
  rw [SortedTable.get?_modify]
  simp only [Ranked.rank_eq_iff]
  split
  · rename_i h
    subst h
    simp only [hu, Option.map_some]
  · rfl

lemma unit_eq_ok {u : UnitState} : w.unit id = .ok u ↔ w.units.get? id = some u := by
  rw [World.unit]
  split <;> simp [*]

lemma get?_of_unit_eq_error {cause : Refusal} (h : w.unit id = .error cause) :
    w.units.get? id = none := by
  rw [World.unit] at h
  split at h
  · cases h
  · assumption

lemma unitExists_of_get? {u : UnitState} (hu : w.units.get? id = some u) :
    w.unitExists id = true := by
  rw [unitExists, SortedTable.contains, hu, Option.isSome_some]

/-- Where something of a unit is the same, the unit is there or not there in both worlds. -/
lemma unitExists_congr {β : Type} {f : UnitState → β}
    (h : (w'.units.get? id).map f = (w.units.get? id).map f) :
    w'.unitExists id = w.unitExists id := by
  have hsome := congrArg Option.isSome h
  rwa [Option.isSome_map, Option.isSome_map] at hsome

lemma unitExists_map (w : World) (f : UnitState → UnitState) (id : UnitId) :
    { w with units := w.units.map f }.unitExists id = w.unitExists id := by
  simp [unitExists, SortedTable.contains, SortedTable.map, SortedTable.get?_mapWithKey]

lemma unitExists_modifyUnit (w : World) (f : UnitState → UnitState) (id other : UnitId) :
    (w.modifyUnit id f).unitExists other = w.unitExists other := by
  rw [unitExists, unitExists, modifyUnit, SortedTable.contains, SortedTable.contains,
    SortedTable.get?_modify]
  split <;> simp

lemma updateUnit_on {u : UnitState} (hu : w.units.get? id = some u)
    (f : UnitState → UnitState) :
    (updateUnit id f).on w = (.ok (), w.modifyUnit id f) := by
  simp only [updateUnit, Action.on_get_bind, Action.on_require_bind, unit_eq_ok.2 hu,
    Action.on_modify]

/-! ### Operations -/

/-- A unit is put on the map and answered with the next number, or the world stays as it is. -/
theorem tryAddUnit_cases (u : UnitState) (w : World) :
    (∃ answer, (tryAddUnit u).on w = (answer, w) ∧ ∀ id, answer ≠ .ok (some id)) ∨
      ∃ t r next g w', (tryAddUnit u).on w = (.ok (some ⟨w.nextUnit⟩), w') ∧
        w' = { w with nextUnit := next, units := w.units.insert ⟨w.nextUnit⟩ u, occupancy := g } ∧
        (Placed w w' ⟨w.nextUnit⟩ u.body t r ∨
          ∃ yard, Built w w' ⟨w.nextUnit⟩ u.body t r yard) := by
  simp only [tryAddUnit, Action.on_get_bind, Action.on_require_bind, Action.on_ofExcept_bind]
  cases ht : w.definitions.unitType u.unitType with
  | error cause => exact .inl ⟨_, rfl, nofun⟩
  | ok t =>
  simp only
  cases hf : w.classFootprint u.position t.movement with
  | error failure => exact .inl ⟨_, rfl, nofun⟩
  | ok r =>
  simp only
  cases hb : w.isBlocked r with
  | true => exact .inl ⟨_, rfl, nofun⟩
  | false =>
  simp only [Bool.false_eq_true, if_false]
  cases hr : w.occupancy.region? r with
  | none => exact .inl ⟨_, rfl, nofun⟩
  | some region =>
  simp only [Action.on_require_bind, Action.on_checked_bind]
  cases hy : claimedYardMap t u.unitType with
  | error cause => exact .inl ⟨_, rfl, nofun⟩
  | ok yardMap =>
  cases hn : Overflow.successor w.nextUnit with
  | error cause => exact .inl ⟨_, rfl, nofun⟩
  | ok next =>
  have hstands : Stands w u.body t r := ⟨ht, hf, by simp [hr]⟩
  -- what holds of mobile units and of buildings alike
  have added : ∀ g : Grid Occupancy,
      g.width = w.occupancy.width → g.height = w.occupancy.height →
      Added w { w with nextUnit := next, units := w.units.insert ⟨w.nextUnit⟩ u, occupancy := g }
        ⟨w.nextUnit⟩ u.body t r := fun g hw hh =>
    { ground := ⟨rfl, rfl, hw, hh⟩
      number := rfl
      nextUnit := Overflow.successor_eq_ok hn
      nextFeature := rfl
      bodies := fun _ => body?_insert
      stands := hstands
      free := not_isBlocked hr hb }
  rw [claimedYardMap] at hy
  by_cases hm : t.isMobile = true
  · rw [if_pos hm] at hy
    cases hy
    refine .inr ⟨t, r, next, _, _, rfl, rfl, .inl ?_⟩
    exact { added _ (Grid.width_modifyIn ..) (Grid.height_modifyIn ..) with
      mobile := hm
      cells := at?_occupy hr _ }
  · rw [if_neg hm] at hy
    cases hyard : t.yardMap with
    | none => rw [hyard] at hy; cases hy
    | some yard =>
    rw [hyard] at hy
    cases hy
    simp only [Action.on_checked_bind]
    cases hc : claim w.occupancy region yard ⟨w.nextUnit⟩ u.yardOpen with
    | error cause => exact .inl ⟨_, rfl, nofun⟩
    | ok g =>
    obtain ⟨⟨hw, hh⟩, hat⟩ := claim_eq_ok hr hstands.lt hc
    refine .inr ⟨t, r, next, g, _, rfl, rfl, .inr ⟨yard, ?_⟩⟩
    exact { added g hw hh with
      immobile := by simpa using hm
      yardMap := hyard
      cells := hat }

lemma footprintRegion_eq_ok {region : Region} :
    w.footprintRegion id r = .ok region ↔ w.occupancy.region? r = some region := by
  rw [footprintRegion]
  split <;> simp [*]

lemma vacate_occupant (o : Occupant) (c : Occupancy) :
    (vacate o c).occupant = if c.occupant = some o then none else c.occupant := by
  rw [vacate]
  split <;> rfl

@[simp] lemma vacate_claim (o : Occupant) (c : Occupancy) : (vacate o c).claim = c.claim := by
  rw [vacate]
  split <;> rfl

/-- What a cell holds after a unit has left one rectangle and then occupied another one. -/
lemma at?_occupy_vacate {g : Grid Occupancy} {old new : Rect} {oldRegion newRegion : Region}
    (ho : g.region? old = some oldRegion) (hn : g.region? new = some newRegion) (o : Occupant)
    (x y : Nat) :
    (occupy (g.modifyIn oldRegion (vacate o)) newRegion o).at? x y =
      (g.at? x y).map fun c =>
        if new.contains x y then { c with occupant := some o }
        else if old.contains x y then vacate o c else c := by
  have hn' : (g.modifyIn oldRegion (vacate o)).region? new = some newRegion := by
    rw [← hn, Grid.region?, Grid.width_modifyIn, Grid.height_modifyIn, Grid.region?]
  rw [at?_occupy hn', Grid.at?_modifyIn]
  simp only [Grid.mem_cells_of_region? ho]
  cases g.at? x y with
  | none => simp
  | some c =>
    by_cases hnew : new.contains x y = true <;> by_cases hold : old.contains x y = true
    all_goals simp only [hnew, hold, if_true, if_false, Option.map_some, Bool.false_eq_true]
    -- a vacated cell that is occupied at once keeps its claim
    rw [vacate_claim]

/-- The world after a unit has moved to a place, from one region of the map to another one. -/
def relocate (w : World) (id : UnitId) (position : Vector3) (old new : Region) : World :=
  { w with
    units := w.units.modify id fun u => { u with position := position }
    occupancy := occupy (w.occupancy.modifyIn old (vacate (.unit id))) new (.unit id) }

/-- A mobile unit on the map moves if nothing but itself is in the way, and else it stays. -/
lemma tryMoveUnit_on {u : UnitState} {position : Vector3} {old new : Rect} {oldRegion : Region}
    (hu : w.units.get? id = some u)
    (ht : w.definitions.unitType u.unitType = .ok t) (hm : t.isMobile = true)
    (hold : w.classFootprint u.position t.movement = .ok old)
    (hregion : w.occupancy.region? old = some oldRegion)
    (hnew : w.classFootprint position t.movement = .ok new) :
    w.isBlockedBut new id = true ∧ (tryMoveUnit id position).on w = (.ok false, w) ∨
      w.isBlockedBut new id = false ∧ ∃ newRegion, w.occupancy.region? new = some newRegion ∧
        (tryMoveUnit id position).on w =
          (.ok true, w.relocate id position oldRegion newRegion) := by
  simp only [tryMoveUnit, Action.on_get_bind, Action.on_require_bind, unit_eq_ok.2 hu, ht, hm,
    Bool.not_true, Bool.false_eq_true, if_false, Action.on_ofExcept_bind, hold, hnew]
  cases hb : w.isBlockedBut new id with
  | true => exact .inl ⟨rfl, rfl⟩
  | false =>
  cases hn : w.occupancy.region? new with
  | none => simp [isBlockedBut, hn] at hb
  | some newRegion =>
  refine .inr ⟨rfl, newRegion, rfl, ?_⟩
  let g := occupy (w.occupancy.modifyIn oldRegion (vacate (.unit id))) newRegion (.unit id)
  have hupdate := updateUnit_on (w := { w with occupancy := g }) hu fun u =>
    { u with position := position }
  simp only [Bool.false_eq_true, if_false, moveOccupiedArea]
  rw [Action.on_bind]
  simp only [Action.on_get_bind, Action.on_require_bind, footprintRegion_eq_ok.2 hregion,
    footprintRegion_eq_ok.2 hn, Action.on_set]
  rw [Action.on_bind, hupdate]
  rfl

/-- A unit is moved, which is answered, or the world stays as it is. -/
theorem tryMoveUnit_cases (id : UnitId) (position : Vector3) (w : World) :
    ((tryMoveUnit id position).on w).2 = w ∨
      ∃ b t old new g, ((tryMoveUnit id position).on w).1 = .ok true ∧
        ((tryMoveUnit id position).on w).2 =
          { w with
            units := w.units.modify id fun u => { u with position := position }, occupancy := g } ∧
        Moved w ((tryMoveUnit id position).on w).2 id b position t old new := by
  simp only [tryMoveUnit, Action.on_get_bind, Action.on_require_bind]
  cases hu : w.unit id with
  | error cause => exact .inl rfl
  | ok u =>
  simp only
  cases ht : w.definitions.unitType u.unitType with
  | error cause => exact .inl rfl
  | ok t =>
  simp only
  cases hm : t.isMobile with
  | false => exact .inl rfl
  | true =>
  simp only [Bool.not_true, Bool.false_eq_true, if_false, Action.on_ofExcept_bind]
  cases hold : w.classFootprint u.position t.movement with
  | error failure => exact .inl rfl
  | ok old =>
  simp only
  cases hnew : w.classFootprint position t.movement with
  | error failure => exact .inl rfl
  | ok new =>
  simp only
  cases hb : w.isBlockedBut new id with
  | true => exact .inl rfl
  | false =>
  simp only [Bool.false_eq_true, if_false, moveOccupiedArea]
  rw [Action.on_bind]
  simp only [Action.on_get_bind, Action.on_require_bind]
  cases ho : w.footprintRegion id old with
  | error cause => exact .inl rfl
  | ok oldRegion =>
  simp only
  cases hn : w.footprintRegion id new with
  | error cause => exact .inl rfl
  | ok newRegion =>
  have hu' := unit_eq_ok.1 hu
  have ho' := footprintRegion_eq_ok.1 ho
  have hn' := footprintRegion_eq_ok.1 hn
  let g := occupy (w.occupancy.modifyIn oldRegion (vacate (.unit id))) newRegion (.unit id)
  -- the unit is still there when its place is to be changed
  have hupdate := updateUnit_on (w := { w with occupancy := g }) hu' fun u =>
    { u with position := position }
  simp only [Action.on_set]
  rw [Action.on_bind, hupdate]
  refine .inr ⟨u.body, t, old, new, g, rfl, rfl, ?_⟩
  exact
    { ground := ⟨rfl, rfl, by simp [g, occupy, modifyUnit], by simp [g, occupy, modifyUnit]⟩
      nextUnit := rfl
      nextFeature := rfl
      body := body?_eq_some_iff.2 ⟨u, hu', rfl⟩
      bodies := body?_modify hu'
      before := ⟨ht, hold, by simp [ho']⟩
      after := ⟨ht, hnew, by simp [hn']⟩
      mobile := hm
      free := not_isBlockedBut hn' hb
      cells := at?_occupy_vacate ho' hn' _ }

lemma respects_tryMoveUnit {R : World → World → Prop} [IsPreorder World R] {position : Vector3}
    (hmove : ∀ (w : World) g, R w { w with
      units := w.units.modify id fun u => { u with position := position }, occupancy := g }) :
    Respects R (tryMoveUnit id position) := by
  intro w
  show R w ((tryMoveUnit id position).on w).2
  rcases tryMoveUnit_cases id position w with h | ⟨b, t, old, new, g, -, h, -⟩
  · rw [h]
    exact refl_of R w
  · rw [h]
    exact hmove w g

/-- A yard is opened or closed, which is answered, or the world stays as it is. -/
theorem trySetYardOpen_cases (id : UnitId) (isOpen : Bool) (w : World) :
    ((trySetYardOpen id isOpen).on w).2 = w ∧ ((trySetYardOpen id isOpen).on w).1 ≠ .ok true ∨
      ∃ b t r yard g, ((trySetYardOpen id isOpen).on w).1 = .ok true ∧
        ((trySetYardOpen id isOpen).on w).2 =
          { w with
            units := w.units.modify id fun u => { u with yardOpen := isOpen }, occupancy := g } ∧
        Toggled w ((trySetYardOpen id isOpen).on w).2 id b isOpen t r yard := by
  simp only [trySetYardOpen, Action.on_get_bind, Action.on_ofExcept_bind, Action.on_require_bind]
  cases hr : w.unitFootprint id with
  | error failure => exact .inl ⟨rfl, by rintro ⟨⟩⟩
  | ok r =>
  simp only
  cases hu : w.unit id with
  | error cause => exact .inl ⟨rfl, by rintro ⟨⟩⟩
  | ok u =>
  simp only
  cases ht : w.definitions.unitType u.unitType with
  | error cause => exact .inl ⟨rfl, by rintro ⟨⟩⟩
  | ok t =>
  simp only
  cases hyard : t.yardMap with
  | none => exact .inl ⟨rfl, by rintro ⟨⟩⟩
  | some yard =>
  simp only [Action.on_require_bind, Action.on_checked_bind]
  cases hregion : w.footprintRegion id r with
  | error cause => exact .inl ⟨rfl, by rintro ⟨⟩⟩
  | ok region =>
  simp only
  cases hb : w.isYardBlocked (UInt32.ofNat region.x) (UInt32.ofNat region.y) yard isOpen with
  | error cause => exact .inl ⟨rfl, by rintro ⟨⟩⟩
  | ok blocked =>
  cases blocked with
  | true => exact .inl ⟨rfl, by rintro ⟨⟩⟩
  | false =>
  simp only [Bool.false_eq_true, if_false, Action.on_checked_bind]
  cases hc : claim w.occupancy region yard id isOpen with
  | error cause => exact .inl ⟨rfl, by rintro ⟨⟩⟩
  | ok g =>
  have hu' := unit_eq_ok.1 hu
  have hregion' := footprintRegion_eq_ok.1 hregion
  have hstands := stands_of_unitFootprint hu' ht hr (by simp [hregion'])
  obtain ⟨⟨hw, hh⟩, hat⟩ := claim_eq_ok hregion' hstands.lt hc
  have hupdate := updateUnit_on (w := { w with occupancy := g }) hu' fun u =>
    { u with yardOpen := isOpen }
  simp only [Action.on_set_bind]
  rw [Action.on_bind, hupdate]
  refine .inr ⟨u.body, t, r, yard, g, rfl, rfl, ?_⟩
  exact
    { ground := ⟨rfl, rfl, hw, hh⟩
      nextUnit := rfl
      nextFeature := rfl
      body := body?_eq_some_iff.2 ⟨u, hu', rfl⟩
      bodies := body?_modify hu'
      stands := hstands
      yardMap := hyard
      free := not_isYardBlocked hregion' hstands.lt hb
      cells := hat }

/-- A unit that is in the world is taken off the map. -/
theorem removed_removeUnit (h : w.unitExists id = true) : Removed w (w.removeUnit id) id := by
  simp only [removeUnit, h, if_true]
  exact
    { ground := ⟨rfl, rfl, rfl, rfl⟩
      nextUnit := rfl
      nextFeature := rfl
      bodies := fun other => by
        simp only [body?, SortedTable.get?_erase, Ranked.rank_eq_iff]
        split <;> rfl
      cells := Grid.at?_map _ _ }

/-- A feature is put on the map and answered with the next number, or the world stays as it is. -/
theorem addFeature_cases (t : FeatureType) (f : Feature) (w : World) :
    (∃ answer, (addFeature t f).on w = (answer, w) ∧ ∀ id : FeatureId, answer ≠ .ok (some id)) ∨
      ∃ r, w.footprint f.position t.width t.depth = .ok r ∧
        ((addFeature t f).on w).1 = .ok (some ⟨w.nextFeature⟩) ∧
        (∃ next features occupancy metal, ((addFeature t f).on w).2 = { w with
          nextFeature := next, features := features, occupancy := occupancy, metal := metal }) ∧
        Landed w ((addFeature t f).on w).2 ⟨w.nextFeature⟩ t r := by
  simp only [addFeature, Action.on_get_bind, Action.on_checked_bind]
  cases hf : w.footprint f.position t.width t.depth with
  | error cause => exact .inl ⟨.error (.halt (.overflow cause)), rfl, fun _ => nofun⟩
  | ok r =>
  simp only
  cases hb : t.blocking && w.isRegionBlocked (w.occupancy.clip r) with
  | true => exact .inl ⟨.ok none, rfl, fun _ => nofun⟩
  | false =>
  simp only [Bool.false_eq_true, if_false, Action.on_checked_bind]
  cases hn : Overflow.successor w.nextFeature with
  | error cause => exact .inl ⟨.error (.halt (.overflow cause)), rfl, fun _ => nofun⟩
  | ok next =>
  simp only [Action.on_set_bind]
  refine .inr ⟨r, rfl, rfl, ⟨_, _, _, _, rfl⟩, ?_⟩
  exact
    { ground := ⟨rfl, rfl, by split <;> simp [occupy], by split <;> simp [occupy]⟩
      number := rfl
      nextFeature := Overflow.successor_eq_ok hn
      nextUnit := rfl
      bodies := fun _ => rfl
      free := fun hblocking x y c hc hin => by
        rw [hblocking, Bool.true_and] at hb
        have hlt := Grid.lt_of_at? hc
        exact Grid.not_anyIn hb (Grid.mem_cells_clip.2 ⟨hlt.1, hlt.2, hin⟩) hc
      cells := fun x y => by
        simp only [Action.on_pure]
        cases t.blocking with
        | false => simp
        | true => simpa using at?_occupy_clip w.occupancy r _ x y }

lemma respects_addFeature {R : World → World → Prop} [IsPreorder World R]
    (hland : ∀ (w : World) next features occupancy metal, R w { w with
      nextFeature := next, features := features, occupancy := occupancy, metal := metal })
    (t : FeatureType) (f : Feature) : Respects R (addFeature t f) := by
  intro w
  show R w ((addFeature t f).on w).2
  rcases addFeature_cases t f w with ⟨answer, hon, -⟩ | ⟨r, -, -, ⟨_, _, _, _, hon⟩, -⟩
  · rw [hon]
    exact refl_of R w
  · rw [hon]
    exact hland w _ _ _ _

end World

end Lockstep
