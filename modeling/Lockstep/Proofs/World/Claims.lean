import Lockstep.Proofs.World.Occupants
import Lockstep.Proofs.World.Stamps
/-!
# Who claims a cell

Passable claims are not in the way of anybody, so that buildings can have cells in common, and a
unit of a mobile type can operate its yard on the cells of a building.  A cell carries one claim
only, that of the stamp that was laid over it last (`claimOf?`); when the unit of that stamp is
taken off the map, the cell is left without a claim, whoever else has a yard cell there.

So a building claims its cells for as long as nobody else lays a yard map over them.  The invariant
of a battle is `Claimed`, and the result `claims_are_last_stamps`.
-/

namespace Lockstep.World

variable {s : Setup} {past : List Step} {w w' : World} {id : UnitId} {b b' : Body} {t : UnitType}
  {r : Rect} {yard : YardMap} {x y : Nat} {c c' : Occupancy} {k : Claim} {g : Option Stamp}
  {l l' : List Stamp}

/-! ### The last stamp over a cell -/

/-- The claim that some stamps leave on a cell in the end, if one of them is over it. -/
def claimOf? (l : List Stamp) (x y : Nat) : Option Claim :=
  (l.filterMap fun g => g.claim? x y).getLast?

lemma claimOf?_append (l l' : List Stamp) (x y : Nat) :
    claimOf? (l ++ l') x y = (claimOf? l' x y).or (claimOf? l x y) := by
  rw [claimOf?, List.filterMap_append, List.getLast?_append]
  rfl

lemma claimOf?_singleton (g : Stamp) (x y : Nat) : claimOf? [g] x y = g.claim? x y := by
  cases h : g.claim? x y <;> simp [claimOf?, h]

lemma claimOf?_eq_none_iff : claimOf? l x y = none ↔ ∀ g ∈ l, g.claim? x y = none := by
  rw [claimOf?, List.getLast?_eq_none_iff, List.filterMap_eq_nil_iff]

lemma exists_of_claimOf? (h : claimOf? l x y = some k) : ∃ g ∈ l, g.claim? x y = some k :=
  List.mem_filterMap.1 (List.mem_of_getLast? h)

lemma Stamp.unit_of_claim? {g : Stamp} (h : g.claim? x y = some k) : k.unit = g.unit := by
  obtain ⟨cell, -, rfl⟩ := Option.map_eq_some_iff.1 h
  rfl

lemma Stamp.claim?_of_covering {g : Stamp} {cell : YardCell}
    (h : g.yard.covering? g.place.x.toNat g.place.y.toNat x y = some cell) :
    g.claim? x y = some ⟨g.unit, cell.isPassable g.isOpen⟩ := by
  rw [Stamp.claim?, h, Option.map_some]

lemma unit_ne_of_claimOf? (hl : ∀ g ∈ l, g.unit ≠ id) (h : claimOf? l x y = some k) :
    k.unit ≠ id := by
  obtain ⟨g, hg, hclaim⟩ := exists_of_claimOf? h
  rw [Stamp.unit_of_claim? hclaim]
  exact hl g hg

/-- What comes before a stamp that is over a cell makes no difference to the cell. -/
lemma claimOf?_of_mem {g : Stamp} (hg : g.claim? x y = some k) (earlier later : List Stamp) :
    claimOf? (earlier ++ g :: later) x y = (claimOf? later x y).or (some k) := by
  rw [← List.singleton_append, claimOf?_append, claimOf?_append, claimOf?_singleton, hg,
    Option.or_assoc, Option.some_or]

lemma claim_stamp (g : Stamp) (x y : Nat) (c : Occupancy) :
    (stamp g.yard g.place g.unit g.isOpen x y c).claim = (g.claim? x y).or c.claim := by
  rw [stamp_claim, Stamp.claim?]
  cases g.yard.covering? g.place.x.toNat g.place.y.toNat x y <;> rfl

/-! ### What a write does -/

namespace Write

/-- A write concerns units, or it puts a feature on the map. -/
lemma change_or_landed (h : Write w w' g) : Change w w' ∨ ∃ id t r, Landed w w' id t r := by
  cases h with
  | calm h => exact .inl (.calm h)
  | place h => exact .inl (.place _ _ _ _ h)
  | build h => exact .inl (.build _ _ _ _ _ h)
  | move h => exact .inl (.move _ _ _ _ _ _ h)
  | toggle h => exact .inl (.toggle _ _ _ _ _ _ h)
  | remove h => exact .inl (.remove _ h)
  | land h => exact .inr ⟨_, _, _, h⟩

lemma ground (h : Write w w' g) : SameGround w w' := by
  rcases h.change_or_landed with h | ⟨_, _, _, h⟩
  · exact h.ground
  · exact h.ground

lemma ordered (h : Write w w' g) (hw : Ordered w) : Ordered w' := by
  rcases h.change_or_landed with h | ⟨_, _, _, h⟩
  · exact hw.change h
  · exact hw.land h

lemma nextUnit_le (h : Write w w' g) : w.nextUnit.toNat ≤ w'.nextUnit.toNat := by
  rcases h.change_or_landed with h | ⟨_, _, _, h⟩
  · exact h.nextUnit_le
  · rw [h.nextUnit]

/-- A unit that leaves a stamp is in the world. -/
lemma isSome_body? {g : Stamp} (h : Write w w' (some g)) : (w'.body? g.unit).isSome := by
  cases h with
  | build h | toggle h => simp [h.bodies]

/-- A unit whose number was given out before, and that is in the world afterwards, was there. -/
lemma isSome_before (h : Write w w' g) (hid : id.val.toNat < w.nextUnit.toNat)
    (hsome : (w'.body? id).isSome) : (w.body? id).isSome := by
  have added : ∀ {new b t r}, Added w w' new b t r → (w.body? id).isSome := fun {new b t r} h => by
    have hne : id ≠ new := by
      rintro rfl
      rw [h.number] at hid
      exact Nat.lt_irrefl _ hid
    rwa [h.bodies, if_neg hne] at hsome
  cases h with
  | place h => exact added h.toAdded
  | build h => exact added h.toAdded
  | calm h | land h => rwa [h.bodies] at hsome
  | @move id' _ _ _ _ _ h | @toggle id' _ _ _ _ _ h =>
    by_cases heq : id = id'
    · rw [heq, h.body]
      rfl
    · rwa [h.bodies, if_neg heq] at hsome
  | @remove id' h =>
    by_cases heq : id = id'
    · rw [h.bodies, if_pos heq] at hsome
      cases hsome
    · rwa [h.bodies, if_neg heq] at hsome

/-- A stamp takes the cells that it is over; other claims stay for as long as their units are in the
world. -/
lemma claim_eq (h : Write w w' g) (hc' : w'.occupancy.at? x y = some c')
    (hw : ∀ {c k}, w.occupancy.at? x y = some c → c.claim = some k → (w.body? k.unit).isSome) :
    ∃ c, w.occupancy.at? x y = some c ∧
      c'.claim = (claimOf? g.toList x y).or
        (c.claim.filter fun k => (w'.body? k.unit).isSome) := by
  have kept : ∀ {c}, w.occupancy.at? x y = some c →
      (∀ id, (w.body? id).isSome → (w'.body? id).isSome) →
      (c.claim.filter fun k => (w'.body? k.unit).isSome) = c.claim := fun {c} hc hbodies => by
    cases hk : c.claim with
    | none => rfl
    | some k => rw [Option.filter_some, if_pos (hbodies k.unit (hw hc hk))]
  have added : ∀ {id b t r}, Added w w' id b t r →
      ∀ other, (w.body? other).isSome → (w'.body? other).isSome := fun h other hsome => by
    rw [h.bodies]
    split
    · rfl
    · exact hsome
  cases h with
  | calm h =>
    rw [h.occupancy] at hc'
    exact ⟨c', hc', (kept hc' fun id hsome => h.bodies id ▸ hsome).symm⟩
  | place h =>
    obtain ⟨c, hc, rfl⟩ := cell_before (h.cells x y) hc'
    refine ⟨c, hc, ?_⟩
    rw [kept hc (added h.toAdded)]
    split <;> rfl
  | @build id b t r yard h =>
    obtain ⟨c, hc, rfl⟩ := cell_before (h.cells x y) hc'
    refine ⟨c, hc, ?_⟩
    rw [kept hc (added h.toAdded), Option.toList_some, claimOf?_singleton]
    exact claim_stamp ⟨id, r, yard, b.yardOpen⟩ x y c
  | move h =>
    obtain ⟨c, hc, rfl⟩ := cell_before (h.cells x y) hc'
    refine ⟨c, hc, ?_⟩
    rw [kept hc fun other hsome => by rw [h.bodies]; split <;> trivial]
    split
    · rfl
    · split
      · exact vacate_claim _ c
      · rfl
  | @toggle id b isOpen t r yard h =>
    obtain ⟨c, hc, rfl⟩ := cell_before (h.cells x y) hc'
    refine ⟨c, hc, ?_⟩
    rw [kept hc fun other hsome => by rw [h.bodies]; split <;> trivial, Option.toList_some,
      claimOf?_singleton]
    exact claim_stamp ⟨id, r, yard, isOpen⟩ x y c
  | @remove id h =>
    obtain ⟨c, hc, rfl⟩ := cell_before (h.cells x y) hc'
    refine ⟨c, hc, ?_⟩
    rw [release]
    cases hk : c.claim with
    | none => rfl
    | some k =>
      have hsome := hw hc hk
      simp only [Option.filter_some, h.bodies]
      by_cases hunit : k.unit = id <;> simp [hunit, hsome, claimOf?]
  | land h =>
    obtain ⟨c, hc, rfl⟩ := cell_before (h.cells x y) hc'
    refine ⟨c, hc, ?_⟩
    rw [kept hc fun id hsome => by rwa [h.bodies]]
    split <;> rfl

/-- A building that is in the world after a write either was there before and has not left a stamp,
or has left one; then it is new, or it stays what it is and where it is. -/
lemma building_cases (h : Write w w' g) (hb : w'.body? id = some b)
    (ht : w'.definitions.unitType b.unitType = .ok t) (hm : t.isMobile = false) :
    (w.body? id = some b ∧ ∀ s ∈ g.toList, s.unit ≠ id) ∨
      ∃ r yard, Stands w b t r ∧ t.yardMap = some yard ∧ g = some ⟨id, r, yard, b.yardOpen⟩ ∧
        (w.nextUnit = id.val ∨ ∃ b₀, w.body? id = some b₀ ∧ b₀.unitType = b.unitType ∧
          b₀.position = b.position) := by
  cases h with
  | calm h | land h =>
    rw [h.bodies] at hb
    exact .inl ⟨hb, by simp⟩
  | @place id' b' t' r h =>
    rw [h.bodies] at hb
    split at hb
    · cases hb
      rw [h.ground.definitions, h.stands.unitType] at ht
      cases ht
      rw [h.mobile] at hm
      cases hm
    · exact .inl ⟨hb, by simp⟩
  | @build id' b' t' r yard h =>
    rw [h.bodies] at hb
    split at hb
    · rename_i heq
      cases hb
      subst heq
      rw [h.ground.definitions, h.stands.unitType] at ht
      cases ht
      exact .inr ⟨r, yard, h.stands, h.yardMap, rfl, .inl h.number⟩
    · refine .inl ⟨hb, ?_⟩
      rintro s hs rfl
      cases Option.mem_toList.1 hs
      contradiction
  | @move id' b' position t' old new h =>
    rw [h.bodies] at hb
    split at hb
    · cases hb
      rw [h.ground.definitions, h.after.unitType] at ht
      cases ht
      rw [h.mobile] at hm
      cases hm
    · exact .inl ⟨hb, by simp⟩
  | @toggle id' b' isOpen t' r yard h =>
    rw [h.bodies] at hb
    split at hb
    · rename_i heq
      cases hb
      subst heq
      have hs := h.stands
      rw [h.ground.definitions, hs.unitType] at ht
      cases ht
      exact .inr ⟨r, yard, ⟨hs.unitType, hs.footprint, hs.onMap⟩, h.yardMap, rfl,
        .inr ⟨b', h.body, rfl, rfl⟩⟩
    · refine .inl ⟨hb, ?_⟩
      rintro s hs rfl
      cases Option.mem_toList.1 hs
      contradiction
  | @remove id' h =>
    rw [h.bodies] at hb
    split at hb
    · cases hb
    · exact .inl ⟨hb, by simp⟩

end Write

/-! ### Runs -/

/-- All stamps of a building lie where it stands, and the last one shows its yard as it is. -/
structure Stamped (l : List Stamp) (w : World) (id : UnitId) (b : Body) (t : UnitType) (r : Rect)
    (yard : YardMap) : Prop where
  stands : Stands w b t r
  yardMap : t.yardMap = some yard
  places : ∀ g ∈ l, g.unit = id → g.place = r ∧ g.yard = yard
  last : ∃ earlier later, l = earlier ++ ⟨id, r, yard, b.yardOpen⟩ :: later ∧
    ∀ g ∈ later, g.unit ≠ id

/-- Stamps that were left come from units with numbers that have been given out; each cell has the
claim of the stamp that was laid over it last, while the unit of that is in the world; and each
building has left its stamp. -/
structure Claimed (l : List Stamp) (w : World) : Prop extends Ordered w where
  numbers : ∀ g ∈ l, g.unit.val.toNat < w.nextUnit.toNat
  claims : ∀ {x y c}, w.occupancy.at? x y = some c →
    c.claim = (claimOf? l x y).filter fun k => (w.body? k.unit).isSome
  buildings : ∀ {id b t}, w.body? id = some b → w.definitions.unitType b.unitType = .ok t →
    t.isMobile = false → ∃ r yard, Stamped l w id b t r yard

namespace Stamped

/-- The stamps of other units change nothing. -/
lemma append (h : Stamped l w id b t r yard) (hground : SameGround w w')
    (hl' : ∀ g ∈ l', g.unit ≠ id) : Stamped (l ++ l') w' id b t r yard where
  stands := h.stands.congr hground
  yardMap := h.yardMap
  places g hg hunit := by
    rcases List.mem_append.1 hg with hg | hg
    · exact h.places g hg hunit
    · exact absurd hunit (hl' g hg)
  last := by
    obtain ⟨earlier, later, rfl, hlater⟩ := h.last
    refine ⟨earlier, later ++ l', by simp, fun g hg => ?_⟩
    exact (List.mem_append.1 hg).elim (hlater g) (hl' g)

/-- A stamp that is left by now is the last one. -/
lemma concat (hs : Stands w b t r) (hyard : t.yardMap = some yard)
    (hl : ∀ g ∈ l, g.unit = id → g.place = r ∧ g.yard = yard) :
    Stamped (l ++ [⟨id, r, yard, b.yardOpen⟩]) w id b t r yard where
  stands := hs
  yardMap := hyard
  places g hg hunit := by
    rcases List.mem_append.1 hg with hg | hg
    · exact hl g hg hunit
    · cases List.mem_singleton.1 hg
      exact ⟨rfl, rfl⟩
  last := ⟨l, [], rfl, by simp⟩

/-- A claim of the unit is that of its last stamp. -/
lemma yard_of_claimOf? (h : Stamped l w id b t r yard) (hk : claimOf? l x y = some k)
    (hunit : k.unit = id) : ∃ cell, yard.covering? r.x.toNat r.y.toNat x y = some cell ∧
      k.passable = cell.isPassable b.yardOpen := by
  obtain ⟨g, hg, hclaim⟩ := exists_of_claimOf? hk
  obtain ⟨cell, hcell, -⟩ := Option.map_eq_some_iff.1 hclaim
  -- all stamps of the unit are over the same cells
  obtain ⟨hplace, hyard⟩ := h.places g hg ((Stamp.unit_of_claim? hclaim).symm.trans hunit)
  rw [hplace, hyard] at hcell
  have hown := Stamp.claim?_of_covering (g := ⟨id, r, yard, b.yardOpen⟩) hcell
  obtain ⟨earlier, later, rfl, hlater⟩ := h.last
  rw [claimOf?_of_mem hown] at hk
  refine ⟨cell, hcell, ?_⟩
  cases hlast : claimOf? later x y with
  | some k' =>
    rw [hlast] at hk
    cases hk
    exact absurd hunit (unit_ne_of_claimOf? hlater hlast)
  | none =>
    rw [hlast] at hk
    cases hk
    rfl

end Stamped

namespace Claimed

lemma write (hw : Claimed l w) (h : Write w w' g) : Claimed (l ++ g.toList) w' where
  toOrdered := h.ordered hw.toOrdered
  numbers s hs := by
    rcases List.mem_append.1 hs with hs | hs
    · exact Nat.lt_of_lt_of_le (hw.numbers s hs) h.nextUnit_le
    · cases Option.mem_toList.1 hs
      obtain ⟨b, hb⟩ := Option.isSome_iff_exists.1 h.isSome_body?
      exact (h.ordered hw.toOrdered).numbered hb
  claims := by
    intro x y c' hc'
    have hclaimed : ∀ {c k}, w.occupancy.at? x y = some c → c.claim = some k →
        (w.body? k.unit).isSome := fun hc hk => by
      rw [hw.claims hc] at hk
      exact (Option.filter_eq_some_iff.1 hk).2
    obtain ⟨c, hc, hclaim⟩ := h.claim_eq hc' hclaimed
    rw [hclaim, hw.claims hc, claimOf?_append]
    cases hg : claimOf? g.toList x y with
    | some k =>
      obtain ⟨s, hs, hk⟩ := exists_of_claimOf? hg
      cases Option.mem_toList.1 hs
      have hsome := h.isSome_body?
      rw [← Stamp.unit_of_claim? hk] at hsome
      simp only [Option.some_or, Option.filter_some, hsome, if_true]
    | none =>
      simp only [Option.none_or]
      cases hl : claimOf? l x y with
      | none => rfl
      | some k =>
        obtain ⟨s, hs, hk⟩ := exists_of_claimOf? hl
        have hbefore := h.isSome_before (hw.numbers s hs)
        rw [← Stamp.unit_of_claim? hk] at hbefore
        -- nobody comes back to the world
        rw [Option.filter_filter, Option.filter_some, Option.filter_some]
        cases hsome : (w'.body? k.unit).isSome with
        | true => rw [hbefore hsome, Bool.and_true]
        | false => rw [Bool.and_false]
  buildings := by
    intro id b t hb ht hm
    rcases h.building_cases hb ht hm with ⟨hb, hg⟩ | ⟨r, yard, hs, hyard, rfl, hbefore⟩
    · obtain ⟨r, yard, hstamped⟩ := hw.buildings hb (h.ground.definitions ▸ ht) hm
      exact ⟨r, yard, hstamped.append h.ground hg⟩
    · refine ⟨r, yard, .concat (hs.congr h.ground) hyard fun s hs' hunit => ?_⟩
      rcases hbefore with hnumber | ⟨b₀, hb₀, htype, hplace⟩
      · -- nobody has had this number before
        have hlt := hw.numbers s hs'
        rw [hunit, hnumber] at hlt
        exact absurd hlt (Nat.lt_irrefl _)
      · obtain ⟨r₀, yard₀, hstamped⟩ := hw.buildings hb₀ (htype ▸ hs.unitType) hm
        obtain ⟨-, rfl⟩ := hs.eq hstamped.stands htype hplace
        have hsame := hstamped.yardMap
        rw [hyard] at hsame
        cases hsame
        exact hstamped.places s hs' hunit

/-- The induction is on the writes. -/
lemma writes (hw : Claimed l w) (h : Writes w l' w') : Claimed (l ++ l') w' := by
  induction h with
  | refl => rwa [List.append_nil]
  | tail _ write ih =>
    rw [← List.append_assoc]
    exact ih.write write

lemma initial (h : Initial s w) : Claimed [] w where
  numbered hb := by
    rw [h.body?_eq_none] at hb
    cases hb
  standing hb := by
    rw [h.body?_eq_none] at hb
    cases hb
  numbers _ hg := absurd hg List.not_mem_nil
  claims hc := by
    rw [h.cells hc]
    rfl
  buildings hb := by
    rw [h.body?_eq_none] at hb
    cases hb

end Claimed

theorem Run.claimed (h : Run s past w) : Claimed (stamps past) w := by
  obtain ⟨start, hstart, hwrites⟩ := h.writes
  have hclaimed := (Claimed.initial (initial_new hstart)).writes hwrites
  rwa [List.nil_append] at hclaimed

/-! ### What holds of all battles -/

/-- The yard map of a unit, laid with its corner at that of the footprint of the unit, has a yard
cell over a cell of the map. -/
def YardOver (w : World) (id : UnitId) (x y : Nat) (k : YardCell) : Prop :=
  ∃ u t yard r, w.units.get? id = some u ∧ w.definitions.unitType u.unitType = .ok t ∧
    t.yardMap = some yard ∧ w.unitFootprint id = .ok r ∧
    yard.covering? r.x.toNat r.y.toNat x y = some k

namespace Claimed

lemma claim_eq (hw : Claimed l w) (hc : w.occupancy.at? x y = some c) :
    c.claim = (claimOf? l x y).filter fun k => w.unitExists k.unit := by
  have hsome : ∀ id, (w.body? id).isSome = w.unitExists id := fun _ => Option.isSome_map
  simp only [hw.claims hc, hsome]

/-- A unit in the world claims a cell below its yard map if and only if no stamp is laid over the
cell after its own. -/
lemma claim_iff {isOpen : Bool} {cell : YardCell} {earlier later : List Stamp}
    (hw : Claimed (earlier ++ ⟨id, r, yard, isOpen⟩ :: later) w) (hid : w.unitExists id = true)
    (hlater : ∀ g ∈ later, g.unit ≠ id) (hc : w.occupancy.at? x y = some c)
    (hcell : yard.covering? r.x.toNat r.y.toNat x y = some cell) :
    c.claim = some ⟨id, cell.isPassable isOpen⟩ ↔ ∀ g ∈ later, g.claim? x y = none := by
  have hown := Stamp.claim?_of_covering (g := ⟨id, r, yard, isOpen⟩) hcell
  rw [hw.claim_eq hc, ← claimOf?_eq_none_iff, claimOf?_of_mem hown]
  cases hlast : claimOf? later x y with
  | none => simp [Option.filter_some, hid]
  | some k =>
    -- a later stamp over the cell is one of another unit
    have hne : k ≠ ⟨id, cell.isPassable isOpen⟩ := by
      rintro rfl
      exact unit_ne_of_claimOf? hlater hlast rfl
    simp [Option.filter_some, hne]

/-- A claim belongs to a unit in the world, and that of a building is as its yard is. -/
lemma exists_of_claim (hw : Claimed l w) (hc : w.occupancy.at? x y = some c)
    (hk : c.claim = some k) :
    ∃ u t, w.units.get? k.unit = some u ∧ w.definitions.unitType u.unitType = .ok t ∧
      (t.isMobile = false →
        ∃ cell, YardOver w k.unit x y cell ∧ k.passable = cell.isPassable u.yardOpen) := by
  rw [hw.claims hc] at hk
  obtain ⟨hk, hsome⟩ := Option.filter_eq_some_iff.1 hk
  obtain ⟨b, hb⟩ := Option.isSome_iff_exists.1 hsome
  obtain ⟨u, hu, rfl⟩ := body?_eq_some_iff.1 hb
  obtain ⟨t, r₀, hs⟩ := hw.standing hb
  refine ⟨u, t, hu, hs.unitType, fun hm => ?_⟩
  obtain ⟨r, yard, hstamped⟩ := hw.buildings hb hs.unitType hm
  obtain ⟨cell, hcell, hpassable⟩ := hstamped.yard_of_claimOf? hk rfl
  exact ⟨cell, ⟨u, t, yard, r, hu, hs.unitType, hstamped.yardMap,
    unitFootprint_eq_ok hu hstamped.stands, hcell⟩, hpassable⟩

end Claimed

/-- The cell of the map below a yard cell of a building. -/
lemma Stands.exists_cell {i j : Nat} {k : YardCell} (hs : Stands w b t r)
    (hd : w.definitions.Fitting) (hm : t.isMobile = false) (hyard : t.yardMap = some yard)
    (hk : yard.at? i j = some k) :
    ∃ c, w.occupancy.get? (r.x + i) (r.y + j) = some c ∧
      w.occupancy.at? (r.x.toNat + i) (r.y.toNat + j) = some c := by
  have hcover : yard.covering? r.x.toNat r.y.toNat (r.x.toNat + i) (r.y.toNat + j) = some k :=
    Grid.covering?_eq_some_iff.2 ⟨i, j, rfl, rfl, hk⟩
  have hin := hs.contains_of_covering? hd hm hyard hcover
  obtain ⟨region, hregion⟩ := Option.isSome_iff_exists.1 hs.onMap
  obtain ⟨hx, hy⟩ := Grid.lt_of_mem_region? hregion ((mem_cells_of_onMap hregion).2 hin)
  obtain ⟨c, hc⟩ := Grid.exists_at? hx hy
  refine ⟨c, ?_, hc⟩
  obtain ⟨hle, -⟩ := Grid.region?_eq_some_iff.1 hregion
  rw [Grid.get?, if_pos (by omega), ← hc]
  congr 1 <;> omega

/-- **Each cell is claimed by whoever stamped it last.**  In every world that a battle comes to, the
claim of a cell is that of the stamp that was laid over it last, if the unit of that stamp is still
in the world, and else there is none.  Each building has left its stamp, with its yard map where it
stands and its yard as it is; a cell of its yard map lies over a cell of the map, and it claims that
cell if and only if no other unit has laid a yard map over it since.  The other way round, every
claim belongs to a unit in the world, and if that is a building, the claim is that of a cell of its
yard map. -/
theorem claims_are_last_stamps (h : Run s past w) :
    (∀ {x y c}, w.occupancy.at? x y = some c →
      c.claim = (claimOf? (stamps past) x y).filter fun k => w.unitExists k.unit) ∧
    (∀ {id u t}, w.units.get? id = some u → w.definitions.unitType u.unitType = .ok t →
      t.isMobile = false → ∃ yard r earlier later, t.yardMap = some yard ∧
        w.unitFootprint id = .ok r ∧
        stamps past = earlier ++ ⟨id, r, yard, u.yardOpen⟩ :: later ∧
        (∀ g ∈ later, g.unit ≠ id) ∧
        ∀ {i j k}, yard.at? i j = some k → ∃ c, w.occupancy.get? (r.x + i) (r.y + j) = some c ∧
          (c.claim = some ⟨id, k.isPassable u.yardOpen⟩ ↔
            ∀ g ∈ later, g.claim? (r.x.toNat + i) (r.y.toNat + j) = none)) ∧
    ∀ {x y c b}, w.occupancy.at? x y = some c → c.claim = some b →
      ∃ u t, w.units.get? b.unit = some u ∧ w.definitions.unitType u.unitType = .ok t ∧
        (t.isMobile = false →
          ∃ k, YardOver w b.unit x y k ∧ b.passable = k.isPassable u.yardOpen) := by
  have hclaimed := h.claimed
  refine ⟨hclaimed.claim_eq, fun {id u t} hu ht hm => ?_, hclaimed.exists_of_claim⟩
  have hb : w.body? id = some u.body := body?_eq_some_iff.2 ⟨u, hu, rfl⟩
  obtain ⟨r, yard, hstamped⟩ := hclaimed.buildings hb ht hm
  obtain ⟨earlier, later, hl, hlater⟩ := hstamped.last
  refine ⟨yard, r, earlier, later, hstamped.yardMap, unitFootprint_eq_ok hu hstamped.stands, hl,
    hlater, fun {i j k} hcell => ?_⟩
  obtain ⟨c, hget, hc⟩ := hstamped.stands.exists_cell h.fitting hm hstamped.yardMap hcell
  rw [hl] at hclaimed
  exact ⟨c, hget, hclaimed.claim_iff (unitExists_of_get? hu) hlater hc
    (Grid.covering?_eq_some_iff.2 ⟨i, j, rfl, rfl, hcell⟩)⟩

/-- A script that opens the yard and closes it one tick later. -/
def Sample.gate : Script.Program where
  words := #[
    Script.Opcode.word .pushConstant, 18, Script.Opcode.word .pushConstant, 1,
    Script.Opcode.word .setValue, Script.Opcode.word .pushConstant, 0, Script.Opcode.word .sleep,
    Script.Opcode.word .pushConstant, 18, Script.Opcode.word .pushConstant, 0,
    Script.Opcode.word .setValue, Script.Opcode.word .pushConstant, 1000,
    Script.Opcode.word .sleep, Script.Opcode.word .jump, 13]
  functions := [⟨"Create", 0⟩]
  pieces := []
  staticCount := 0

/-- Labs have that script. -/
def Sample.gated : Setup :=
  { setup with definitions := definitions.addScript "LAB" gate }

/-- A pad is put on the cell of a lab while the yard of that is open. -/
def Sample.intrusion : List Operation :=
  [.addPlayer (.new .human "" 0), .spawnUnit "lab" ⟨0⟩ 0 none, .tick 9,
    .spawnUnit "pad" ⟨0⟩ 0 none, .tick 9]

/-- When the lab has closed its yard, the cell of the pad is claimed by the lab. -/
theorem claims_are_last_stamps_gate :
    let b := replay Sample.intrusion [] (Sample.lineup Sample.gated)
    Run Sample.gated b.1 b.2 ∧ b.2.unitExists ⟨2⟩ = true ∧
      (claimOf? (stamps b.1) 1 1).filter (fun k => b.2.unitExists k.unit) =
        some ⟨⟨1⟩, false⟩ ∧
      ∃ yard earlier later, stamps b.1 = earlier ++ ⟨⟨2⟩, ⟨1, 1, 1, 1⟩, yard, false⟩ :: later ∧
        ∃ g ∈ later, g.unit ≠ ⟨2⟩ ∧ g.claim? 1 1 ≠ none := by
  intro b
  obtain ⟨hnew, hcomplete, hcell, hget, hpad, hfootprint⟩ :
      World.new Sample.gated = .ok (Sample.lineup Sample.gated) ∧
      Operation.AllComplete Sample.intrusion (Sample.lineup Sample.gated) ∧
      b.2.occupancy.at? 1 1 = some ⟨none, some ⟨⟨1⟩, false⟩⟩ ∧
      b.2.occupancy.get? 1 1 = some ⟨none, some ⟨⟨1⟩, false⟩⟩ ∧
      b.2.body? ⟨2⟩ = some ⟨"PAD", 0, false⟩ ∧ b.2.unitFootprint ⟨2⟩ = .ok ⟨1, 1, 1, 1⟩ := by
    decide +kernel
  have hrun : Run Sample.gated b.1 b.2 := (Run.start hnew).replay hcomplete
  obtain ⟨hclaims, hbuildings, -⟩ := claims_are_last_stamps hrun
  obtain ⟨u, hu, hbody⟩ := body?_eq_some_iff.1 hpad
  have hopen : u.yardOpen = false := congrArg Body.yardOpen hbody
  have ht : b.2.definitions.unitType u.unitType = .ok (Sample.unitType "PAD" false .always) := by
    rw [show u.unitType = "PAD" from congrArg Body.unitType hbody, hrun.definitions]
    decide +kernel
  obtain ⟨yard, r, earlier, later, hyard, hr, hstamps, hlater, hcells⟩ := hbuildings hu ht rfl
  cases hyard
  rw [hfootprint] at hr
  cases hr
  rw [hopen] at hstamps hcells
  refine ⟨hrun, unitExists_of_get? hu, (hclaims hcell).symm, _, earlier, later, hstamps, ?_⟩
  obtain ⟨c, hc, hclaim⟩ := hcells (i := 0) (j := 0) rfl
  cases hget.symm.trans hc
  -- the cell has another claim than that of the pad
  by_contra hnone
  have hnone : ∀ g ∈ later, g.claim? 1 1 = none := fun g hg =>
    by_contra fun hne => hnone ⟨g, hg, hlater g hg, hne⟩
  cases hclaim.2 hnone

/-- A second pad is put on the cell of a first one and killed, and a tank operates its yard. -/
def Sample.sharedPad : List Operation :=
  [.addPlayer (.new .human "" 0), .spawnUnit "pad" ⟨0⟩ 0 none, .spawnUnit "pad" ⟨0⟩ 0 none,
    .spawnUnit "tank" ⟨0⟩ (.ofWholes 16 0 0) none, .setYardOpen ⟨3⟩ true, .quietlyKill ⟨2⟩,
    .tick 10]

/-- The first pad still stands, but its cell carries no claim; and a cell carries the claim of the
tank, which is no building. -/
theorem claims_not_exact :
    let b := Sample.battle Sample.sharedPad
    Run Sample.setup b.1 b.2 ∧
      (¬∀ id u t x y k, b.2.units.get? id = some u →
        b.2.definitions.unitType u.unitType = .ok t → t.isMobile = false → YardOver b.2 id x y k →
        ∃ c, b.2.occupancy.at? x y = some c ∧ c.claim = some ⟨id, k.isPassable u.yardOpen⟩) ∧
      ¬∀ x y c k, b.2.occupancy.at? x y = some c → c.claim = some k →
        ∃ u t cell, b.2.units.get? k.unit = some u ∧
          b.2.definitions.unitType u.unitType = .ok t ∧ t.isMobile = false ∧
          YardOver b.2 k.unit x y cell ∧ k.passable = cell.isPassable u.yardOpen := by
  intro b
  obtain ⟨hcomplete, hpad, hfootprint, hcell, htank, hcell'⟩ :
      Operation.AllComplete Sample.sharedPad Sample.start ∧
      b.2.body? ⟨1⟩ = some ⟨"PAD", 0, false⟩ ∧ b.2.unitFootprint ⟨1⟩ = .ok ⟨1, 1, 1, 1⟩ ∧
      b.2.occupancy.at? 1 1 = some ⟨none, none⟩ ∧
      b.2.body? ⟨3⟩ = some ⟨"TANK", .ofWholes 16 0 0, true⟩ ∧
      b.2.occupancy.at? 2 1 = some ⟨some (.unit ⟨3⟩), some ⟨⟨3⟩, true⟩⟩ := by decide +kernel
  have hrun : Run Sample.setup b.1 b.2 := Sample.run_battle hcomplete
  refine ⟨hrun, fun h => ?_, fun h => ?_⟩
  · obtain ⟨u, hu, hbody⟩ := body?_eq_some_iff.1 hpad
    have ht : b.2.definitions.unitType u.unitType = .ok (Sample.unitType "PAD" false .always) := by
      rw [show u.unitType = "PAD" from congrArg Body.unitType hbody, hrun.definitions]
      decide +kernel
    have hover : YardOver b.2 ⟨1⟩ 1 1 .always := ⟨u, _, _, _, hu, ht, rfl, hfootprint, by decide⟩
    obtain ⟨c, hc, hclaim⟩ := h ⟨1⟩ u _ 1 1 .always hu ht rfl hover
    rw [hcell] at hc
    cases hc
    cases hclaim
  · obtain ⟨u, hu, hbody⟩ := body?_eq_some_iff.1 htank
    have ht : b.2.definitions.unitType u.unitType = .ok (Sample.unitType "TANK" true .always) := by
      rw [show u.unitType = "TANK" from congrArg Body.unitType hbody, hrun.definitions]
      decide +kernel
    obtain ⟨u', t, cell, hu', ht', hm, -⟩ := h 2 1 _ _ hcell' rfl
    rw [hu] at hu'
    cases hu'
    rw [ht] at ht'
    cases ht'
    cases hm

end Lockstep.World
