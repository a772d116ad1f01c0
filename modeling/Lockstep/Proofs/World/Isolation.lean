import Lockstep.Proofs.World.Driver
/-!
# What the scripts of a unit leave alone

Scripts are data that comes with a unit, and whatever words they consist of, what they do is
confined to the unit itself, with two exceptions: the yard of the unit claims cells below its yard
map, and units on its footprint can be told to leave it.
-/

namespace Lockstep.World

open Script (Environment)

/-- A unit has a cell of the footprint of a unit. -/
def OnFootprint (w : World) (id other : UnitId) (r : Rect) : Prop :=
  w.unitFootprint id = .ok r ∧ ∃ x y : Nat, r.contains x y = true ∧
    (w.occupancy.at? x y).map Occupancy.occupant = some (some (.unit other))

/-- A cell of the yard map of a unit lies over a cell of the map, the yard map being laid at the
corner of the footprint. -/
def YardCovers (w : World) (id : UnitId) (x y : Nat) (k : YardCell) : Prop :=
  ∃ u t yard r, w.units.get? id = some u ∧ Stands w u.body t r ∧ t.yardMap = some yard ∧
    yard.covering? r.x.toNat r.y.toNat x y = some k

/-- What the scripts of a unit may make of a unit.  If it has no orders and is in the way, it may be
told to leave; all else can be written in the unit itself only. -/
structure Confined (w : World) (id other : UnitId) (u u' : UnitState) : Prop where
  orders : u'.orders = u.orders ∨
    u.orders = [] ∧ ∃ r, w.OnFootprint id other r ∧ u'.orders = [.buggerOff r]
  own : u' = { u with
    orders := u'.orders
    pieces := u'.pieces
    activated := u'.activated
    inBuildStance := u'.inBuildStance
    yardOpen := u'.yardOpen
    fireOrders := u'.fireOrders
    moveOrders := u'.moveOrders
    armored := u'.armored
    environment := u'.environment }
  others : other ≠ id → u' = { u with orders := u'.orders }

/-- What the scripts of a unit may make of the world. -/
structure Isolated (id : UnitId) (w w' : World) : Prop where
  time : w'.time = w.time
  terrain : w'.terrain = w.terrain
  definitions : w'.definitions = w.definitions
  metal : w'.metal = w.metal
  players : w'.players = w.players
  nextUnit : w'.nextUnit = w.nextUnit
  features : w'.features = w.features
  nextFeature : w'.nextFeature = w.nextFeature
  projectiles : w'.projectiles = w.projectiles
  nextProjectile : w'.nextProjectile = w.nextProjectile
  pathRequests : w'.pathRequests = w.pathRequests
  ids : ∀ other, (w'.units.get? other).isSome = (w.units.get? other).isSome
  units : ∀ {other u u'}, w.units.get? other = some u → w'.units.get? other = some u' →
    Confined w id other u u'
  occupants : ∀ x y, (w'.occupancy.at? x y).map Occupancy.occupant =
    (w.occupancy.at? x y).map Occupancy.occupant
  claims : ∀ {x y c c'}, w.occupancy.at? x y = some c → w'.occupancy.at? x y = some c' →
    c'.claim = c.claim ∨
      ∃ k isOpen, w.YardCovers id x y k ∧ c'.claim = some ⟨id, k.isPassable isOpen⟩

variable {w w' w'' : World} {id other : UnitId} {u u' u'' : UnitState}

lemma Confined.refl (w : World) (id other : UnitId) (u : UnitState) :
    Confined w id other u u :=
  ⟨.inl rfl, rfl, fun _ => rfl⟩

/-! ### The footprint and the yard stay where they are -/

lemma Confined.body (h : Confined w id other u u') :
    u'.unitType = u.unitType ∧ u'.position = u.position := by
  rw [h.own]
  exact ⟨rfl, rfl⟩

lemma Isolated.exists_unit (h : Isolated id w w') (hu : w'.units.get? other = some u') :
    ∃ u, w.units.get? other = some u ∧ Confined w id other u u' := by
  have hsome := h.ids other
  rw [hu] at hsome
  obtain ⟨u, hu₀⟩ := Option.isSome_iff_exists.1 hsome.symm
  exact ⟨u, hu₀, h.units hu₀ hu⟩

/-- What the scripts of a unit cannot write in a unit stays as it is, wherever it is kept. -/
lemma Isolated.map_eq {β : Type} {f : UnitState → β} (h : Isolated id w w')
    (hf : ∀ u u', Confined w id other u u' → f u' = f u) :
    (w'.units.get? other).map f = (w.units.get? other).map f := by
  cases hu' : w'.units.get? other with
  | none =>
    have hnone := h.ids other
    rw [hu', Option.isSome_none] at hnone
    rw [Option.isNone_iff_eq_none.1 (Option.isSome_eq_false_iff.1 hnone.symm)]
  | some u' =>
    obtain ⟨u, hu, hconfined⟩ := h.exists_unit hu'
    rw [hu, Option.map_some, Option.map_some, hf u u' hconfined]

lemma Isolated.exists_cell {x y : Nat} {c' : Occupancy} (h : Isolated id w w')
    (hc : w'.occupancy.at? x y = some c') :
    ∃ c, w.occupancy.at? x y = some c ∧ c'.occupant = c.occupant := by
  have hoccupant := h.occupants x y
  rw [hc, Option.map_some, eq_comm] at hoccupant
  obtain ⟨c, hc₀, heq⟩ := Option.map_eq_some_iff.1 hoccupant
  exact ⟨c, hc₀, heq.symm⟩

/-- The ground is the same, cell by cell, and so the map is as large as before. -/
lemma Isolated.ground (h : Isolated id w w') : SameGround w w' := by
  have cell : ∀ x y, (x < w'.occupancy.width ∧ y < w'.occupancy.height) ↔
      (x < w.occupancy.width ∧ y < w.occupancy.height) := fun x y => by
    rw [← Grid.at?_isSome, ← Grid.at?_isSome, ← Option.isSome_map (f := Occupancy.occupant),
      h.occupants, Option.isSome_map]
  have hw := w.occupancy.width_pos
  have hh := w.occupancy.height_pos
  have hw' := w'.occupancy.width_pos
  have hh' := w'.occupancy.height_pos
  have hx := cell (w.occupancy.width - 1) 0
  have hx' := cell (w'.occupancy.width - 1) 0
  have hy := cell 0 (w.occupancy.height - 1)
  have hy' := cell 0 (w'.occupancy.height - 1)
  exact ⟨h.terrain, h.definitions, by omega, by omega⟩

lemma Isolated.stands {t : UnitType} {r : Rect} (h : Isolated id w w')
    (hu : Confined w id other u u') (hs : Stands w' u'.body t r) : Stands w u.body t r := by
  obtain ⟨htype, hplace⟩ := hu.body
  have hs := hs.congr h.ground.symm
  refine ⟨?_, ?_, hs.onMap⟩
  · rw [← hs.unitType]
    exact congrArg _ htype.symm
  · rw [← hs.footprint]
    exact congrArg (w.classFootprint · _) hplace.symm

lemma Isolated.unitFootprint_eq (h : Isolated id w w') :
    w'.unitFootprint other = w.unitFootprint other := by
  cases hu' : w'.units.get? other with
  | none =>
    have hu : w.units.get? other = none := by
      have := h.ids other
      rwa [hu', Option.isSome_none, eq_comm, Option.isSome_eq_false_iff, Option.isNone_iff_eq_none]
        at this
    simp only [unitFootprint, World.unit, hu, hu']
  | some u' =>
    obtain ⟨u, hu, hconfined⟩ := h.exists_unit hu'
    obtain ⟨htype, hplace⟩ := hconfined.body
    simp only [unitFootprint, World.unit, hu, hu', htype, hplace, h.definitions,
      classFootprint_congr h.ground]

lemma Isolated.onFootprint_iff {r : Rect} (h : Isolated id w w') :
    w'.OnFootprint id other r ↔ w.OnFootprint id other r := by
  simp only [OnFootprint, h.unitFootprint_eq, h.occupants]

lemma Isolated.yardCovers {x y : Nat} {k : YardCell} (h : Isolated id w w')
    (hcovers : w'.YardCovers id x y k) : w.YardCovers id x y k := by
  obtain ⟨u', t, yard, r, hu', hstands, hyard, hk⟩ := hcovers
  obtain ⟨u, hu, hconfined⟩ := h.exists_unit hu'
  exact ⟨u, t, yard, r, hu, h.stands hconfined hstands, hyard, hk⟩

lemma Confined.trans (h : Isolated id w w') (hu : Confined w id other u u')
    (hu' : Confined w' id other u' u'') : Confined w id other u u'' where
  orders := by
    rcases hu'.orders with heq | ⟨hempty, r, hon, heq⟩
    · rw [heq]
      exact hu.orders
    · rcases hu.orders with heq' | ⟨-, r', -, heq'⟩
      · exact .inr ⟨heq'.symm.trans hempty, r, h.onFootprint_iff.1 hon, heq⟩
      · -- a unit that has been told already is not told again
        rw [heq'] at hempty
        cases hempty
  own := by
    refine hu'.own.trans ?_
    rw [hu.own]
  others hne := by
    refine (hu'.others hne).trans ?_
    rw [hu.others hne]

instance : IsPreorder World (Isolated id) where
  refl w :=
    { time := rfl, terrain := rfl, definitions := rfl, metal := rfl, players := rfl
      nextUnit := rfl, features := rfl, nextFeature := rfl, projectiles := rfl
      nextProjectile := rfl, pathRequests := rfl
      ids := fun _ => rfl
      units := fun {other u u'} hu hu' => by
        rw [hu] at hu'
        cases hu'
        exact .refl w id other u
      occupants := fun _ _ => rfl
      claims := fun hc hc' => by
        rw [hc] at hc'
        cases hc'
        exact .inl rfl }
  trans w w' w'' h h' :=
    { time := h'.time.trans h.time
      terrain := h'.terrain.trans h.terrain
      definitions := h'.definitions.trans h.definitions
      metal := h'.metal.trans h.metal
      players := h'.players.trans h.players
      nextUnit := h'.nextUnit.trans h.nextUnit
      features := h'.features.trans h.features
      nextFeature := h'.nextFeature.trans h.nextFeature
      projectiles := h'.projectiles.trans h.projectiles
      nextProjectile := h'.nextProjectile.trans h.nextProjectile
      pathRequests := h'.pathRequests.trans h.pathRequests
      ids := fun other => (h'.ids other).trans (h.ids other)
      units := fun {other u u''} hu hu'' => by
        obtain ⟨u', hu', hconfined'⟩ := h'.exists_unit hu''
        exact (h.units hu hu').trans h hconfined'
      occupants := fun x y => (h'.occupants x y).trans (h.occupants x y)
      claims := fun {x y c c''} hc hc'' => by
        obtain ⟨c', hc', -⟩ := h'.exists_cell hc''
        rcases h'.claims hc' hc'' with heq | ⟨k, isOpen, hcovers, heq⟩
        · rw [heq]
          exact h.claims hc hc'
        · exact .inr ⟨k, isOpen, h.yardCovers hcovers, heq⟩ }

/-! ### The writes -/

/-- Only units are written, each within its bounds. -/
lemma isolated_modifyUnit {f : UnitState → UnitState}
    (hf : ∀ u, w.units.get? other = some u → Confined w id other u (f u)) :
    Isolated id w (w.modifyUnit other f) :=
  { (refl_of (Isolated id) w) with
    ids := fun k => by
      rw [modifyUnit, SortedTable.get?_modify]
      split
      · exact Option.isSome_map
      · rfl
    units := fun {k u u'} hu hu' => by
      rw [modifyUnit, SortedTable.get?_modify, hu] at hu'
      split at hu'
      · rename_i hk
        cases Ranked.rank_eq_iff.1 hk
        cases hu'
        exact hf u hu
      · cases hu'
        exact .refl w id k u }

lemma Personal.confined {f : UnitState → UnitState} (hf : Personal f) (w : World) (id : UnitId)
    (u : UnitState) : Confined w id id u (f u) := by
  rw [hf u]
  exact ⟨.inl rfl, rfl, fun hne => absurd rfl hne⟩

/-- A yard is opened or closed: cells below the yard map are claimed, and the flag is set. -/
lemma isolated_trySetYardOpen (isOpen : Bool) :
    Respects (Isolated id) (trySetYardOpen id isOpen) := by
  intro w
  show Isolated id w ((trySetYardOpen id isOpen).on w).2
  rcases trySetYardOpen_cases id isOpen w with ⟨h, -⟩ | ⟨b, t, r, yard, g, -, hw, h⟩
  · rw [h]
    exact refl_of (Isolated id) w
  · rw [hw] at h ⊢
    obtain ⟨u, hu, rfl⟩ := body?_eq_some_iff.1 h.body
    have hunits : Isolated id w
        (w.modifyUnit id fun u => { u with yardOpen := isOpen }) :=
      isolated_modifyUnit fun u _ => ⟨.inl rfl, rfl, fun hne => absurd rfl hne⟩
    exact
      { hunits with
        occupants := fun x y => by
          rw [h.cells, Option.map_map]
          congr 1
          funext c
          exact stamp_occupant ..
        claims := fun {x y c c'} hc hc' => by
          rw [h.cells, hc] at hc'
          cases hc'
          rw [stamp_claim]
          cases hk : yard.covering? r.x.toNat r.y.toNat x y with
          | none => exact .inl rfl
          | some k =>
            exact .inr ⟨k, isOpen, ⟨u, t, yard, r, hu, h.stands, h.yardMap, hk⟩, rfl⟩ }

/-- A unit on the footprint is told to leave it. -/
lemma isolated_tellToBuggerOff {r : Rect} (hon : w.OnFootprint id other r) :
    Isolated id w ((tellToBuggerOff other r).on w).2 := by
  simp only [tellToBuggerOff, updateUnit, Action.on_get_bind, Action.on_require_bind]
  cases w.unit other with
  | error cause => exact refl_of (Isolated id) w
  | ok u =>
    refine isolated_modifyUnit fun u _ => ?_
    split
    · rename_i hempty
      have hempty : u.orders = [] := List.isEmpty_iff.1 hempty
      have horders : (u.addOrder (.buggerOff r)).orders = [.buggerOff r] := by
        rw [UnitState.addOrder, hempty]
        rfl
      exact ⟨.inr ⟨hempty, r, hon, horders⟩, rfl, fun _ => rfl⟩
    · exact .refl w id other u

/-- The induction is on the units that are told; meanwhile all stay where they are. -/
lemma isolated_forM_tellToBuggerOff {r : Rect} {ids : List UnitId}
    (hids : ∀ other ∈ ids, w.OnFootprint id other r) :
    Isolated id w ((ids.forM fun other => tellToBuggerOff other r).on w).2 := by
  induction ids generalizing w with
  | nil => exact refl_of (Isolated id) w
  | cons other rest ih =>
    have hfirst := isolated_tellToBuggerOff (hids other List.mem_cons_self)
    rw [Action.on_forM_cons]
    revert hfirst
    rcases (tellToBuggerOff other r).on w with ⟨_ | _, w₁⟩ <;> intro hfirst
    · exact hfirst
    · refine trans_of (Isolated id) hfirst (ih fun other hother => ?_)
      exact hfirst.onFootprint_iff.2 (hids other (List.mem_cons_of_mem _ hother))

/-- The units on a region are the occupants of the cells of the rectangle it was made from. -/
lemma mem_unitsIn_iff {r : Rect} {region : Region} (h : w.occupancy.region? r = some region) :
    id ∈ w.unitsIn region ↔ ∃ x y : Nat, r.contains x y = true ∧
      (w.occupancy.at? x y).map Occupancy.occupant = some (some (.unit id)) := by
  constructor
  · intro hid
    obtain ⟨c, hc, hoccupant⟩ := List.mem_filterMap.1 hid
    obtain ⟨⟨x, y⟩, hcell, hat⟩ := List.mem_filterMap.1 hc
    refine ⟨x, y, (mem_cells_of_onMap h).1 hcell, ?_⟩
    obtain ⟨o, ho, hunit⟩ := Option.bind_eq_some_iff.1 hoccupant
    have hat : w.occupancy.at? x y = some c := hat
    rw [hat, Option.map_some, ho]
    cases o with
    | unit k =>
      cases hunit
      rfl
    | feature k => cases hunit
  · rintro ⟨x, y, hin, hoccupant⟩
    obtain ⟨c, hc, ho⟩ := Option.map_eq_some_iff.1 hoccupant
    refine List.mem_filterMap.2 ⟨c, ?_, by rw [ho]; rfl⟩
    exact List.mem_filterMap.2 ⟨(x, y), (mem_cells_of_onMap h).2 hin, hc⟩

lemma isolated_emitBuggerOff : Respects (Isolated id) (emitBuggerOff id) := by
  refine Respects.get_bind fun w => ?_
  show Isolated id w (Action.on _ w).2
  rw [Action.on_ofExcept_bind]
  cases hr : w.unitFootprint id with
  | error failure => exact refl_of (Isolated id) w
  | ok r =>
  simp only [Action.on_require_bind]
  cases hregion : w.footprintRegion id r with
  | error cause => exact refl_of (Isolated id) w
  | ok region =>
  -- a unit is told because it has a cell of the region
  exact isolated_forM_tellToBuggerOff fun other hother =>
    ⟨hr, (mem_unitsIn_iff (footprintRegion_eq_ok.1 hregion)).1 hother⟩

lemma scriptLaw_isolated (id : UnitId) : ScriptLaw id (Isolated id) where
  draw w _ := { (refl_of (Isolated id) w) with }
  tell _ w := { (refl_of (Isolated id) w) with }
  note _ w := { (refl_of (Isolated id) w) with }
  own hf w _ := isolated_modifyUnit fun u _ => hf.confined w id u
  yard := isolated_trySetYardOpen
  leave := isolated_emitBuggerOff

/-- The script state of the unit is taken out or put in. -/
lemma isolated_setEnvironment (env : Option Environment) (w : World) :
    Isolated id w (w.modifyUnit id fun u => { u with environment := env }) :=
  isolated_modifyUnit fun _ _ => ⟨.inl rfl, rfl, fun hne => absurd rfl hne⟩

lemma isolated_runUnitScripts (budget : Nat) (id : UnitId) :
    Respects (Isolated id) (runUnitScripts budget id) :=
  (scriptLaw_isolated id).respects_runUnitScripts (isolated_setEnvironment none)
    (fun env => isolated_setEnvironment (some env)) budget

lemma isolated_runQuery (budget : Nat) (id : UnitId) (function : String) (params : List Int32) :
    Respects (Isolated id) (runQuery budget id function params) :=
  (scriptLaw_isolated id).respects_runQuery (isolated_setEnvironment none)
    (fun env => isolated_setEnvironment (some env)) budget function params

/-- Whatever the scripts of a unit are, and however their run ends, they leave the rest of the world
alone but for the claims below the yard map of the unit and for orders to leave its footprint; the
unit itself stays where it is, and as it is but for its pieces, orders and flags. -/
theorem scripts_are_isolated (w : World) (id : UnitId) (budget : Nat) :
    Isolated id w ((runUnitScripts budget id).on w).2 ∧
      ∀ function params, Isolated id w ((runQuery budget id function params).on w).2 :=
  ⟨isolated_runUnitScripts budget id w,
    fun function params => isolated_runQuery budget id function params w⟩

end Lockstep.World
