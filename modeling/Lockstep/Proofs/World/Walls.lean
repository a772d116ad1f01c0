import Lockstep.Proofs.World.Validated
/-!
# Nobody is shut in

A cell that a building claims and that cannot be passed at the moment is free of everybody but the
building itself.  Each of the writes on the plan has its own way to look for what is in the way, and
each of these ways is just enough: who comes to a cell does not come to a wall, and a wall does not
rise where somebody stands.
-/

namespace Lockstep.World

variable {s : Setup} {past : List Step} {w w' : World} {id : UnitId}

/-- Nobody but its owner stands on a wall on a cell. -/
def Accessible (c : Occupancy) : Prop :=
  ∀ ⦃o b⦄, c.occupant = some o → c.claim = some b → b.passable = false → o = .unit b.unit

/-- On every cell of the map, nobody but its owner stands on a wall. -/
def Unwalled (w : World) : Prop :=
  ∀ ⦃x y c⦄, w.occupancy.at? x y = some c → Accessible c

namespace Unwalled

/-- A write that is described cell by cell has to be looked at on one cell. -/
lemma of_cells {f : Nat → Nat → Occupancy → Occupancy} (hw : Unwalled w)
    (hcells : ∀ x y, w'.occupancy.at? x y = (w.occupancy.at? x y).map (f x y))
    (h : ∀ {x y c}, w.occupancy.at? x y = some c → Accessible c → Accessible (f x y c)) :
    Unwalled w' := by
  intro x y c' hc'
  rw [hcells] at hc'
  obtain ⟨c, hc, rfl⟩ := Option.map_eq_some_iff.1 hc'
  exact h hc (hw hc)

lemma place {b : Body} {t : UnitType} {r : Rect} (hw : Unwalled w) (h : Placed w w' id b t r) :
    Unwalled w' := by
  refine hw.of_cells h.cells fun {x y c} hc haccess => ?_
  split
  · rename_i hin
    -- the cell that is occupied now could be passed
    intro o k _ hk hp
    rw [(Occupancy.blocks_eq_false.1 (h.free hc hin)).2 k hk] at hp
    cases hp
  · exact haccess

/-- The yard map of a new building lies on its footprint, which was free. -/
lemma build {b : Body} {t : UnitType} {r : Rect} {yard : YardMap} (hw : Unwalled w)
    (hd : w.definitions.Fitting) (h : Built w w' id b t r yard) : Unwalled w' := by
  refine hw.of_cells h.cells fun {x y c} hc haccess => ?_
  intro o k ho hk hp
  rw [stamp_occupant] at ho
  rw [stamp_claim] at hk
  cases hcover : yard.covering? r.x.toNat r.y.toNat x y with
  | none =>
    rw [hcover] at hk
    exact haccess ho hk hp
  | some cell =>
    have hin := h.stands.contains_of_covering? hd h.immobile h.yardMap hcover
    rw [(Occupancy.blocks_eq_false.1 (h.free hc hin)).1] at ho
    cases ho

lemma move {b : Body} {position : Vector3} {t : UnitType} {old new : Rect} (hw : Unwalled w)
    (h : Moved w w' id b position t old new) : Unwalled w' := by
  refine hw.of_cells h.cells fun {x y c} hc haccess => ?_
  split
  · rename_i hin
    -- the unit comes to walls of its own at most
    intro o k ho hk hp
    cases ho
    rcases (Occupancy.blocksBut_eq_false.1 (h.free hc hin)).2 k hk with hself | hpass
    · rw [hself]
    · rw [hpass] at hp
      cases hp
  · split
    · intro o k ho hk hp
      rw [vacate_occupant] at ho
      rw [vacate_claim] at hk
      split at ho
      · cases ho
      · exact haccess ho hk hp
    · exact haccess

/-- A wall rises only where nobody stands. -/
lemma toggle {b : Body} {isOpen : Bool} {t : UnitType} {r : Rect} {yard : YardMap}
    (hw : Unwalled w) (h : Toggled w w' id b isOpen t r yard) : Unwalled w' := by
  refine hw.of_cells h.cells fun {x y c} hc haccess => ?_
  intro o k ho hk hp
  rw [stamp_occupant] at ho
  rw [stamp_claim] at hk
  cases hcover : yard.covering? r.x.toNat r.y.toNat x y with
  | none =>
    rw [hcover] at hk
    exact haccess ho hk hp
  | some cell =>
    rw [hcover] at hk
    cases hk
    rw [h.free hc hcover hp] at ho
    cases ho

lemma remove (hw : Unwalled w) (h : Removed w w' id) : Unwalled w' := by
  refine hw.of_cells (f := fun _ _ => release id) h.cells fun {x y c} hc haccess => ?_
  intro o k ho hk hp
  simp only [release] at ho hk
  split at ho
  · cases ho
  · exact haccess ho (Option.filter_eq_some_iff.1 hk).1 hp

lemma land {id : FeatureId} {t : FeatureType} {r : Rect} (hw : Unwalled w)
    (h : Landed w w' id t r) : Unwalled w' := by
  refine hw.of_cells h.cells fun {x y c} hc haccess => ?_
  split
  · rename_i hin
    intro o k _ hk hp
    rw [(Occupancy.blocks_eq_false.1 (h.free hin.1 hc hin.2)).2 k hk] at hp
    cases hp
  · exact haccess

lemma change (hw : Unwalled w) (hd : w.definitions.Fitting) (h : Change w w') : Unwalled w' := by
  cases h with
  | calm h => exact fun x y c hc => hw (h.occupancy ▸ hc)
  | place _ _ _ _ h => exact hw.place h
  | build _ _ _ _ _ h => exact hw.build hd h
  | move _ _ _ _ _ _ h => exact hw.move h
  | toggle _ _ _ _ _ _ h => exact hw.toggle h
  | remove _ h => exact hw.remove h

end Unwalled

theorem Run.unwalled (h : Run s past w) : Unwalled w := by
  induction h with
  | start h =>
    intro x y c hc o b ho
    rw [(initial_new h).cells hc] at ho
    cases ho
  | @step past w o hrun _ ih =>
    rcases o.addFeature_or with ⟨t, f, rfl⟩ | ho
    · rcases after_addFeature_cases t f w with ⟨hafter, -⟩ | ⟨r, -, -, h⟩
      · rw [hafter]
        exact ih
      · exact ih.land h
    · -- the definitions that the yard maps fit stay the same all the way
      have hkept := (episode_after ho w).invariant
        (P := fun m => m.definitions.Fitting ∧ Unwalled m)
        (fun write hm => ⟨write.ground.definitions ▸ hm.1, hm.2.change hm.1 write⟩)
        ⟨hrun.fitting, ih⟩
      exact hkept.2

/-- **Nobody is shut in.**  In no world that a battle comes to is there a cell that is occupied by
somebody, a unit or a feature, and at the same time claimed as impassable by somebody else. -/
theorem not_shut_in (h : Run s past w) :
    ¬∃ x y c o b, w.occupancy.at? x y = some c ∧ c.occupant = some o ∧ c.claim = some b ∧
      b.passable = false ∧ o ≠ .unit b.unit := by
  rintro ⟨x, y, c, o, b, hc, ho, hb, hp, hne⟩
  exact hne (h.unwalled hc ho hb hp)

/-- A tank drives onto the open yard of a lab, which then cannot close it. -/
def Sample.inTheYard : List Operation :=
  [.addPlayer (.new .human "" 0), .spawnUnit "lab" ⟨0⟩ 0 none, .setYardOpen ⟨1⟩ true,
    .spawnUnit "tank" ⟨0⟩ (.ofWholes 16 0 0) none, .moveUnit ⟨2⟩ 0, .setYardOpen ⟨1⟩ false]

theorem not_shut_in_yard :
    let b := Sample.battle Sample.inTheYard
    Run Sample.setup b.1 b.2 ∧
      b.2.occupancy.at? 1 1 = some ⟨some (.unit ⟨2⟩), some ⟨⟨1⟩, true⟩⟩ ∧
      ¬∃ x y c o k, b.2.occupancy.at? x y = some c ∧ c.occupant = some o ∧ c.claim = some k ∧
        k.passable = false ∧ o ≠ .unit k.unit :=
  have h : Operation.AllComplete Sample.inTheYard Sample.start ∧
      (Sample.battle Sample.inTheYard).2.occupancy.at? 1 1 =
        some ⟨some (.unit ⟨2⟩), some ⟨⟨1⟩, true⟩⟩ := by decide +kernel
  have hrun := Sample.run_battle h.1
  ⟨hrun, h.2, not_shut_in hrun⟩

end Lockstep.World
