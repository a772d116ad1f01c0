import Lockstep.Proofs.World.Run
/-!
# Who stands on a cell

In every battle the occupants of the cells are exactly the mobile units that are in the world, each
on all cells of its footprint, and the blocking features, each on the part of its footprint that
lies on the map.  So no two of them ever share a cell, and no cell stays occupied by somebody who
has gone.

For units this is an invariant of single writes on the plan (`Settled.change`).  It needs two more
facts: a number that has not been given out stands nowhere, and every unit has its whole footprint
on the map.  Features are never taken off the map, so what they occupy is read off the run.
-/

namespace Lockstep.World

variable {s : Setup} {past : List Step} {w w' : World} {id : UnitId}

/-- A mobile unit in the world has a cell in its footprint. -/
def Covers (w : World) (id : UnitId) (x y : Nat) : Prop :=
  ∃ u t r, w.units.get? id = some u ∧ w.definitions.unitType u.unitType = .ok t ∧
    t.isMobile = true ∧ w.unitFootprint id = .ok r ∧ r.contains x y = true

/-- A feature was added with a type and values of its own. -/
def HasAdded (past : List Step) (id : FeatureId) (t : FeatureType) (f : Feature) : Prop :=
  ∃ before, ⟨before, .addFeature t f⟩ ∈ past ∧ ((addFeature t f).on before).1 = .ok (some id)

/-- A feature that was added as a blocking one has a cell of the map in its footprint. -/
def Blocks (past : List Step) (w : World) (id : FeatureId) (x y : Nat) : Prop :=
  ∃ t f r, HasAdded past id t f ∧ t.blocking = true ∧
    w.footprint f.position t.width t.depth = .ok r ∧ (x, y) ∈ (w.occupancy.clip r).cells

/-- The cell of a world from which a cell was computed. -/
lemma cell_before {f : Occupancy → Occupancy} {x y : Nat} {c' : Occupancy}
    (h : w'.occupancy.at? x y = (w.occupancy.at? x y).map f)
    (hc : w'.occupancy.at? x y = some c') : ∃ c, w.occupancy.at? x y = some c ∧ f c = c' :=
  Option.map_eq_some_iff.1 (h.symm.trans hc)

/-! ### Units -/

/-- A body of a mobile unit covers a cell. -/
def BodyCovers (w : World) (b : Body) (x y : Nat) : Prop :=
  ∃ t r, Stands w b t r ∧ t.isMobile = true ∧ r.contains x y = true

/-- What a body covers depends on the ground, and on its type and its place. -/
lemma bodyCovers_congr (h : SameGround w w') {b b' : Body} (htype : b'.unitType = b.unitType)
    (hplace : b'.position = b.position) {x y : Nat} :
    BodyCovers w' b' x y ↔ BodyCovers w b x y := by
  obtain ⟨unitType, position, yardOpen⟩ := b
  cases htype
  cases hplace
  constructor
  · rintro ⟨t, r, hs, hm, hin⟩
    exact ⟨t, r, ⟨(hs.congr h.symm).unitType, (hs.congr h.symm).footprint,
      (hs.congr h.symm).onMap⟩, hm, hin⟩
  · rintro ⟨t, r, hs, hm, hin⟩
    exact ⟨t, r, ⟨(hs.congr h).unitType, (hs.congr h).footprint, (hs.congr h).onMap⟩, hm, hin⟩

lemma Stands.covers_iff {b : Body} {t : UnitType} {r : Rect} (h : Stands w b t r) {x y : Nat} :
    BodyCovers w b x y ↔ t.isMobile = true ∧ r.contains x y = true := by
  constructor
  · rintro ⟨t', r', hs, hm, hin⟩
    obtain ⟨rfl, rfl⟩ := h.eq hs rfl rfl
    exact ⟨hm, hin⟩
  · rintro ⟨hm, hin⟩
    exact ⟨t, r, h, hm, hin⟩

/-- Every unit has a number that was given out and its whole footprint on the map. -/
structure Ordered (w : World) : Prop where
  numbered : ∀ {id b}, w.body? id = some b → id.val.toNat < w.nextUnit.toNat
  standing : ∀ {id b}, w.body? id = some b → ∃ t r, Stands w b t r

/-- The units among the occupants are those that cover their cells. -/
structure Settled (w : World) : Prop extends Ordered w where
  occupants : ∀ {x y c id}, w.occupancy.at? x y = some c →
    (c.occupant = some (.unit id) ↔ ∃ b, w.body? id = some b ∧ BodyCovers w b x y)

namespace Ordered

/-- A write that changes units of the world, or takes them away, only has to leave them on the
map. -/
lemma write (hw : Ordered w) (hground : SameGround w w') (hnext : w'.nextUnit = w.nextUnit)
    (hbodies : ∀ {id b}, w'.body? id = some b →
      w.body? id = some b ∨ (∃ b₀, w.body? id = some b₀) ∧ ∃ t r, Stands w b t r) :
    Ordered w' where
  numbered := by
    intro id b hb
    rw [hnext]
    rcases hbodies hb with hb | ⟨⟨b₀, hb⟩, -⟩ <;> exact hw.numbered hb
  standing := by
    intro id b hb
    rcases hbodies hb with hb | ⟨-, t, r, hs⟩
    · obtain ⟨t, r, hs⟩ := hw.standing hb
      exact ⟨t, r, hs.congr hground⟩
    · exact ⟨t, r, hs.congr hground⟩

/-- A new unit has a number that nobody has on the map. -/
lemma body?_added {b : Body} {t : UnitType} {r : Rect} (hw : Ordered w)
    (h : Added w w' id b t r) : w.body? id = none := by
  cases hb : w.body? id with
  | none => rfl
  | some b' =>
    have := hw.numbered hb
    rw [h.number] at this
    omega

lemma add {b : Body} {t : UnitType} {r : Rect} (hw : Ordered w) (h : Added w w' id b t r) :
    Ordered w' where
  numbered := by
    intro other b' hb
    rw [h.nextUnit]
    rw [h.bodies] at hb
    split at hb
    · rename_i heq
      rw [heq, ← h.number]
      omega
    · exact Nat.lt_succ_of_lt (hw.numbered hb)
  standing := by
    intro other b' hb
    rw [h.bodies] at hb
    split at hb
    · cases hb
      exact ⟨t, r, h.stands.congr h.ground⟩
    · obtain ⟨t', r', hs⟩ := hw.standing hb
      exact ⟨t', r', hs.congr h.ground⟩

lemma calm (hw : Ordered w) (h : SamePlan w w') : Ordered w' :=
  hw.write h.ground h.nextUnit fun hb => .inl (h.bodies _ ▸ hb)

lemma move {b : Body} {position : Vector3} {t : UnitType} {old new : Rect} (hw : Ordered w)
    (h : Moved w w' id b position t old new) : Ordered w' := by
  refine hw.write h.ground h.nextUnit fun {other b'} hb => ?_
  rw [h.bodies] at hb
  split at hb
  · rename_i heq
    cases hb
    exact .inr ⟨⟨b, heq ▸ h.body⟩, t, new, h.after⟩
  · exact .inl hb

lemma toggle {b : Body} {isOpen : Bool} {t : UnitType} {r : Rect} {yard : YardMap}
    (hw : Ordered w) (h : Toggled w w' id b isOpen t r yard) : Ordered w' := by
  refine hw.write h.ground h.nextUnit fun {other b'} hb => ?_
  rw [h.bodies] at hb
  split at hb
  · rename_i heq
    cases hb
    exact .inr ⟨⟨b, heq ▸ h.body⟩, t, r, h.stands.unitType, h.stands.footprint, h.stands.onMap⟩
  · exact .inl hb

lemma remove (hw : Ordered w) (h : Removed w w' id) : Ordered w' := by
  refine hw.write h.ground h.nextUnit fun {other b'} hb => ?_
  rw [h.bodies] at hb
  split at hb
  · cases hb
  · exact .inl hb

theorem change (hw : Ordered w) (h : Change w w') : Ordered w' := by
  cases h with
  | calm h => exact hw.calm h
  | place _ _ _ _ h => exact hw.add h.toAdded
  | build _ _ _ _ _ h => exact hw.add h.toAdded
  | move _ _ _ _ _ _ h => exact hw.move h
  | toggle _ _ _ _ _ _ h => exact hw.toggle h
  | remove _ h => exact hw.remove h

lemma land {id : FeatureId} {t : FeatureType} {r : Rect} (hw : Ordered w)
    (h : Landed w w' id t r) : Ordered w' :=
  hw.write h.ground h.nextUnit fun hb => .inl (h.bodies _ ▸ hb)

end Ordered

namespace Settled

lemma calm (hw : Settled w) (h : SamePlan w w') : Settled w' where
  toOrdered := hw.toOrdered.calm h
  occupants := by
    intro x y c id hc
    rw [h.occupancy] at hc
    rw [hw.occupants hc, h.bodies]
    simp only [bodyCovers_congr h.ground rfl rfl]

lemma place {b : Body} {t : UnitType} {r : Rect} (hw : Settled w) (h : Placed w w' id b t r) :
    Settled w' where
  toOrdered := hw.toOrdered.add h.toAdded
  occupants := by
    intro x y c' other hc'
    obtain ⟨c, hc, rfl⟩ := cell_before (h.cells x y) hc'
    rw [h.bodies]
    by_cases hother : other = id
    · subst hother
      have hnone : c.occupant ≠ some (.unit other) := by
        rw [ne_eq, hw.occupants hc, hw.body?_added h.toAdded]
        simp
      simp only [if_true, Option.some.injEq, exists_eq_left',
        (h.stands.congr h.ground).covers_iff, h.mobile, true_and]
      split
      · rename_i hin
        simp [hin]
      · rename_i hin
        simp [hin, hnone]
    · simp only [if_neg hother, bodyCovers_congr h.ground rfl rfl, ← hw.occupants hc]
      split
      · rename_i hin
        rw [(Occupancy.blocks_eq_false.1 (h.free hc hin)).1]
        simp [Ne.symm hother]
      · rfl

lemma build {b : Body} {t : UnitType} {r : Rect} {yard : YardMap} (hw : Settled w)
    (h : Built w w' id b t r yard) : Settled w' where
  toOrdered := hw.toOrdered.add h.toAdded
  occupants := by
    intro x y c' other hc'
    obtain ⟨c, hc, rfl⟩ := cell_before (h.cells x y) hc'
    rw [h.bodies, stamp_occupant, hw.occupants hc]
    by_cases hother : other = id
    · subst hother
      simp [hw.body?_added h.toAdded, (h.stands.congr h.ground).covers_iff, h.immobile]
    · simp only [if_neg hother, bodyCovers_congr h.ground rfl rfl]

/-- The unit leaves what it occupied and occupies what it covers then; in its way there was nobody
but itself. -/
lemma move {b : Body} {position : Vector3} {t : UnitType} {old new : Rect} (hw : Settled w)
    (h : Moved w w' id b position t old new) : Settled w' where
  toOrdered := hw.toOrdered.move h
  occupants := by
    intro x y c' other hc'
    obtain ⟨c, hc, rfl⟩ := cell_before (h.cells x y) hc'
    have hself : c.occupant = some (.unit id) ↔ old.contains x y = true := by
      rw [hw.occupants hc, h.body]
      simp [h.before.covers_iff, h.mobile]
    rw [h.bodies]
    by_cases hother : other = id
    · subst hother
      simp only [if_true, Option.some.injEq, exists_eq_left', (h.after.congr h.ground).covers_iff,
        h.mobile, true_and]
      split
      · rename_i hin
        simp [hin]
      · rename_i hin
        split
        · rename_i hold
          simp [hin, vacate_occupant, hself.2 hold]
        · rename_i hold
          simp [hin, hself, hold]
    · simp only [if_neg hother, bodyCovers_congr h.ground rfl rfl, ← hw.occupants hc]
      split
      · rename_i hin
        have hfree := (Occupancy.blocksBut_eq_false.1 (h.free hc hin)).1 (.unit other)
        simp only [Option.some.injEq, Occupant.unit.injEq, Ne.symm hother, false_iff]
        intro hc
        exact hother (Occupant.unit.inj (hfree hc))
      · split
        · rename_i hold
          simp [vacate_occupant, hself.2 hold, Ne.symm hother]
        · rfl

lemma toggle {b : Body} {isOpen : Bool} {t : UnitType} {r : Rect} {yard : YardMap}
    (hw : Settled w) (h : Toggled w w' id b isOpen t r yard) : Settled w' where
  toOrdered := hw.toOrdered.toggle h
  occupants := by
    intro x y c' other hc'
    obtain ⟨c, hc, rfl⟩ := cell_before (h.cells x y) hc'
    rw [h.bodies, stamp_occupant, hw.occupants hc]
    split
    · rename_i heq
      rw [heq, h.body]
      simp only [Option.some.injEq, exists_eq_left']
      refine (bodyCovers_congr h.ground ?_ ?_).symm <;> rfl
    · simp only [bodyCovers_congr h.ground rfl rfl]

lemma remove (hw : Settled w) (h : Removed w w' id) : Settled w' where
  toOrdered := hw.toOrdered.remove h
  occupants := by
    intro x y c' other hc'
    obtain ⟨c, hc, rfl⟩ := cell_before (h.cells x y) hc'
    rw [h.bodies]
    by_cases hother : other = id
    · simp only [release, hother, if_true]
      split <;> simp [*]
    · simp only [if_neg hother, bodyCovers_congr h.ground rfl rfl, ← hw.occupants hc, release]
      split
      · rename_i hself
        simp [hself, Ne.symm hother]
      · rfl

theorem change (hw : Settled w) (h : Change w w') : Settled w' := by
  cases h with
  | calm h => exact hw.calm h
  | place _ _ _ _ h => exact hw.place h
  | build _ _ _ _ _ h => exact hw.build h
  | move _ _ _ _ _ _ h => exact hw.move h
  | toggle _ _ _ _ _ _ h => exact hw.toggle h
  | remove _ h => exact hw.remove h

lemma land {id : FeatureId} {t : FeatureType} {r : Rect} (hw : Settled w)
    (h : Landed w w' id t r) : Settled w' where
  toOrdered := hw.toOrdered.land h
  occupants := by
    intro x y c' other hc'
    obtain ⟨c, hc, rfl⟩ := cell_before (h.cells x y) hc'
    rw [h.bodies]
    simp only [bodyCovers_congr h.ground rfl rfl, ← hw.occupants hc]
    split
    · rename_i hin
      simp [(Occupancy.blocks_eq_false.1 (h.free hin.1 hc hin.2)).1]
    · rfl

end Settled

/-! ### Features -/

/-- Two worlds in which the same features occupy the same cells. -/
structure SameFeatures (w w' : World) : Prop where
  nextFeature : w'.nextFeature = w.nextFeature
  occupants : ∀ {x y c'}, w'.occupancy.at? x y = some c' → ∃ c, w.occupancy.at? x y = some c ∧
    ∀ id, c'.occupant = some (.feature id) ↔ c.occupant = some (.feature id)

lemma SameFeatures.trans {w'' : World} (h : SameFeatures w w') (h' : SameFeatures w' w'') :
    SameFeatures w w'' where
  nextFeature := h'.nextFeature.trans h.nextFeature
  occupants := by
    intro x y c'' hc''
    obtain ⟨c', hc', h'⟩ := h'.occupants hc''
    obtain ⟨c, hc, h⟩ := h.occupants hc'
    exact ⟨c, hc, fun id => (h' id).trans (h id)⟩

lemma Change.sameFeatures (h : Change w w') : SameFeatures w w' := by
  -- it is enough to look at what the write does to one cell
  have cells : ∀ {f : Nat → Nat → Occupancy → Occupancy},
      (∀ x y, w'.occupancy.at? x y = (w.occupancy.at? x y).map (f x y)) →
      (∀ {x y c}, w.occupancy.at? x y = some c → ∀ id : FeatureId,
        (f x y c).occupant = some (.feature id) ↔ c.occupant = some (.feature id)) →
      ∀ {x y c'}, w'.occupancy.at? x y = some c' → ∃ c, w.occupancy.at? x y = some c ∧
        ∀ id, c'.occupant = some (.feature id) ↔ c.occupant = some (.feature id) := by
    intro f hf h x y c' hc'
    obtain ⟨c, hc, rfl⟩ := cell_before (hf x y) hc'
    exact ⟨c, hc, h hc⟩
  cases h with
  | calm h => exact ⟨h.nextFeature, fun hc => ⟨_, h.occupancy ▸ hc, fun _ => Iff.rfl⟩⟩
  | place id b t r h =>
    refine ⟨h.nextFeature, cells h.cells fun {x y c} hc other => ?_⟩
    split
    · rename_i hin
      simp [(Occupancy.blocks_eq_false.1 (h.free hc hin)).1]
    · rfl
  | build id b t r yard h =>
    exact ⟨h.nextFeature, cells h.cells fun _ other => by rw [stamp_occupant]⟩
  | move id b position t old new h =>
    refine ⟨h.nextFeature, cells h.cells fun {x y c} hc other => ?_⟩
    split
    · rename_i hin
      have hfree := (Occupancy.blocksBut_eq_false.1 (h.free hc hin)).1 (.feature other)
      simp only [Option.some.injEq, reduceCtorEq, false_iff]
      exact fun hc => nomatch hfree hc
    · split
      · rw [vacate_occupant]
        split <;> simp [*]
      · rfl
  | toggle id b isOpen t r yard h =>
    exact ⟨h.nextFeature, cells h.cells fun _ other => by rw [stamp_occupant]⟩
  | remove id h =>
    refine ⟨h.nextFeature, cells h.cells fun _ other => ?_⟩
    rw [release]
    split <;> simp [*]

lemma Episode.sameFeatures (h : Episode w w') : SameFeatures w w' :=
  h.invariant (P := SameFeatures w) (fun write hw => hw.trans write.sameFeatures)
    ⟨rfl, fun hc => ⟨_, hc, fun _ => Iff.rfl⟩⟩

lemma hasAdded_append {o : Operation} {id : FeatureId} {t : FeatureType} {f : Feature} :
    HasAdded (past ++ [⟨w, o⟩]) id t f ↔ HasAdded past id t f ∨
      o = .addFeature t f ∧ ((addFeature t f).on w).1 = .ok (some id) := by
  simp only [HasAdded, List.mem_append, List.mem_singleton, Step.mk.injEq, or_and_right, exists_or]
  refine or_congr Iff.rfl ⟨?_, ?_⟩
  · rintro ⟨before, ⟨rfl, ho⟩, h⟩
    exact ⟨ho.symm, h⟩
  · rintro ⟨ho, h⟩
    exact ⟨w, ⟨rfl, ho.symm⟩, h⟩

/-- An operation that adds no feature leaves the list of features that were added. -/
lemma blocks_append {o : Operation} (hground : SameGround w w')
    (h : ∀ id t f, o = .addFeature t f → ((addFeature t f).on w).1 ≠ .ok (some id))
    {id : FeatureId} {x y : Nat} : Blocks (past ++ [⟨w, o⟩]) w' id x y ↔ Blocks past w id x y := by
  have hadded : ∀ t f, HasAdded (past ++ [⟨w, o⟩]) id t f ↔ HasAdded past id t f := by
    intro t f
    rw [hasAdded_append, or_iff_left]
    rintro ⟨ho, hanswer⟩
    exact h id t f ho hanswer
  simp only [Blocks, hadded, footprint_congr hground.terrain, clip_congr hground]

/-- The features among the occupants are those that were added as blocking ones. -/
structure Stocked (past : List Step) (w : World) : Prop where
  numbered : ∀ {id t f}, HasAdded past id t f → id.val.toNat < w.nextFeature.toNat
  occupants : ∀ {x y c id}, w.occupancy.at? x y = some c →
    (c.occupant = some (.feature id) ↔ Blocks past w id x y)

namespace Stocked

lemma episode {o : Operation} (hw : Stocked past w) (ho : ∀ t f, o ≠ .addFeature t f)
    (h : Episode w w') : Stocked (past ++ [⟨w, o⟩]) w' where
  numbered := by
    intro id t f hadded
    rw [h.sameFeatures.nextFeature]
    rcases hasAdded_append.1 hadded with hadded | ⟨h, -⟩
    · exact hw.numbered hadded
    · exact absurd h (ho t f)
  occupants := by
    intro x y c' id hc'
    obtain ⟨c, hc, hiff⟩ := h.sameFeatures.occupants hc'
    rw [hiff, hw.occupants hc, blocks_append h.ground fun id t f h => absurd h (ho t f)]

/-- Adding a feature that finds no place changes nothing. -/
lemma refuse {t : FeatureType} {f : Feature} (hw : Stocked past w)
    (h : ∀ id, ((addFeature t f).on w).1 ≠ .ok (some id)) :
    Stocked (past ++ [⟨w, .addFeature t f⟩]) w where
  numbered := by
    intro id t' f' hadded
    rcases hasAdded_append.1 hadded with hadded | ⟨ho, hanswer⟩
    · exact hw.numbered hadded
    · cases ho
      exact absurd hanswer (h id)
  occupants := by
    intro x y c id hc
    rw [hw.occupants hc, blocks_append (.refl w)]
    rintro id t' f' ho
    cases ho
    exact h id

/-- A feature that has landed occupies what it covers, if it blocks; all others stay. -/
lemma land {t : FeatureType} {f : Feature} {r : Rect} (hw : Stocked past w)
    (hr : w.footprint f.position t.width t.depth = .ok r)
    (hanswer : ((addFeature t f).on w).1 = .ok (some ⟨w.nextFeature⟩))
    (h : Landed w w' ⟨w.nextFeature⟩ t r) : Stocked (past ++ [⟨w, .addFeature t f⟩]) w' where
  numbered := by
    intro id t' f' hadded
    rw [h.nextFeature]
    rcases hasAdded_append.1 hadded with hadded | ⟨ho, hid⟩
    · exact Nat.lt_succ_of_lt (hw.numbered hadded)
    · cases ho
      rw [hanswer] at hid
      cases hid
      exact Nat.lt_succ_self _
  occupants := by
    intro x y c' id hc'
    obtain ⟨c, hc, rfl⟩ := cell_before (h.cells x y) hc'
    have hlt := Grid.lt_of_at? hc
    have hblocks : Blocks (past ++ [⟨w, .addFeature t f⟩]) w' id x y ↔ Blocks past w id x y ∨
        id = ⟨w.nextFeature⟩ ∧ t.blocking = true ∧ r.contains x y = true := by
      simp only [Blocks, hasAdded_append, footprint_congr h.ground.terrain, clip_congr h.ground,
        Grid.mem_cells_clip, hlt.1, hlt.2, true_and]
      constructor
      · rintro ⟨t', f', r', hadded | ⟨ho, hid⟩, hb, hr', hin⟩
        · exact .inl ⟨t', f', r', hadded, hb, hr', hin⟩
        · cases ho
          rw [hanswer] at hid
          rw [hr] at hr'
          cases hid
          cases hr'
          exact .inr ⟨rfl, hb, hin⟩
      · rintro (⟨t', f', r', hadded, hb, hr', hin⟩ | ⟨rfl, hb, hin⟩)
        · exact ⟨t', f', r', .inl hadded, hb, hr', hin⟩
        · exact ⟨t, f, r, .inr ⟨rfl, hanswer⟩, hb, hr, hin⟩
    rw [hblocks, ← hw.occupants hc]
    split
    · rename_i hin
      simp [(Occupancy.blocks_eq_false.1 (h.free hin.1 hc hin.2)).1, hin.1, hin.2, eq_comm]
    · rename_i hin
      simp [hin]

end Stocked

/-! ### Runs -/

theorem Run.settled (h : Run s past w) : Settled w := by
  induction h with
  | start h =>
    have hi := initial_new h
    exact
      { numbered := fun hb => by rw [hi.body?_eq_none] at hb; cases hb
        standing := fun hb => by rw [hi.body?_eq_none] at hb; cases hb
        occupants := fun hc => by rw [hi.cells hc, hi.body?_eq_none]; simp [Occupancy.free] }
  | @step past w o _ _ ih =>
    rcases o.addFeature_or with ⟨t, f, rfl⟩ | ho
    · rcases after_addFeature_cases t f w with ⟨hafter, -⟩ | ⟨r, -, -, h⟩
      · rw [hafter]
        exact ih
      · exact ih.land h
    · exact (episode_after ho w).invariant (fun write hw => hw.change write) ih

lemma Run.stocked (h : Run s past w) : Stocked past w := by
  induction h with
  | start h =>
    have hi := initial_new h
    exact
      { numbered := by rintro _ _ _ ⟨_, ⟨⟩, _⟩
        occupants := fun hc => by
          rw [hi.cells hc]
          simp [Occupancy.free, Blocks, HasAdded] }
  | @step past w o _ _ ih =>
    rcases o.addFeature_or with ⟨t, f, rfl⟩ | ho
    · rcases after_addFeature_cases t f w with ⟨hafter, hanswer⟩ | ⟨r, hr, hanswer, h⟩
      · rw [hafter]
        exact ih.refuse hanswer
      · exact ih.land hr hanswer h
    · exact ih.episode ho (episode_after ho w)

/-- In terms of bodies, the cells that a unit covers. -/
lemma Settled.covers_iff (hw : Settled w) {x y : Nat} :
    Covers w id x y ↔ ∃ b, w.body? id = some b ∧ BodyCovers w b x y := by
  constructor
  · rintro ⟨u, t, r, hu, ht, hm, hr, hin⟩
    have hb : w.body? id = some u.body := body?_eq_some_iff.2 ⟨u, hu, rfl⟩
    obtain ⟨t', r', hs⟩ := hw.standing hb
    have hr' := unitFootprint_eq_ok hu hs
    rw [hr] at hr'
    cases hr'
    exact ⟨u.body, hb, t, r, ⟨ht, stands_of_unitFootprint hu ht hr hs.onMap |>.footprint, hs.onMap⟩,
      hm, hin⟩
  · rintro ⟨b, hb, t, r, hs, hm, hin⟩
    obtain ⟨u, hu, rfl⟩ := body?_eq_some_iff.1 hb
    exact ⟨u, t, r, hu, hs.unitType, hm, unitFootprint_eq_ok hu hs, hin⟩

/-- A mobile unit has its footprint on the map. -/
lemma Settled.footprint (hw : Settled w) {u : UnitState} (hu : w.units.get? id = some u) :
    ∃ r, w.unitFootprint id = .ok r ∧ (w.occupancy.region? r).isSome := by
  obtain ⟨t, r, hs⟩ := hw.standing (body?_eq_some_iff.2 ⟨u, hu, rfl⟩)
  exact ⟨r, unitFootprint_eq_ok hu hs, hs.onMap⟩

/-- The cells of a rectangle on the map are cells of the map. -/
lemma exists_at?_of_onMap {r : Rect} {x y : Nat} (hmap : (w.occupancy.region? r).isSome)
    (hin : r.contains x y = true) : ∃ c, w.occupancy.at? x y = some c := by
  obtain ⟨region, hregion⟩ := Option.isSome_iff_exists.1 hmap
  have hlt := Grid.lt_of_mem_region? hregion ((mem_cells_of_onMap hregion).2 hin)
  exact Grid.exists_at? hlt.1 hlt.2

lemma nonneg_of_onMap {r : Rect} {x y : Int} (hmap : (w.occupancy.region? r).isSome)
    (hin : r.contains x y = true) : 0 ≤ x ∧ 0 ≤ y := by
  obtain ⟨region, hregion⟩ := Option.isSome_iff_exists.1 hmap
  obtain ⟨hle, -⟩ := Grid.region?_eq_some_iff.1 hregion
  have := Rect.contains_iff.1 hin
  omega

/-- What a unit covers, it occupies. -/
lemma Settled.exists_occupant (hw : Settled w) {x y : Nat} (h : Covers w id x y) :
    ∃ c, w.occupancy.at? x y = some c ∧ c.occupant = some (.unit id) := by
  obtain ⟨b, hb, t, r, hs, hm, hin⟩ := hw.covers_iff.1 h
  obtain ⟨c, hc⟩ := exists_at?_of_onMap hs.onMap hin
  exact ⟨c, hc, (hw.occupants hc).2 ⟨b, hb, t, r, hs, hm, hin⟩⟩

/-- What a feature blocks, it occupies. -/
lemma Stocked.exists_occupant (hw : Stocked past w) {id : FeatureId} {x y : Nat}
    (h : Blocks past w id x y) :
    ∃ c, w.occupancy.at? x y = some c ∧ c.occupant = some (.feature id) := by
  have ⟨t, f, r, _, _, _, hmem⟩ := h
  obtain ⟨hx, hy, -⟩ := Grid.mem_cells_clip.1 hmem
  obtain ⟨c, hc⟩ := Grid.exists_at? hx hy
  exact ⟨c, hc, (hw.occupants hc).2 h⟩

/-- A cell has at most one occupant. -/
lemma occupant_unique {x y : Nat} {o o' : Occupant}
    (h : ∃ c, w.occupancy.at? x y = some c ∧ c.occupant = some o)
    (h' : ∃ c, w.occupancy.at? x y = some c ∧ c.occupant = some o') : o = o' := by
  obtain ⟨c, hc, ho⟩ := h
  obtain ⟨c', hc', ho'⟩ := h'
  rw [hc] at hc'
  cases hc'
  rw [ho] at ho'
  exact Option.some.inj ho'

/-- **The occupants are exact.**  In every world that a battle comes to, a cell is occupied by a
unit if and only if that is a mobile unit in the world with the cell in its footprint, and by a
feature if and only if that was added as a blocking one and has the cell in its footprint.  So every
mobile unit occupies its whole footprint, and no cell is in the footprints of two mobile units or
blocking features. -/
theorem occupants_exact (h : Run s past w) :
    (∀ {x y c}, w.occupancy.at? x y = some c →
      (∀ id, c.occupant = some (.unit id) ↔ Covers w id x y) ∧
      ∀ id, c.occupant = some (.feature id) ↔ Blocks past w id x y) ∧
    (∀ {id u t}, w.units.get? id = some u → w.definitions.unitType u.unitType = .ok t →
      t.isMobile = true → ∃ r, w.unitFootprint id = .ok r ∧ ∀ x y, r.contains x y = true →
        ∃ c, w.occupancy.get? x y = some c ∧ c.occupant = some (.unit id)) ∧
    ∀ x y, (∀ id id', Covers w id x y → Covers w id' x y → id = id') ∧
      (∀ id id', Blocks past w id x y → Blocks past w id' x y → id = id') ∧
      ∀ id id', Covers w id x y → ¬Blocks past w id' x y := by
  have hs := h.settled
  have hf := h.stocked
  refine ⟨fun hc => ⟨fun id => ?_, fun id => hf.occupants hc⟩, ?_, ?_⟩
  · rw [hs.occupants hc, hs.covers_iff]
  · intro id u t hu ht hm
    obtain ⟨r, hr, hmap⟩ := hs.footprint hu
    refine ⟨r, hr, fun x y hin => ?_⟩
    have hnonneg := nonneg_of_onMap hmap hin
    lift x to Nat using hnonneg.1
    lift y to Nat using hnonneg.2
    obtain ⟨c, hc, ho⟩ := hs.exists_occupant ⟨u, t, r, hu, ht, hm, hr, hin⟩
    refine ⟨c, ?_, ho⟩
    rw [Grid.get?, if_pos hnonneg]
    exact hc
  · intro x y
    refine ⟨fun id id' hid hid' => ?_, fun id id' hid hid' => ?_, fun id id' hid hid' => ?_⟩
    · exact Occupant.unit.inj (occupant_unique (hs.exists_occupant hid) (hs.exists_occupant hid'))
    · exact Occupant.feature.inj
        (occupant_unique (hf.exists_occupant hid) (hf.exists_occupant hid'))
    · cases occupant_unique (hs.exists_occupant hid) (hf.exists_occupant hid')

/-- A tank on the middle cell, and a rock beyond the edge of the map that blocks one cell of it. -/
def Sample.occupied : List Operation :=
  [.addPlayer (.new .human "" 0), .spawnUnit "tank" ⟨0⟩ 0 none,
    .addFeature ⟨2, 1, true, true, 0⟩ ⟨"ROCK", .ofWholes (-32) 0 0, 0⟩]

theorem occupants_exact_tank :
    let b := Sample.battle Sample.occupied
    Run Sample.setup b.1 b.2 ∧
      (∃ c, b.2.occupancy.at? 1 1 = some c ∧ c.occupant = some (.unit ⟨1⟩) ∧
        Covers b.2 ⟨1⟩ 1 1) ∧
      ∃ c, b.2.occupancy.at? 0 1 = some c ∧ c.occupant = some (.feature ⟨0⟩) ∧
        Blocks b.1 b.2 ⟨0⟩ 0 1 := by
  obtain ⟨hcomplete, htank, hrock⟩ : Operation.AllComplete Sample.occupied Sample.start ∧
      (Sample.battle Sample.occupied).2.occupancy.at? 1 1 = some ⟨some (.unit ⟨1⟩), none⟩ ∧
      (Sample.battle Sample.occupied).2.occupancy.at? 0 1 = some ⟨some (.feature ⟨0⟩), none⟩ := by
    decide +kernel
  have hrun := Sample.run_battle hcomplete
  exact ⟨hrun, ⟨_, htank, rfl, ((occupants_exact hrun).1 htank).1 _ |>.1 rfl⟩,
    ⟨_, hrock, rfl, ((occupants_exact hrun).1 hrock).2 _ |>.1 rfl⟩⟩

end Lockstep.World
