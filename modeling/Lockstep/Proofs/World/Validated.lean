import Lockstep.Proofs.World.Run
/-!
# Definitions that have been checked

Before a battle begins, every registered type of units is checked, and definitions never change
afterwards.  For the plan this means that the yard map of a building covers its footprint and
nothing else.
-/

namespace Lockstep

lemma NameTable.mem_of_lookup {ν : Type} {name : String} {v : ν} {l : List (String × ν)}
    (h : NameTable.lookup name l = some v) : (name, v) ∈ l := by
  induction l with
  | nil => cases h
  | cons e l ih =>
    obtain ⟨n, v'⟩ := e
    rw [NameTable.lookup] at h
    split at h
    · rename_i heq
      cases h
      exact heq ▸ List.mem_cons_self
    · exact List.mem_cons_of_mem _ (ih h)

lemma NameTable.lookup_of_mem {ν : Type} {name : String} {v : ν} {l : List (String × ν)}
    (hl : (l.map Prod.fst).Nodup) (h : (name, v) ∈ l) : NameTable.lookup name l = some v := by
  induction l with
  | nil => cases h
  | cons e l ih =>
    obtain ⟨n, v'⟩ := e
    obtain ⟨hn, hl⟩ := List.nodup_cons.1 hl
    rw [NameTable.lookup]
    rcases List.mem_cons.1 h with heq | hmem
    · cases heq
      rw [if_pos rfl]
    · have hne : name ≠ n := fun heq => hn (heq ▸ List.mem_map.2 ⟨_, hmem, rfl⟩)
      rw [if_neg hne]
      exact ih hl hmem

lemma NameTable.get?_eq_some_iff {ν : Type} {t : NameTable ν} {name : String} {v : ν} :
    t.get? name = some v ↔ (name, v) ∈ t.toList :=
  ⟨NameTable.mem_of_lookup, NameTable.lookup_of_mem t.distinct⟩

lemma forM_eq_ok {ε α : Type} {f : α → Except ε Unit} {l : List α} (h : l.forM f = .ok ())
    {a : α} (ha : a ∈ l) : f a = .ok () := by
  induction l with
  | nil => cases ha
  | cons b l ih =>
    have hcons : (b :: l).forM f = (f b >>= fun _ => l.forM f) := rfl
    rw [hcons] at h
    obtain ⟨_, hb, hl⟩ := World.exists_of_bind_eq_ok h
    rcases List.mem_cons.1 ha with rfl | ha
    · exact hb
    · exact ih hl ha

/-- The yard map of each type of buildings has the size of its footprint. -/
def Definitions.Fitting (d : Definitions) : Prop :=
  ∀ {name t}, d.unitType name = .ok t → t.isMobile = false →
    ∃ c yard, d.movementClass t.movement = .ok c ∧ t.yardMap = some yard ∧
      yard.width = c.width ∧ yard.height = c.depth

lemma Definitions.mem_unitTypes {d : Definitions} {name : String} {t : UnitType}
    (h : d.unitType name = .ok t) : (Text.upcase name, t) ∈ d.unitTypes.toList := by
  rw [Definitions.unitType, Definitions.require] at h
  split at h
  · rename_i v hv
    cases h
    exact NameTable.get?_eq_some_iff.1 hv
  · cases h

lemma Setup.checkUnitType_eq_ok {d : Definitions} {t : UnitType}
    (h : Setup.checkUnitType d t = .ok ()) :
    ∃ m p c, d.model t.model = .ok m ∧ d.script t.name = .ok p ∧
      d.movementClass t.movement = .ok c ∧ Setup.checkYardMap t (c.width, c.depth) = .ok () := by
  rw [Setup.checkUnitType] at h
  split at h
  · cases h
  · cases h
  · cases h
  · rename_i m p c hm hp hc
    exact ⟨m, p, c, hm, hp, hc, h⟩

lemma Setup.checkYardMap_eq_ok {t : UnitType} {size : Nat × Nat}
    (h : Setup.checkYardMap t size = .ok ()) (hm : t.isMobile = false) :
    ∃ yard, t.yardMap = some yard ∧ (yard.width, yard.height) = size := by
  simp only [Setup.checkYardMap, hm, Bool.false_eq_true, if_false] at h
  split at h
  · cases h
  · rename_i yard hyard
    split at h
    · rename_i hsize
      exact ⟨yard, hyard, hsize⟩
    · cases h

lemma Setup.checkUnitType_of_validate {s : Setup} (h : s.validate = .ok ()) {name : String}
    {t : UnitType} (ht : (name, t) ∈ s.definitions.unitTypes.toList) :
    Setup.checkUnitType s.definitions t = .ok () := by
  simp only [Setup.validate] at h
  split at h
  · cases h
  · have hok := forM_eq_ok h ht
    exact hok

lemma Setup.fitting {s : Setup} (h : s.validate = .ok ()) : s.definitions.Fitting := by
  intro name t ht hm
  obtain ⟨-, -, c, -, -, hc, hy⟩ :=
    Setup.checkUnitType_eq_ok (Setup.checkUnitType_of_validate h (Definitions.mem_unitTypes ht))
  obtain ⟨yard, hyard, hsize⟩ := Setup.checkYardMap_eq_ok hy hm
  obtain ⟨hwidth, hheight⟩ := Prod.mk.inj hsize
  exact ⟨c, yard, hc, hyard, hwidth, hheight⟩

namespace World

variable {s : Setup} {past : List Step} {w w' : World}

/-- The definitions of a battle are those it began with. -/
lemma Run.definitions (h : Run s past w) : w.definitions = s.definitions := by
  induction h with
  | start h => exact (initial_new h).definitions
  | @step past w o _ _ ih =>
    rw [← ih]
    rcases o.addFeature_or with ⟨t, f, rfl⟩ | ho
    · rcases after_addFeature_cases t f w with ⟨hafter, -⟩ | ⟨r, -, -, h⟩
      · rw [hafter]
      · exact h.ground.definitions
    · exact (episode_after ho w).ground.definitions

lemma Run.valid (h : Run s past w) : s.validate = .ok () := by
  induction h with
  | start h => exact (initial_new h).valid
  | step o _ _ ih => exact ih

theorem Run.fitting (h : Run s past w) : w.definitions.Fitting :=
  h.definitions ▸ Setup.fitting h.valid

/-- A building stands on the cells that its yard map covers. -/
theorem Stands.yard {b : Body} {t : UnitType} {r : Rect} (h : Stands w b t r)
    (hd : w.definitions.Fitting) (hm : t.isMobile = false) :
    ∃ yard, t.yardMap = some yard ∧ yard.width = r.width ∧ yard.height = r.height := by
  obtain ⟨c, yard, hc, hyard, hwidth, hheight⟩ := hd h.unitType hm
  obtain ⟨c', hc', hr⟩ := classFootprint_eq_ok h.footprint
  rw [hc] at hc'
  cases hc'
  obtain ⟨-, hw, hh⟩ := footprint_lt hr
  exact ⟨yard, hyard, hwidth.trans hw.symm, hheight.trans hh.symm⟩

/-- The cells that the yard map of a building covers are those of its footprint. -/
lemma Stands.contains_of_covering? {b : Body} {t : UnitType} {r : Rect} {yard : YardMap}
    (h : Stands w b t r) (hd : w.definitions.Fitting) (hm : t.isMobile = false)
    (hyard : t.yardMap = some yard) {x y : Nat} {k : YardCell}
    (hk : yard.covering? r.x.toNat r.y.toNat x y = some k) : r.contains x y = true := by
  obtain ⟨yard', hyard', hw, hh⟩ := h.yard hd hm
  rw [hyard] at hyard'
  cases hyard'
  obtain ⟨i, j, rfl, rfl, hij⟩ := Grid.covering?_eq_some_iff.1 hk
  obtain ⟨hi, hj⟩ := Grid.lt_of_at? hij
  obtain ⟨region, hregion⟩ := Option.isSome_iff_exists.1 h.onMap
  obtain ⟨hle, -⟩ := Grid.region?_eq_some_iff.1 hregion
  rw [Rect.contains_iff, Rect.right, Rect.bottom]
  omega

end World

end Lockstep
