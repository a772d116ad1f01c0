/-!
# Tables in the order of their keys

A table assigns values to finitely many keys, such as identifiers or moments, and is always walked
in ascending order of the keys, so that every replica of a battle does the same things in the same
order.  The entries are kept as a list that ascends strictly; two tables with the same values at all
keys are therefore equal.

The lookup after each operation is given by `get?_insert`, `get?_erase`, `get?_modify`,
`get?_filterKeys` and `get?_filterValues`, and `ext` says that lookups determine the table.
-/

namespace Lockstep

/-- Keys that are ordered by a number that belongs to each of them alone. -/
class Ranked (κ : Type) where
  /-- The number of a key. -/
  rank : κ → Nat
  /-- Different keys have different numbers. -/
  rank_inj : ∀ {a b : κ}, rank a = rank b → a = b

open Ranked (rank rank_inj)

@[simp] theorem Ranked.rank_eq_iff {κ : Type} [Ranked κ] {a b : κ} : rank a = rank b ↔ a = b :=
  ⟨rank_inj, congrArg rank⟩

/-- A finite assignment of values to keys, in ascending order of the keys. -/
structure SortedTable (κ ν : Type) [Ranked κ] where
  /-- The keys with their values. -/
  entries : List (κ × ν)
  /-- The keys ascend strictly. -/
  ascending : entries.Pairwise fun a b => rank a.1 < rank b.1

namespace SortedTable

variable {κ ν μ : Type} [Ranked κ]

instance [DecidableEq κ] [DecidableEq ν] : DecidableEq (SortedTable κ ν) := fun s t =>
  if h : s.entries = t.entries then
    .isTrue (by cases s; cases t; cases h; rfl)
  else .isFalse fun e => h (congrArg entries e)

/-- The table without entries. -/
def empty : SortedTable κ ν := ⟨[], .nil⟩

instance : Inhabited (SortedTable κ ν) := ⟨empty⟩

/-- The keys with their values, in ascending order of the keys. -/
def toList (t : SortedTable κ ν) : List (κ × ν) := t.entries

/-- The keys in ascending order. -/
def keys (t : SortedTable κ ν) : List κ := t.entries.map Prod.fst

/-- The values in ascending order of their keys. -/
def values (t : SortedTable κ ν) : List ν := t.entries.map Prod.snd

/-- The number of entries. -/
def size (t : SortedTable κ ν) : Nat := t.entries.length

/-- The value of a key in a list of entries. -/
def lookup (key : κ) : List (κ × ν) → Option ν
  | [] => none
  | (k, v) :: rest => if rank key = rank k then some v else lookup key rest

/-- The value of a key. -/
def get? (t : SortedTable κ ν) (key : κ) : Option ν := lookup key t.entries

/-- Whether a key has a value. -/
def contains (t : SortedTable κ ν) (key : κ) : Bool := (t.get? key).isSome

/-- Puts an entry where it belongs, in place of one with the same key. -/
def place (key : κ) (value : ν) : List (κ × ν) → List (κ × ν)
  | [] => [(key, value)]
  | (k, v) :: rest =>
    if rank key < rank k then (key, value) :: (k, v) :: rest
    else if rank key = rank k then (key, value) :: rest
    else (k, v) :: place key value rest

theorem mem_place {key : κ} {value : ν} {e : κ × ν} {l : List (κ × ν)}
    (h : e ∈ place key value l) : e = (key, value) ∨ e ∈ l := by
  induction l with
  | nil => simpa [place] using h
  | cons head rest ih =>
    obtain ⟨k, v⟩ := head
    rw [place] at h
    split at h
    · simpa using h
    · split at h
      · rcases List.mem_cons.1 h with h | h
        · exact .inl h
        · exact .inr (List.mem_cons_of_mem _ h)
      · rcases List.mem_cons.1 h with h | h
        · exact .inr (h ▸ List.mem_cons_self)
        · rcases ih h with h | h
          · exact .inl h
          · exact .inr (List.mem_cons_of_mem _ h)

theorem pairwise_place {key : κ} {value : ν} {l : List (κ × ν)}
    (h : l.Pairwise fun a b => rank a.1 < rank b.1) :
    (place key value l).Pairwise fun a b => rank a.1 < rank b.1 := by
  induction l with
  | nil => simp [place]
  | cons head rest ih =>
    obtain ⟨k, v⟩ := head
    have ⟨hhead, hrest⟩ := List.pairwise_cons.1 h
    rw [place]
    split
    · rename_i hlt
      refine List.pairwise_cons.2 ⟨fun e he => ?_, h⟩
      rcases List.mem_cons.1 he with rfl | he
      · exact hlt
      · exact Nat.lt_trans hlt (hhead e he)
    · split
      · rename_i heq
        exact List.pairwise_cons.2 ⟨fun e he => heq ▸ hhead e he, hrest⟩
      · rename_i hnlt hne
        refine List.pairwise_cons.2 ⟨fun e he => ?_, ih hrest⟩
        rcases mem_place he with rfl | he
        · show rank k < rank key
          omega
        · exact hhead e he

/-- Assigns a value to a key. -/
def insert (t : SortedTable κ ν) (key : κ) (value : ν) : SortedTable κ ν :=
  ⟨place key value t.entries, pairwise_place t.ascending⟩

/-- The entries whose keys have the property. -/
def filterKeys (t : SortedTable κ ν) (p : κ → Bool) : SortedTable κ ν :=
  ⟨t.entries.filter fun e => p e.1, t.ascending.sublist List.filter_sublist⟩

/-- The entries whose values have the property. -/
def filterValues (t : SortedTable κ ν) (p : ν → Bool) : SortedTable κ ν :=
  ⟨t.entries.filter fun e => p e.2, t.ascending.sublist List.filter_sublist⟩

/-- Takes the value of a key away. -/
def erase (t : SortedTable κ ν) (key : κ) : SortedTable κ ν :=
  t.filterKeys fun k => decide (rank k ≠ rank key)

/-- Replaces each value by one computed from it and its key. -/
def mapWithKey (t : SortedTable κ ν) (f : κ → ν → μ) : SortedTable κ μ :=
  ⟨t.entries.map fun e => (e.1, f e.1 e.2), t.ascending.map _ fun _ _ h => h⟩

/-- Replaces each value by one computed from it. -/
def map (t : SortedTable κ ν) (f : ν → μ) : SortedTable κ μ := t.mapWithKey fun _ v => f v

/-- Changes the value of a key that has one. -/
def modify (t : SortedTable κ ν) (key : κ) (f : ν → ν) : SortedTable κ ν :=
  t.mapWithKey fun k v => if rank k = rank key then f v else v

/-- The smallest key. -/
def minKey? (t : SortedTable κ ν) : Option κ := t.entries.head?.map Prod.fst

/-- The largest key. -/
def maxKey? (t : SortedTable κ ν) : Option κ := t.entries.getLast?.map Prod.fst

/-- The entry with the largest key. -/
def last? (t : SortedTable κ ν) : Option (κ × ν) := t.entries.getLast?

/-! ### Lookup after each operation -/

@[simp] theorem get?_empty (key : κ) : (empty : SortedTable κ ν).get? key = none := rfl

theorem lookup_eq_none {key : κ} {l : List (κ × ν)} (h : ∀ e ∈ l, rank key ≠ rank e.1) :
    lookup key l = none := by
  induction l with
  | nil => rfl
  | cons head rest ih =>
    rw [lookup, if_neg (h head List.mem_cons_self)]
    exact ih fun e he => h e (List.mem_cons_of_mem _ he)

theorem mem_of_lookup {key : κ} {v : ν} {l : List (κ × ν)} (h : lookup key l = some v) :
    (key, v) ∈ l := by
  induction l with
  | nil => simp [lookup] at h
  | cons head rest ih =>
    obtain ⟨k, w⟩ := head
    rw [lookup] at h
    split at h
    · rename_i hk
      cases h
      cases rank_inj hk
      exact List.mem_cons_self
    · exact List.mem_cons_of_mem _ (ih h)

theorem lookup_of_mem {key : κ} {v : ν} {l : List (κ × ν)}
    (hl : l.Pairwise fun a b => rank a.1 < rank b.1) (h : (key, v) ∈ l) :
    lookup key l = some v := by
  induction l with
  | nil => simp at h
  | cons head rest ih =>
    obtain ⟨k, w⟩ := head
    have ⟨hhead, hrest⟩ := List.pairwise_cons.1 hl
    rw [lookup]
    rcases List.mem_cons.1 h with h | h
    · cases h
      simp
    · have := hhead _ h
      rw [if_neg (by simp only at this; omega)]
      exact ih hrest h

theorem get?_eq_some_iff {t : SortedTable κ ν} {key : κ} {v : ν} :
    t.get? key = some v ↔ (key, v) ∈ t.toList :=
  ⟨mem_of_lookup, lookup_of_mem t.ascending⟩

theorem nodup_keys (t : SortedTable κ ν) : t.keys.Nodup :=
  List.pairwise_map.2
    (t.ascending.imp fun h heq => absurd (congrArg rank heq) (Nat.ne_of_lt h))

theorem mem_keys {t : SortedTable κ ν} {key : κ} : key ∈ t.keys ↔ (t.get? key).isSome := by
  simp only [keys, List.mem_map, Option.isSome_iff_exists, get?_eq_some_iff, toList]
  constructor
  · rintro ⟨⟨k, v⟩, hmem, rfl⟩
    exact ⟨v, hmem⟩
  · rintro ⟨v, hmem⟩
    exact ⟨(key, v), hmem, rfl⟩

theorem lookup_place (key key' : κ) (value : ν) (l : List (κ × ν)) :
    lookup key' (place key value l) =
      if rank key' = rank key then some value else lookup key' l := by
  induction l with
  | nil => simp [place, lookup]
  | cons head rest ih =>
    obtain ⟨k, v⟩ := head
    rw [place]
    split
    · simp [lookup]
    · split
      · rename_i heq
        by_cases h : rank key' = rank k <;> simp [lookup, heq, h]
      · rename_i hne
        rw [lookup, ih, lookup]
        split
        · rename_i h
          rw [if_neg (by omega)]
        · rfl

theorem get?_insert (t : SortedTable κ ν) (key key' : κ) (value : ν) :
    (t.insert key value).get? key' = if rank key' = rank key then some value else t.get? key' :=
  lookup_place key key' value t.entries

theorem lookup_filterKeys (key : κ) (p : κ → Bool) (l : List (κ × ν)) :
    lookup key (l.filter fun e => p e.1) = if p key then lookup key l else none := by
  induction l with
  | nil => simp [lookup]
  | cons head rest ih =>
    obtain ⟨k, v⟩ := head
    rw [List.filter_cons]
    by_cases hk : rank key = rank k
    · cases rank_inj hk
      by_cases hp : p key <;> simp [hp, lookup, ih]
    · by_cases hp : p k <;> simp [hp, lookup, hk, ih]

theorem get?_filterKeys (t : SortedTable κ ν) (p : κ → Bool) (key : κ) :
    (t.filterKeys p).get? key = if p key then t.get? key else none :=
  lookup_filterKeys key p t.entries

theorem get?_erase (t : SortedTable κ ν) (key key' : κ) :
    (t.erase key).get? key' = if rank key' = rank key then none else t.get? key' := by
  rw [erase, get?_filterKeys]
  by_cases h : rank key' = rank key <;> simp [h]

theorem lookup_mapWithKey (f : κ → ν → μ) (key : κ) (l : List (κ × ν)) :
    lookup key (l.map fun e => (e.1, f e.1 e.2)) = (lookup key l).map (f key) := by
  induction l with
  | nil => rfl
  | cons head rest ih =>
    obtain ⟨k, v⟩ := head
    by_cases h : rank key = rank k
    · cases rank_inj h
      simp [lookup]
    · simp [lookup, h, ih]

theorem get?_mapWithKey (t : SortedTable κ ν) (f : κ → ν → μ) (key : κ) :
    (t.mapWithKey f).get? key = (t.get? key).map (f key) :=
  lookup_mapWithKey f key t.entries

theorem get?_modify (t : SortedTable κ ν) (key key' : κ) (f : ν → ν) :
    (t.modify key f).get? key' =
      if rank key' = rank key then (t.get? key').map f else t.get? key' := by
  rw [modify, get?_mapWithKey]
  by_cases h : rank key' = rank key <;> simp [h]

theorem get?_filterValues (t : SortedTable κ ν) (p : ν → Bool) (key : κ) :
    (t.filterValues p).get? key = (t.get? key).filter p := by
  refine Option.ext fun v => ?_
  rw [get?_eq_some_iff, Option.filter_eq_some_iff, get?_eq_some_iff]
  exact List.mem_filter

/-- Tables with the same lookups are the same. -/
theorem ext {s t : SortedTable κ ν} (h : ∀ key, s.get? key = t.get? key) : s = t := by
  obtain ⟨l, hl⟩ := s
  obtain ⟨m, hm⟩ := t
  suffices l = m by cases this; rfl
  have h' : ∀ key, lookup key l = lookup key m := h
  clear h
  induction l generalizing m with
  | nil =>
    cases m with
    | nil => rfl
    | cons head rest => simpa [lookup] using h' head.1
  | cons head rest ih =>
    obtain ⟨k, v⟩ := head
    cases m with
    | nil => simpa [lookup] using h' k
    | cons head' rest' =>
      obtain ⟨k', v'⟩ := head'
      have ⟨hhead, hrest⟩ := List.pairwise_cons.1 hl
      have ⟨hhead', hrest'⟩ := List.pairwise_cons.1 hm
      have hk : rank k = rank k' := by
        have h1 := mem_of_lookup (h' k ▸ (by simp [lookup] : lookup k ((k, v) :: rest) = some v))
        have h2 := mem_of_lookup
          (h' k' ▸ (by simp [lookup] : lookup k' ((k', v') :: rest') = some v'))
        rcases List.mem_cons.1 h1 with h1 | h1
        · cases h1; rfl
        · rcases List.mem_cons.1 h2 with h2 | h2
          · cases h2; rfl
          · have := hhead _ h2
            have := hhead' _ h1
            simp only at *
            omega
      cases rank_inj hk
      have hv : v = v' := by simpa [lookup] using h' k
      cases hv
      have := ih hrest rest' hrest' fun key => by
        have := h' key
        rw [lookup, lookup] at this
        by_cases hkey : rank key = rank k
        · rw [lookup_eq_none fun e he => by have := hhead e he; simp only at this; omega,
            lookup_eq_none fun e he => by have := hhead' e he; simp only at this; omega]
        · simpa [hkey] using this
      rw [this]

end SortedTable

end Lockstep
