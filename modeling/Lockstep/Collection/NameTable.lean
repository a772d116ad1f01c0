/-!
# Tables of names

A table assigns values to names and is walked in the order in which the names were first put in.
Putting a name in again replaces its value and keeps its place.
-/

namespace Lockstep

/-- A finite assignment of values to names, in the order in which the names came. -/
structure NameTable (ν : Type) where
  /-- The names with their values. -/
  entries : List (String × ν)
  /-- No name occurs twice. -/
  distinct : (entries.map Prod.fst).Nodup

namespace NameTable

variable {ν : Type}

instance [DecidableEq ν] : DecidableEq (NameTable ν) := fun s t =>
  if h : s.entries = t.entries then
    .isTrue (by cases s; cases t; cases h; rfl)
  else .isFalse fun e => h (congrArg entries e)

/-- The table without names. -/
def empty : NameTable ν := ⟨[], .nil⟩

instance : Inhabited (NameTable ν) := ⟨empty⟩

/-- The names with their values, in the order in which the names came. -/
def toList (t : NameTable ν) : List (String × ν) := t.entries

/-- The names in the order in which they came. -/
def names (t : NameTable ν) : List String := t.entries.map Prod.fst

/-- The value of a name in a list of entries. -/
def lookup (name : String) : List (String × ν) → Option ν
  | [] => none
  | (n, v) :: rest => if name = n then some v else lookup name rest

/-- The value of a name. -/
def get? (t : NameTable ν) (name : String) : Option ν := lookup name t.entries

/-- Whether a name has a value. -/
def contains (t : NameTable ν) (name : String) : Bool := (t.get? name).isSome

/-- Replaces the value of a name, or appends the name. -/
def place (name : String) (value : ν) : List (String × ν) → List (String × ν)
  | [] => [(name, value)]
  | (n, v) :: rest => if name = n then (n, value) :: rest else (n, v) :: place name value rest

theorem mem_names_place {name other : String} {value : ν} {l : List (String × ν)} :
    other ∈ (place name value l).map Prod.fst ↔ other = name ∨ other ∈ l.map Prod.fst := by
  induction l with
  | nil => simp [place]
  | cons head rest ih =>
    obtain ⟨n, v⟩ := head
    rw [place]
    split
    · rename_i h
      subst h
      simp
    · simp only [List.map_cons, List.mem_cons, ih]
      constructor
      · rintro (h | h | h) <;> simp [h]
      · rintro (h | h | h) <;> simp [h]

theorem nodup_place {name : String} {value : ν} {l : List (String × ν)}
    (h : (l.map Prod.fst).Nodup) : ((place name value l).map Prod.fst).Nodup := by
  induction l with
  | nil => simp [place]
  | cons head rest ih =>
    obtain ⟨n, v⟩ := head
    rw [List.map_cons, List.nodup_cons] at h
    rw [place]
    split
    · simpa using h
    · rename_i hne
      rw [List.map_cons, List.nodup_cons, mem_names_place]
      exact ⟨fun hn => hn.elim (fun e => hne e.symm) h.1, ih h.2⟩

/-- Assigns a value to a name. -/
def insert (t : NameTable ν) (name : String) (value : ν) : NameTable ν :=
  ⟨place name value t.entries, nodup_place t.distinct⟩

/-- The table that results from assigning the values in turn. -/
def ofList (l : List (String × ν)) : NameTable ν := l.foldl (fun t e => t.insert e.1 e.2) empty

theorem lookup_place (name other : String) (value : ν) (l : List (String × ν)) :
    lookup other (place name value l) = if other = name then some value else lookup other l := by
  induction l with
  | nil => simp [place, lookup]
  | cons head rest ih =>
    obtain ⟨n, v⟩ := head
    rw [place]
    split
    · rename_i h
      subst h
      by_cases h : other = name <;> simp [lookup, h]
    · rename_i hne
      rw [lookup, ih, lookup]
      split
      · rename_i h
        subst h
        rw [if_neg fun e => hne e.symm]
      · rfl

/-- The value of a name after an assignment. -/
theorem get?_insert (t : NameTable ν) (name other : String) (value : ν) :
    (t.insert name value).get? other = if other = name then some value else t.get? other :=
  lookup_place name other value t.entries

end NameTable

end Lockstep
