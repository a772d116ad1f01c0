import Mathlib.Tactic.Common
import Lockstep.Proofs.Space.Cells
import Lockstep.Space.YardMap
/-!
# Reading and writing yard maps

What is read of a text is decided by its characters that are not blank, and of these only by as many
as the map has cells (`YardMap.written`).  Either cells are written with all of them, or the first
one that no cell is written with is reported; in each of the two cases the answer is known
(`parse_of_cells`, `parse_of_stray`).  All else follows: two texts with the same written characters
are read in the same way, and a map that is written row by row, with any blanks between the rows, is
read back.
-/

namespace Lockstep

namespace YardCell

variable {c : Char} {cell other : YardCell}

/-- The characters that cells are written with. -/
def alphabet : List Char := ['c', 'C', 'f', 'g', 'G', 'o', 'O', 'w', 'y', 'Y', '.']

lemma mem_alphabet_iff : c ∈ alphabet ↔ ∃ cell : YardCell, cell.toChar = c := by
  constructor
  · intro h
    have hmem : c ∈ all.map toChar := h
    obtain ⟨cell, -, hcell⟩ := List.mem_map.1 hmem
    exact ⟨cell, hcell⟩
  · rintro ⟨cell, rfl⟩
    cases cell <;> decide

lemma toChar_inj (h : cell.toChar = other.toChar) : cell = other :=
  Option.some.inj (by rw [← ofChar?_toChar, h, ofChar?_toChar])

lemma isBlank_toChar (cell : YardCell) : Text.isBlank cell.toChar = false := by
  cases cell <;> rfl

lemma ofChar_toChar (cell : YardCell) : ofChar cell.toChar = .ok cell := by
  rw [ofChar, ofChar?_toChar]

lemma ofChar_of_notMem (h : c ∉ alphabet) : ofChar c = .error (.yardCharacter c) := by
  have hnone : ofChar? c = none := by
    refine List.find?_eq_none.2 fun cell _ hcell => h ?_
    exact mem_alphabet_iff.2 ⟨cell, of_decide_eq_true hcell⟩
  rw [ofChar, hnone]

end YardCell

namespace YardMap

open YardCell (alphabet toChar ofChar)

variable {width height : Nat} {text text' : String} {c : Char} {cs : List Char}
  {cells : List YardCell}

/-- The characters of a text that are not blank. -/
def inked (text : String) : List Char := text.toList.filter fun c => !Text.isBlank c

/-- The characters that the cells of a map are read from. -/
def written (width height : Nat) (text : String) : List Char :=
  (inked text).take (width * height)

/-- No cell is written with the character. -/
def isStray (c : Char) : Bool := decide (c ∉ alphabet)

/-- A cell is the one that a character is written for, or solid ground where nothing is written. -/
def IsReadFrom (cell : YardCell) : Option Char → Prop
  | some c => cell.toChar = c
  | none => cell = .ground

/-- Some cells, and solid ground for those that are missing. -/
def padded (count : Nat) (cells : List YardCell) : List YardCell :=
  cells ++ List.replicate (count - cells.length) .ground

/-! ### The characters -/

lemma mapM_ofChar_toChar (cells : List YardCell) :
    (cells.map toChar).mapM ofChar = .ok cells := by
  induction cells with
  | nil => rfl
  | cons cell rest ih =>
    rw [List.map_cons, List.mapM_cons, YardCell.ofChar_toChar, ih]
    rfl

lemma exists_cells (h : ∀ c ∈ cs, c ∈ alphabet) :
    ∃ cells : List YardCell, cs = cells.map toChar := by
  induction cs with
  | nil => exact ⟨[], rfl⟩
  | cons c rest ih =>
    obtain ⟨hc, hrest⟩ := List.forall_mem_cons.1 h
    obtain ⟨cell, rfl⟩ := YardCell.mem_alphabet_iff.1 hc
    obtain ⟨cells, rfl⟩ := ih hrest
    exact ⟨cell :: cells, rfl⟩

lemma find?_isStray_eq_none_iff : cs.find? isStray = none ↔ ∀ c ∈ cs, c ∈ alphabet := by
  simp only [List.find?_eq_none, isStray, decide_eq_true_eq, not_not]

/-- The characters before the first one that is wrong are read and do not matter. -/
lemma mapM_ofChar_of_stray (h : cs.find? isStray = some c) :
    cs.mapM ofChar = .error (.yardCharacter c) := by
  obtain ⟨hc, before, after, rfl, hbefore⟩ := List.find?_eq_some_iff_append.1 h
  have hread : ∀ d ∈ before, d ∈ alphabet := fun d hd => by
    simpa [isStray] using hbefore d hd
  obtain ⟨cells, rfl⟩ := exists_cells hread
  rw [List.mapM_append, mapM_ofChar_toChar, List.mapM_cons,
    YardCell.ofChar_of_notMem (of_decide_eq_true hc)]
  rfl

/-! ### The two cases -/

lemma parse_eq (width height : Nat) (text : String) :
    parse width height text = (do
      let cells ← (written width height text).mapM ofChar
      Grid.ofArray width height (padded (width * height) cells).toArray) := rfl

lemma length_padded (h : cells.length ≤ width * height) :
    (padded (width * height) cells).length = width * height := by
  rw [padded, List.length_append, List.length_replicate]
  omega

theorem parse_of_cells (hw : 0 < width) (hh : 0 < height)
    (h : written width height text = cells.map toChar) :
    ∃ m, parse width height text = .ok m ∧ m.width = width ∧ m.height = height ∧
      m.cells.toList = padded (width * height) cells := by
  have hlength : cells.length ≤ width * height := by
    rw [← List.length_map toChar, ← h]
    exact List.length_take_le ..
  have hsize : (padded (width * height) cells).toArray.size = width * height :=
    length_padded hlength
  refine ⟨⟨width, height, _, hw, hh, hsize⟩, ?_, rfl, rfl, rfl⟩
  rw [parse_eq, h, mapM_ofChar_toChar]
  show Grid.ofArray width height _ = _
  rw [Grid.ofArray, dif_pos ⟨hw, hh⟩, dif_pos hsize]

theorem parse_of_stray (h : (written width height text).find? isStray = some c) :
    parse width height text = .error (.yardCharacter c) := by
  rw [parse_eq, mapM_ofChar_of_stray h]
  rfl

/-- Each cell is read from its own character, or from none. -/
lemma isReadFrom_padded {count k : Nat} (hk : k < count) (cells : List YardCell) :
    ∃ cell, (padded count cells)[k]? = some cell ∧ IsReadFrom cell (cells.map toChar)[k]? := by
  rcases Nat.lt_or_ge k cells.length with hlt | hge
  · refine ⟨cells[k], ?_, ?_⟩
    · rw [padded, List.getElem?_append_left hlt, List.getElem?_eq_getElem hlt]
    · rw [List.getElem?_map, List.getElem?_eq_getElem hlt]
      exact rfl
  · refine ⟨.ground, ?_, ?_⟩
    · rw [padded, List.getElem?_append_right hge, List.getElem?_replicate, if_pos (by omega)]
    · rw [List.getElem?_map, List.getElem?_eq_none hge]
      exact rfl

lemma parse_cases (hw : 0 < width) (hh : 0 < height) (text : String) :
    ((written width height text).find? isStray = none ∧ ∃ m, parse width height text = .ok m) ∨
      ∃ c, (written width height text).find? isStray = some c ∧
        parse width height text = .error (.yardCharacter c) := by
  cases hstray : (written width height text).find? isStray with
  | none =>
    obtain ⟨cells, hcells⟩ := exists_cells (find?_isStray_eq_none_iff.1 hstray)
    obtain ⟨m, hm, -⟩ := parse_of_cells hw hh hcells
    exact .inl ⟨rfl, m, hm⟩
  | some c => exact .inr ⟨c, rfl, parse_of_stray hstray⟩

lemma exists_parse_iff (hw : 0 < width) (hh : 0 < height) :
    (∃ m, parse width height text = .ok m) ↔ ∀ c ∈ written width height text, c ∈ alphabet := by
  rw [← find?_isStray_eq_none_iff]
  rcases parse_cases hw hh text with ⟨hnone, hm⟩ | ⟨c, hc, he⟩
  · exact iff_of_true hm hnone
  · refine iff_of_false ?_ (by rw [hc]; exact Option.some_ne_none c)
    rintro ⟨m, hm⟩
    rw [he] at hm
    cases hm

lemma parse_eq_error_iff (hw : 0 < width) (hh : 0 < height) {e : SpaceError} :
    parse width height text = .error e ↔
      ∃ c, (written width height text).find? isStray = some c ∧ e = .yardCharacter c := by
  constructor
  · intro he
    rcases parse_cases hw hh text with ⟨-, m, hm⟩ | ⟨c, hc, he'⟩
    · rw [hm] at he
      cases he
    · exact ⟨c, hc, Except.error.inj (he.symm.trans he')⟩
  · rintro ⟨c, hc, rfl⟩
    exact parse_of_stray hc

lemma read_of_parse (hw : 0 < width) (hh : 0 < height) {m : YardMap}
    (hm : parse width height text = .ok m) : m.width = width ∧ m.height = height ∧
      ∀ x y, x < width → y < height → ∃ cell, m.at? x y = some cell ∧
        IsReadFrom cell (written width height text)[y * width + x]? := by
  obtain ⟨cells, hcells⟩ := exists_cells ((exists_parse_iff hw hh).1 ⟨m, hm⟩)
  obtain ⟨m', hm', rfl, rfl, hlist⟩ := parse_of_cells hw hh hcells
  cases hm.symm.trans hm'
  refine ⟨rfl, rfl, fun x y hx hy => ?_⟩
  have hplace : y * m.width + x < m.width * m.height := by
    have hrow := Nat.mul_le_mul_right m.width (Nat.succ_le_of_lt hy)
    rw [Nat.succ_mul, Nat.mul_comm m.height] at hrow
    omega
  obtain ⟨cell, hcell, hread⟩ := isReadFrom_padded hplace cells
  refine ⟨cell, ?_, hcells ▸ hread⟩
  rw [Grid.at?, if_pos hx, ← Array.getElem?_toList, hlist, hcell]

/-- Only the written characters count. -/
lemma parse_congr (h : written width height text = written width height text') :
    parse width height text = parse width height text' := by
  rw [parse_eq, parse_eq, h]

/-! ### Blanks and surplus text -/

lemma inked_append (a b : String) : inked (a ++ b) = inked a ++ inked b := by
  rw [inked, String.toList_append, List.filter_append]
  rfl

lemma inked_eq_nil {s : String} (h : ∀ c ∈ s.toList, Text.isBlank c) : inked s = [] := by
  refine List.filter_eq_nil_iff.2 fun c hc => ?_
  rw [h c hc]
  decide

lemma parse_insert_blank {s : String} (h : ∀ c ∈ s.toList, Text.isBlank c) (a b : String) :
    parse width height (a ++ s ++ b) = parse width height (a ++ b) := by
  refine parse_congr ?_
  simp only [written, inked_append, inked_eq_nil h, List.append_nil]

lemma parse_append {a : String} (h : width * height ≤ (inked a).length) (b : String) :
    parse width height (a ++ b) = parse width height a := by
  refine parse_congr ?_
  rw [written, inked_append, List.take_append_of_le_length h, written]

/-! ### Writing -/

/-- A list cut into a number of rows of the same length. -/
def rows (width : Nat) : Nat → List YardCell → List (List YardCell)
  | 0, _ => []
  | height + 1, cells => cells.take width :: rows width height (cells.drop width)

/-- A map written row by row, each row followed by a gap. -/
def print (gap : String) (m : YardMap) : String :=
  .ofList ((rows m.width m.height m.cells.toList).flatMap fun row => row.map toChar ++ gap.toList)

lemma flatten_rows (h : cells.length = width * height) :
    (rows width height cells).flatten = cells := by
  induction height generalizing cells with
  | zero => rw [rows, List.flatten_nil, List.length_eq_zero_iff.1 h]
  | succ height ih =>
    have hdrop : (cells.drop width).length = width * height := by
      rw [List.length_drop, h, Nat.mul_succ, Nat.add_sub_cancel]
    rw [rows, List.flatten_cons, ih hdrop, List.take_append_drop]

lemma inked_print {gap : String} (hgap : ∀ c ∈ gap.toList, Text.isBlank c) (m : YardMap) :
    inked (print gap m) = m.cells.toList.map toChar := by
  have hrow : ∀ row : List YardCell,
      (row.map toChar ++ gap.toList).filter (fun c => !Text.isBlank c) = row.map toChar := by
    intro row
    have hchars : (row.map toChar).filter (fun c => !Text.isBlank c) = row.map toChar := by
      refine List.filter_eq_self.2 fun c hc => ?_
      obtain ⟨cell, -, rfl⟩ := List.mem_map.1 hc
      rw [YardCell.isBlank_toChar]
      rfl
    have hblank : gap.toList.filter (fun c => !Text.isBlank c) = [] := inked_eq_nil hgap
    rw [List.filter_append, hchars, hblank, List.append_nil]
  have hcells := flatten_rows (m.size_cells : m.cells.toList.length = m.width * m.height)
  rw [inked, print, String.toList_ofList, List.filter_flatMap]
  simp only [hrow]
  rw [List.flatMap_def, ← List.map_flatten, hcells]

lemma parse_print {gap : String} (hgap : ∀ c ∈ gap.toList, Text.isBlank c) (m : YardMap) :
    parse m.width m.height (print gap m) = .ok m := by
  have hlength : m.cells.toList.length = m.width * m.height := m.size_cells
  have hwritten : written m.width m.height (print gap m) = m.cells.toList.map toChar := by
    rw [written, inked_print hgap, ← hlength, ← List.length_map toChar, List.take_length]
  obtain ⟨m', hm', hw, hh, hcells⟩ := parse_of_cells m.width_pos m.height_pos hwritten
  have hcells : m'.cells = m.cells := by
    rw [padded, hlength, Nat.sub_self, List.replicate_zero, List.append_nil] at hcells
    exact Array.toList_inj.1 hcells
  rw [hm']
  congr 1
  obtain ⟨_, _, _, _, _, _⟩ := m
  obtain ⟨_, _, _, _, _, _⟩ := m'
  cases hw
  cases hh
  cases hcells
  rfl

/-- A text is read as a map of a size that is not empty if and only if cells are written with all of
its written characters, which are the first ones that are not blank, as many as there are cells;
otherwise the first one that no cell is written with is reported.  A map that is read has the size,
and each cell is the one that its character is written for, row by row, or solid ground if there are
not so many characters.  So blanks can be put in and taken out anywhere, and what stands behind
enough characters can be changed.  A map that is written row by row, with any blanks between the
rows, is read back. -/
theorem yards_are_read_as_written (hw : 0 < width) (hh : 0 < height) (text : String) :
    ((∃ m, parse width height text = .ok m) ↔ ∀ c ∈ written width height text, c ∈ alphabet) ∧
    (∀ e, parse width height text = .error e ↔
      ∃ c, (written width height text).find? isStray = some c ∧ e = .yardCharacter c) ∧
    (∀ m, parse width height text = .ok m → m.width = width ∧ m.height = height ∧
      ∀ x y, x < width → y < height → ∃ cell, m.at? x y = some cell ∧
        IsReadFrom cell (written width height text)[y * width + x]?) ∧
    (∀ a s b : String, (∀ c ∈ s.toList, Text.isBlank c) →
      parse width height (a ++ s ++ b) = parse width height (a ++ b)) ∧
    (∀ a b b' : String, width * height ≤ (inked a).length →
      parse width height (a ++ b) = parse width height (a ++ b')) ∧
    ∀ (m : YardMap) (gap : String), (∀ c ∈ gap.toList, Text.isBlank c) →
      parse m.width m.height (print gap m) = .ok m := by
  exact ⟨exists_parse_iff hw hh, fun e => parse_eq_error_iff hw hh,
    fun m hm => read_of_parse hw hh hm, fun a s b hs => parse_insert_blank hs a b,
    fun a b b' ha => (parse_append ha b).trans (parse_append ha b').symm,
    fun m gap hgap => parse_print hgap m⟩

/-- Of four cells two are written, with a line break between them, and the others are solid ground;
of two characters that are wrong the first one is reported. -/
theorem yards_are_read_as_written_short : 0 < 2 ∧
    (∃ m, parse 2 2 "c\n." = .ok m ∧ m.at? 1 0 = some .always ∧ m.at? 1 1 = some .ground) ∧
    parse 2 2 "c*!" = .error (.yardCharacter '*') := by
  have hpos : 0 < 2 := by decide
  obtain ⟨haccepted, -, hread, -⟩ := yards_are_read_as_written hpos hpos "c\n."
  obtain ⟨-, hrejected, -⟩ := yards_are_read_as_written hpos hpos "c*!"
  refine ⟨hpos, ?_, (hrejected _).2 ⟨'*', by decide, rfl⟩⟩
  obtain ⟨m, hm⟩ := haccepted.2 (find?_isStray_eq_none_iff.1 (by decide))
  obtain ⟨-, -, hcells⟩ := hread m hm
  obtain ⟨cell, hcell, hwritten⟩ := hcells 1 0 (by decide) (by decide)
  obtain ⟨cell', hcell', hmissing⟩ := hcells 1 1 (by decide) (by decide)
  have halways : cell.toChar = YardCell.always.toChar := hwritten
  have hground : cell' = .ground := hmissing
  exact ⟨m, hm, YardCell.toChar_inj halways ▸ hcell, hground ▸ hcell'⟩

end YardMap

end Lockstep
