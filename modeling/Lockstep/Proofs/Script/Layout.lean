import Lockstep.Script.Assembly
import Mathlib.Tactic.Common
/-!
# Where the items of a script stand

An item stands behind all words of the items before it.  The words of an assembled script are those
of its items one after the other (`Program.assemble_eq_ok`): an opcode stands there with the
operands that were written down with it, and a jump with the address where its label stands for the
last time.  The addresses between items are the boundaries of the script; functions and labels stand
at such.
-/

namespace Lockstep.Script

/-- The label that an item refers to. -/
def Item.target? : Item → Option String
  | .jump name => some name
  | .jumpIfZero name => some name
  | _ => none

/-- An item is no raw word, and if it is an opcode, it has the operands that are read with it. -/
def Item.Complete : Item → Prop
  | .word _ => False
  | .op opcode operands => operands.length = opcode.operandCount
  | _ => True

namespace Assembly

variable {items before after rest : List Item} {item : Item} {address a : Nat} {name label : String}
  {t : NameTable Nat} {ws : List UInt32}

/-! ### Addresses -/

/-- The number of words that items take. -/
def extent : List Item → Nat
  | [] => 0
  | item :: rest => item.size + extent rest

@[simp] lemma extent_nil : extent [] = 0 := rfl

@[simp] lemma extent_cons (item : Item) (items : List Item) :
    extent (item :: items) = item.size + extent items := rfl

@[simp] lemma extent_append (before after : List Item) :
    extent (before ++ after) = extent before + extent after := by
  induction before with
  | nil => rw [List.nil_append, extent_nil, Nat.zero_add]
  | cons item rest ih => rw [List.cons_append, extent_cons, ih, extent_cons, Nat.add_assoc]

lemma extent_replicate (n : Nat) (item : Item) :
    extent (List.replicate n item) = n * item.size := by
  induction n with
  | zero => rw [List.replicate_zero, extent_nil, Nat.zero_mul]
  | succ n ih => rw [List.replicate_succ, extent_cons, ih, Nat.succ_mul, Nat.add_comm]

/-- An item stands at an address. -/
def StandsAt (items : List Item) (item : Item) (address : Nat) : Prop :=
  ∃ before after, items = before ++ item :: after ∧ extent before = address

/-- A label stands at an address for the last time. -/
def Defines (items : List Item) (label : String) (address : Nat) : Prop :=
  ∃ before after, items = before ++ .label label :: after ∧ .label label ∉ after ∧
    extent before = address

/-- An instruction begins at an address, or the script ends there. -/
def Boundary (items : List Item) (address : Nat) : Prop :=
  (∃ item, 0 < item.size ∧ StandsAt items item address) ∨ address = extent items

/-- Wherever a script is cut between two items there is a boundary. -/
lemma boundary_of_append (before after : List Item) :
    Boundary (before ++ after) (extent before) := by
  induction after generalizing before with
  | nil => exact .inr (by rw [List.append_nil])
  | cons item rest ih =>
    by_cases hsize : 0 < item.size
    · exact .inl ⟨item, hsize, before, rest, rfl, rfl⟩
    · -- a function or a label takes no words: the next item stands at the same address
      have hnext := ih (before ++ [item])
      rwa [List.append_assoc, List.singleton_append, extent_append, extent_cons, extent_nil,
        Nat.eq_zero_of_not_pos hsize] at hnext

lemma StandsAt.boundary (h : StandsAt items item a) : Boundary items a := by
  obtain ⟨before, after, rfl, rfl⟩ := h
  exact boundary_of_append before (item :: after)

lemma StandsAt.boundary_next (h : StandsAt items item a) : Boundary items (a + item.size) := by
  obtain ⟨before, after, rfl, rfl⟩ := h
  have hnext := boundary_of_append (before ++ [item]) after
  rwa [List.append_assoc, List.singleton_append, extent_append, extent_cons, extent_nil,
    Nat.add_zero] at hnext

lemma StandsAt.mem (h : StandsAt items item a) : item ∈ items := by
  obtain ⟨before, after, rfl, -⟩ := h
  exact List.mem_append_right before List.mem_cons_self

lemma Defines.standsAt (h : Defines items label a) : StandsAt items (.label label) a := by
  obtain ⟨before, after, hsplit, -, haddress⟩ := h
  exact ⟨before, after, hsplit, haddress⟩

lemma exists_defines (h : .label label ∈ items) : ∃ a, Defines items label a := by
  induction items with
  | nil => cases h
  | cons item rest ih =>
    by_cases hrest : .label label ∈ rest
    · obtain ⟨a, before, after, rfl, hlast, -⟩ := ih hrest
      exact ⟨_, item :: before, after, rfl, hlast, rfl⟩
    · rcases List.mem_cons.1 h with rfl | h
      · exact ⟨0, [], rest, rfl, hrest, rfl⟩
      · exact absurd h hrest

lemma defines_cons : Defines (item :: rest) label a ↔
    (∃ k, Defines rest label k ∧ a = item.size + k) ∨
      item = .label label ∧ .label label ∉ rest ∧ a = 0 := by
  constructor
  · rintro ⟨_ | ⟨first, before⟩, after, hsplit, hlast, rfl⟩
    · cases hsplit
      exact .inr ⟨rfl, hlast, rfl⟩
    · cases hsplit
      exact .inl ⟨_, ⟨before, after, rfl, hlast, rfl⟩, rfl⟩
  · rintro (⟨k, ⟨before, after, rfl, hlast, rfl⟩, rfl⟩ | ⟨rfl, hlast, rfl⟩)
    · exact ⟨item :: before, after, rfl, hlast, rfl⟩
    · exact ⟨[], rest, rfl, hlast, rfl⟩

/-! ### The table of labels -/

/-- A table in which the label is noted that an item may be. -/
def noted (t : NameTable Nat) (address : Nat) : Item → NameTable Nat
  | .label name => t.insert name address
  | _ => t

lemma labels_cons (item : Item) (rest : List Item) (address : Nat) (t : NameTable Nat) :
    labels (item :: rest) address t = labels rest (address + item.size) (noted t address item) := by
  cases item <;> rfl

lemma get?_noted (t : NameTable Nat) (address : Nat) (item : Item) (name : String) :
    (noted t address item).get? name =
      if item = .label name then some address else t.get? name := by
  cases item with
  | label other =>
    rw [noted, NameTable.get?_insert]
    simp only [Item.label.injEq, eq_comm]
  | _ => simp [noted]

/-- A label has the address where it stands for the last time; the induction is on the items. -/
lemma get?_labels : (labels items address t).get? name = some a ↔
    (∃ k, Defines items name k ∧ a = address + k) ∨
      .label name ∉ items ∧ t.get? name = some a := by
  induction items generalizing address t with
  | nil => simp [labels, Defines]
  | cons item rest ih =>
    rw [labels_cons, ih, get?_noted, List.mem_cons, not_or]
    simp only [defines_cons]
    by_cases hitem : item = .label name
    · subst hitem
      rw [if_pos rfl]
      constructor
      · rintro (⟨k, hk, rfl⟩ | ⟨hrest, haddress⟩)
        · exact .inl ⟨k, .inl ⟨k, hk, (Nat.zero_add k).symm⟩, rfl⟩
        · cases haddress
          exact .inl ⟨0, .inr ⟨rfl, hrest, rfl⟩, rfl⟩
      · rintro (⟨_, ⟨k, hk, rfl⟩ | ⟨-, hrest, rfl⟩, rfl⟩ | ⟨⟨hne, -⟩, -⟩)
        · exact .inl ⟨k, hk, (Nat.add_assoc ..).symm⟩
        · exact .inr ⟨hrest, rfl⟩
        · exact absurd rfl hne
    · rw [if_neg hitem]
      constructor
      · rintro (⟨k, hk, rfl⟩ | ⟨hrest, hget⟩)
        · exact .inl ⟨_, .inl ⟨k, hk, rfl⟩, Nat.add_assoc ..⟩
        · exact .inr ⟨⟨Ne.symm hitem, hrest⟩, hget⟩
      · rintro (⟨_, ⟨k, hk, rfl⟩ | ⟨heq, -⟩, rfl⟩ | ⟨⟨-, hrest⟩, hget⟩)
        · exact .inl ⟨k, hk, (Nat.add_assoc ..).symm⟩
        · exact absurd heq hitem
        · exact .inr ⟨hrest, hget⟩

lemma get?_labels_empty : (labels items 0 .empty).get? label = some a ↔ Defines items label a := by
  rw [get?_labels]
  constructor
  · rintro (⟨k, hk, rfl⟩ | ⟨-, hget⟩)
    · rwa [Nat.zero_add]
    · cases hget
  · exact fun h => .inl ⟨a, h, (Nat.zero_add a).symm⟩

/-! ### Functions -/

/-- Functions stand between items; the induction is on the items. -/
lemma exists_of_mem_functions {f : Function} (h : f ∈ functions items address) :
    ∃ before after, items = before ++ .function f.name :: after ∧
      f.address = address + extent before := by
  induction items generalizing address with
  | nil => cases h
  | cons item rest ih =>
    have later (h : f ∈ functions rest (address + item.size)) : ∃ before after,
        item :: rest = before ++ .function f.name :: after ∧
          f.address = address + extent before := by
      obtain ⟨before, after, rfl, haddress⟩ := ih h
      exact ⟨item :: before, after, rfl, by rw [haddress, extent_cons, Nat.add_assoc]⟩
    cases item with
    | function name =>
      rw [functions] at h
      rcases List.mem_cons.1 h with rfl | h
      · exact ⟨[], rest, rfl, rfl⟩
      · exact later h
    | _ => exact later h

/-! ### The words -/

/-- The words of an item that stands at an address. -/
inductive Encodes (items : List Item) (address : Nat) : Item → List UInt32 → Prop
  /-- A raw word. -/
  | word (w : UInt32) : Encodes items address (.word w) [w]
  /-- An opcode with its operands. -/
  | op (op : Opcode) (operands : List UInt32) :
    Encodes items address (.op op operands) (op.word :: operands)
  /-- Functions have no words. -/
  | function (name : String) : Encodes items address (.function name) []
  /-- Labels have no words. -/
  | label (name : String) : Encodes items address (.label name) []
  /-- A jump to the place of its label. -/
  | jump {label : String} {w : UInt32} : Defines items label w.toNat →
    Encodes items address (.jump label) [Opcode.jump.word, w]
  /-- A jump to the place of its label under a condition. -/
  | jumpIfZero {label : String} {w : UInt32} : Defines items label w.toNat →
    Encodes items address (.jumpIfZero label) [Opcode.jumpIfZero.word, w]
  /-- The address of the item is pushed. -/
  | pushHere : Encodes items address .pushHere [Opcode.pushConstant.word, UInt32.ofNat address]

lemma emit_cons (h : emit t (item :: rest) address = .ok ws) :
    ∃ first others, wordsOf t address item = .ok first ∧
      emit t rest (address + item.size) = .ok others ∧ ws = first ++ others := by
  rw [emit] at h
  cases hfirst : wordsOf t address item with
  | error e => rw [hfirst] at h; cases h
  | ok first =>
    rw [hfirst] at h
    cases hothers : emit t rest (address + item.size) with
    | error e => rw [hothers] at h; cases h
    | ok others =>
      rw [hothers] at h
      cases h
      exact ⟨first, others, rfl, rfl, rfl⟩

lemma target_eq_ok {w : UInt32} (h : target t label = .ok w) :
    ∃ a, t.get? label = some a ∧ w = UInt32.ofNat a := by
  rw [target] at h
  split at h <;> cases h
  exact ⟨_, ‹_›, rfl⟩

lemma length_wordsOf (h : wordsOf t address item = .ok ws) : ws.length = item.size := by
  cases item with
  | jump label | jumpIfZero label =>
    rw [wordsOf] at h
    cases htarget : target t label <;> rw [htarget] at h <;> cases h
    rfl
  | _ => cases h; rfl

lemma length_emit (h : emit t items address = .ok ws) : ws.length = extent items := by
  induction items generalizing address ws with
  | nil => cases h; rfl
  | cons item rest ih =>
    obtain ⟨first, others, hfirst, hothers, rfl⟩ := emit_cons h
    rw [List.length_append, length_wordsOf hfirst, ih hothers, extent_cons]

/-- The words of an item stand behind those of the items before it. -/
lemma emit_append (h : emit t (before ++ after) address = .ok ws) :
    ∃ first others, emit t before address = .ok first ∧
      emit t after (address + extent before) = .ok others ∧ ws = first ++ others := by
  induction before generalizing address ws with
  | nil => exact ⟨[], ws, rfl, h, rfl⟩
  | cons item rest ih =>
    obtain ⟨first, others, hfirst, hothers, rfl⟩ := emit_cons h
    obtain ⟨middle, last, hmiddle, hlast, rfl⟩ := ih hothers
    refine ⟨first ++ middle, last, ?_, ?_, (List.append_assoc ..).symm⟩
    · rw [emit, hfirst, hmiddle]
      rfl
    · rwa [extent_cons, ← Nat.add_assoc]

lemma exists_emit (h : ∀ item ∈ items, ∀ label, item.target? = some label →
    ∃ a, t.get? label = some a) (address : Nat) : ∃ ws, emit t items address = .ok ws := by
  induction items generalizing address with
  | nil => exact ⟨[], rfl⟩
  | cons item rest ih =>
    obtain ⟨others, hothers⟩ :=
      ih (fun item hitem => h item (List.mem_cons_of_mem _ hitem)) (address + item.size)
    have hfirst : ∃ first, wordsOf t address item = .ok first := by
      cases item with
      | jump label | jumpIfZero label =>
        obtain ⟨a, ha⟩ := h _ List.mem_cons_self label rfl
        rw [wordsOf, target, ha]
        exact ⟨_, rfl⟩
      | _ => exact ⟨_, rfl⟩
    obtain ⟨first, hfirst⟩ := hfirst
    rw [emit, hfirst, hothers]
    exact ⟨first ++ others, rfl⟩

/-- All labels that are used stand where an operand can say so. -/
def Near (items : List Item) : Prop :=
  ∀ item ∈ items, ∀ label a, item.target? = some label → Defines items label a → a < UInt32.size

lemma Near.encodes (hnear : Near items) (hitem : item ∈ items)
    (h : wordsOf (labels items 0 .empty) address item = .ok ws) :
    Encodes items address item ws := by
  have found {label : String} {w : UInt32} (htarget : item.target? = some label)
      (h : target (labels items 0 .empty) label = .ok w) : Defines items label w.toNat := by
    obtain ⟨a, ha, rfl⟩ := target_eq_ok h
    have hdefines := get?_labels_empty.1 ha
    rwa [UInt32.toNat_ofNat_of_lt' (hnear item hitem label a htarget hdefines)]
  cases item with
  | word w => cases h; exact .word w
  | op op operands => cases h; exact .op op operands
  | function name => cases h; exact .function name
  | label name => cases h; exact .label name
  | pushHere => cases h; exact .pushHere
  | jump label =>
    rw [wordsOf] at h
    cases htarget : target (labels items 0 .empty) label <;> rw [htarget] at h <;> cases h
    exact .jump (found rfl htarget)
  | jumpIfZero label =>
    rw [wordsOf] at h
    cases htarget : target (labels items 0 .empty) label <;> rw [htarget] at h <;> cases h
    exact .jumpIfZero (found rfl htarget)

end Assembly

open Assembly

variable {items : List Item} {pieces : List String} {staticCount : Nat} {p : Program}

/-- A script of which all labels are defined is assembled. -/
lemma Program.exists_assemble (h : ∀ item ∈ items, ∀ label, item.target? = some label →
    .label label ∈ items) (pieces : List String) (staticCount : Nat) :
    ∃ p, Program.assemble items pieces staticCount = .ok p := by
  have hlabels : ∀ item ∈ items, ∀ label, item.target? = some label →
      ∃ a, (labels items 0 .empty).get? label = some a := by
    intro item hitem label htarget
    obtain ⟨a, ha⟩ := exists_defines (h item hitem label htarget)
    exact ⟨a, get?_labels_empty.2 ha⟩
  obtain ⟨ws, hws⟩ := exists_emit hlabels 0
  rw [Program.assemble, hws]
  exact ⟨_, rfl⟩

theorem Program.assemble_eq_ok (h : Program.assemble items pieces staticCount = .ok p) :
    emit (labels items 0 .empty) items 0 = .ok p.words.toList ∧
      p.functions = Assembly.functions items 0 := by
  rw [Program.assemble] at h
  cases hws : emit (labels items 0 .empty) items 0 <;> rw [hws] at h <;> cases h
  exact ⟨rfl, rfl⟩

/-- The words from the address of an item on. -/
lemma Program.drop_words {item : Item} {a : Nat}
    (h : Program.assemble items pieces staticCount = .ok p) (hitem : StandsAt items item a) :
    ∃ ws, wordsOf (labels items 0 .empty) a item = .ok ws ∧ ws <+: p.words.toList.drop a := by
  obtain ⟨hwords, -⟩ := Program.assemble_eq_ok h
  generalize labels items 0 .empty = t at hwords ⊢
  obtain ⟨before, after, rfl, rfl⟩ := hitem
  obtain ⟨first, others, hfirst, hothers, hwords⟩ := emit_append hwords
  obtain ⟨own, later, hown, -, rfl⟩ := emit_cons hothers
  rw [Nat.zero_add] at hown
  refine ⟨own, hown, ?_⟩
  rw [hwords, ← length_emit hfirst, List.drop_left]
  exact List.prefix_append ..

end Lockstep.Script
