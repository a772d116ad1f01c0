import Mathlib.Data.List.Chain
import Mathlib.Data.List.Nodup
import Mathlib.Data.List.Perm.Subperm
import Lockstep.World.UnitState
/-!
# The hierarchy of pieces

The parents of the pieces of a unit are places in its list of pieces, and nothing keeps them from
leading out of that list or around in a circle.  From a piece the way up leads from parent to
parent; it comes to a root, which has no parent, or leaves the list, or runs into a circle.  A way
that comes to a root visits no piece twice, so it is not longer than the list, which is the bound to
which `UnitState.climb` goes.
-/

namespace Lockstep.UnitState

open Relation (ReflTransGen TransGen)

variable {pieces : List Piece} {i j k r bound n : Nat} {is js : List Nat} {p : Piece}
  {v w : Vector3}

/-- A place is that of the parent of a piece. -/
def IsParent (pieces : List Piece) (i j : Nat) : Prop :=
  ∃ p, pieces[i]? = some p ∧ p.parent = some j

/-- A piece has no parent. -/
def IsRoot (pieces : List Piece) (i : Nat) : Prop := ∃ p, pieces[i]? = some p ∧ p.parent = none

/-- The way up from a piece comes to a place, be it the piece itself. -/
def ComesTo (pieces : List Piece) : Nat → Nat → Prop := ReflTransGen (IsParent pieces)

/-- The way up from a piece comes back to it. -/
def IsCyclic (pieces : List Piece) (i : Nat) : Prop := TransGen (IsParent pieces) i i

/-- The places on the way from a piece up to a root, both included. -/
inductive Ascent (pieces : List Piece) : Nat → List Nat → Prop
  | root {i : Nat} : IsRoot pieces i → Ascent pieces i [i]
  | step {i j : Nat} {is : List Nat} :
    IsParent pieces i j → Ascent pieces j is → Ascent pieces i (i :: is)

/-- A point carried from each piece of a way to its parent. -/
def carry (pieces : List Piece) (is : List Nat) (v : Vector3) : Vector3 :=
  (is.filterMap fun i => pieces[i]?).foldl (fun v p => p.toParent v) v

lemma carry_cons (h : pieces[i]? = some p) (is : List Nat) (v : Vector3) :
    carry pieces (i :: is) v = carry pieces is (p.toParent v) := by
  simp [carry, h]

/-! ### From parent to parent -/

lemma IsParent.eq (h : IsParent pieces i j) (h' : IsParent pieces i k) : j = k := by
  obtain ⟨p, hp, hj⟩ := h
  obtain ⟨q, hq, hk⟩ := h'
  rw [hp] at hq
  cases hq
  exact Option.some.inj (hj.symm.trans hk)

lemma IsParent.not_isRoot (h : IsParent pieces i j) : ¬IsRoot pieces i := by
  rintro ⟨q, hq, hroot⟩
  obtain ⟨p, hp, hj⟩ := h
  rw [hp] at hq
  cases hq
  exact Option.some_ne_none j (hj.symm.trans hroot)

/-- A place in the list is that of a root or of a piece with a parent. -/
lemma isRoot_or_isParent (h : i < pieces.length) :
    IsRoot pieces i ∨ ∃ j, IsParent pieces i j := by
  have hp := List.getElem?_eq_getElem h
  cases hparent : pieces[i].parent with
  | none => exact .inl ⟨_, hp, hparent⟩
  | some j => exact .inr ⟨j, _, hp, hparent⟩

namespace Ascent

lemma eq (h : Ascent pieces i is) (h' : Ascent pieces i js) : is = js := by
  induction h generalizing js with
  | root hroot =>
    cases h' with
    | root => rfl
    | step hparent => exact absurd hroot hparent.not_isRoot
  | step hparent _ ih =>
    cases h' with
    | root hroot => exact absurd hroot hparent.not_isRoot
    | step hparent' h' =>
      cases hparent.eq hparent'
      rw [ih h']

/-- From each place on a way the rest of the way is its own. -/
lemma exists_rest (h : Ascent pieces i is) (hj : j ∈ is) :
    ∃ js, Ascent pieces j js ∧ js.length ≤ is.length := by
  induction h with
  | root hroot =>
    cases List.mem_singleton.1 hj
    exact ⟨_, .root hroot, Nat.le_refl _⟩
  | step hparent h ih =>
    rcases List.mem_cons.1 hj with rfl | hj
    · exact ⟨_, .step hparent h, Nat.le_refl _⟩
    · obtain ⟨js, hjs, hle⟩ := ih hj
      exact ⟨js, hjs, Nat.le_succ_of_le hle⟩

lemma lt_length (h : Ascent pieces i is) (hj : j ∈ is) : j < pieces.length := by
  obtain ⟨js, hjs, -⟩ := h.exists_rest hj
  cases hjs with
  | root hpiece | step hpiece =>
    obtain ⟨p, hp, -⟩ := hpiece
    exact (List.getElem?_eq_some_iff.1 hp).1

/-- A way that came back to a place would be longer than itself. -/
lemma nodup (h : Ascent pieces i is) : is.Nodup := by
  induction h with
  | root => exact List.nodup_singleton _
  | step hparent h ih =>
    refine List.nodup_cons.2 ⟨fun hi => ?_, ih⟩
    obtain ⟨js, hjs, hle⟩ := h.exists_rest hi
    rw [hjs.eq (.step hparent h), List.length_cons] at hle
    exact Nat.not_succ_le_self _ hle

lemma mem_of_comesTo (h : Ascent pieces i is) (hj : ComesTo pieces i j) : j ∈ is := by
  induction h with
  | root hroot =>
    rcases ReflTransGen.cases_head hj with rfl | ⟨k, hk, -⟩
    · exact List.mem_cons_self
    · exact absurd hroot hk.not_isRoot
  | step hparent _ ih =>
    rcases ReflTransGen.cases_head hj with rfl | ⟨k, hk, hj⟩
    · exact List.mem_cons_self
    · cases hparent.eq hk
      exact List.mem_cons_of_mem _ (ih hj)

lemma exists_root (h : Ascent pieces i is) : ∃ r, ComesTo pieces i r ∧ IsRoot pieces r := by
  induction h with
  | root hroot => exact ⟨_, .refl, hroot⟩
  | step hparent _ ih =>
    obtain ⟨r, hr, hroot⟩ := ih
    exact ⟨r, .head hparent hr, hroot⟩

/-- There is no circle on a way that comes to a root. -/
lemma not_isCyclic (h : Ascent pieces i is) (hj : ComesTo pieces i j) : ¬IsCyclic pieces j := by
  intro hcycle
  obtain ⟨js, hjs, -⟩ := h.exists_rest (h.mem_of_comesTo hj)
  obtain ⟨k, hk, hback⟩ := TransGen.head'_iff.1 hcycle
  cases hjs with
  | root hroot => exact hk.not_isRoot hroot
  | step hparent hrest =>
    cases hparent.eq hk
    exact (List.nodup_cons.1 (Ascent.step hparent hrest).nodup).1 (hrest.mem_of_comesTo hback)

end Ascent

lemma exists_ascent_of_isRoot (h : ComesTo pieces i r) (hr : IsRoot pieces r) :
    ∃ is, Ascent pieces i is := by
  induction h using ReflTransGen.head_induction_on with
  | refl => exact ⟨_, .root hr⟩
  | head hparent _ ih =>
    obtain ⟨is, his⟩ := ih
    exact ⟨_, .step hparent his⟩

/-! ### The length of a way -/

lemma length_le_of_nodup (h : is.Nodup) (hlt : ∀ i ∈ is, i < n) : is.length ≤ n := by
  have hsub : is ⊆ List.range n := fun i hi => List.mem_range.2 (hlt i hi)
  simpa using (List.Nodup.subperm h hsub).length_le

lemma Ascent.length_le (h : Ascent pieces i is) : is.length ≤ pieces.length :=
  length_le_of_nodup h.nodup fun _ => h.lt_length

/-- A way that does not leave the list comes to a root or goes on for any number of steps. -/
lemma exists_ascent_or_chain (h : ∀ j, ComesTo pieces i j → j < pieces.length) (n : Nat) :
    (∃ is, Ascent pieces i is) ∨
      ∃ is, is.length = n ∧ (i :: is).IsChain (IsParent pieces) := by
  induction n generalizing i with
  | zero => exact .inr ⟨[], rfl, .singleton _⟩
  | succ n ih =>
    rcases isRoot_or_isParent (h i .refl) with hroot | ⟨j, hparent⟩
    · exact .inl ⟨_, .root hroot⟩
    · rcases ih fun k hk => h k (.head hparent hk) with ⟨is, his⟩ | ⟨is, hlength, his⟩
      · exact .inl ⟨_, .step hparent his⟩
      · exact .inr ⟨j :: is, by rw [List.length_cons, hlength], .cons_cons hparent his⟩

/-- A way that neither leaves the list nor runs into a circle comes to a root, since it would
otherwise visit more places than there are. -/
lemma exists_ascent (h : ∀ j, ComesTo pieces i j → j < pieces.length ∧ ¬IsCyclic pieces j) :
    ∃ is, Ascent pieces i is := by
  rcases exists_ascent_or_chain (fun j hj => (h j hj).1) pieces.length with his | ⟨is, hlength, his⟩
  · exact his
  · have habove : (i :: is).Pairwise (TransGen (IsParent pieces)) :=
      List.isChain_iff_pairwise.1 (his.imp fun _ _ => TransGen.single)
    have hcomes : ∀ j ∈ i :: is, ComesTo pieces i j := by
      intro j hj
      rcases List.mem_cons.1 hj with rfl | hj
      · exact .refl
      · exact ((List.pairwise_cons.1 habove).1 j hj).to_reflTransGen
    have hnodup : (i :: is).Nodup := by
      refine habove.imp_of_mem ?_
      rintro j _ hj - hcycle rfl
      exact (h j (hcomes j hj)).2 hcycle
    have hle := length_le_of_nodup hnodup fun j hj => (h j (hcomes j hj)).1
    rw [List.length_cons, hlength] at hle
    exact absurd hle (Nat.not_succ_le_self _)

/-! ### Climbing -/

lemma climb_of_isRoot (h : IsRoot pieces i) (bound : Nat) (v : Vector3) :
    climb pieces (bound + 1) (some i) v = some (carry pieces [i] v) := by
  obtain ⟨p, hp, hroot⟩ := h
  rw [climb, hp, carry_cons hp]
  simp only [hroot, climb]
  rfl

lemma climb_of_isParent (h : IsParent pieces i j) (bound : Nat) (v : Vector3) :
    ∃ p, pieces[i]? = some p ∧
      climb pieces (bound + 1) (some i) v = climb pieces bound (some j) (p.toParent v) := by
  obtain ⟨p, hp, hparent⟩ := h
  refine ⟨p, hp, ?_⟩
  rw [climb, hp]
  simp only [hparent]

lemma climb_eq_of_ascent (h : Ascent pieces i is) (hle : is.length ≤ bound) (v : Vector3) :
    climb pieces bound (some i) v = some (carry pieces is v) := by
  induction h generalizing bound v with
  | root hroot =>
    obtain ⟨bound, rfl⟩ := Nat.exists_eq_add_of_le' hle
    exact climb_of_isRoot hroot bound v
  | step hparent _ ih =>
    obtain ⟨bound, rfl⟩ := Nat.exists_eq_add_of_le' (Nat.le_trans (Nat.le_add_left 1 _) hle)
    obtain ⟨p, hp, hclimb⟩ := climb_of_isParent hparent bound v
    rw [hclimb, carry_cons hp]
    exact ih (Nat.le_of_succ_le_succ hle) _

lemma exists_ascent_of_climb (h : climb pieces bound (some i) v = some w) :
    ∃ is, Ascent pieces i is := by
  induction bound generalizing i v with
  | zero => cases h
  | succ bound ih =>
    have hi : i < pieces.length := by
      by_contra hout
      rw [climb, List.getElem?_eq_none (Nat.not_lt.1 hout)] at h
      cases h
    rcases isRoot_or_isParent hi with hroot | ⟨j, hparent⟩
    · exact ⟨_, .root hroot⟩
    · obtain ⟨p, -, hclimb⟩ := climb_of_isParent hparent bound v
      rw [hclimb] at h
      obtain ⟨is, his⟩ := ih h
      exact ⟨_, .step hparent his⟩

variable {u : UnitState}

lemma Ascent.pieceLocalPosition?_eq (h : Ascent u.pieces i is) :
    u.pieceLocalPosition? i = some (carry u.pieces is 0) :=
  climb_eq_of_ascent h h.length_le 0

lemma isSome_pieceLocalPosition? :
    (u.pieceLocalPosition? i).isSome ↔ ∃ is, Ascent u.pieces i is := by
  rw [Option.isSome_iff_exists]
  exact ⟨fun ⟨_, h⟩ => exists_ascent_of_climb h, fun ⟨_, his⟩ => ⟨_, his.pieceLocalPosition?_eq⟩⟩

/-- **A piece has a place just if the way up from it comes to a root.**  The place is found if and
only if the way up stays in the list of pieces and comes to a root, however long it is; then it is
the origin of the piece, carried from parent to parent up to the root.  There is no place if and
only if the way up runs into a circle or leaves the list. -/
theorem position_is_carried_up_to_root (u : UnitState) (i : Nat) :
    ((u.pieceLocalPosition? i).isSome ↔
      (∀ j, ComesTo u.pieces i j → j < u.pieces.length) ∧
        ∃ r, ComesTo u.pieces i r ∧ IsRoot u.pieces r) ∧
    (∀ v, u.pieceLocalPosition? i = some v ↔
      ∃ is, Ascent u.pieces i is ∧ v = carry u.pieces is 0) ∧
    (u.pieceLocalPosition? i = none ↔
      (∃ j, ComesTo u.pieces i j ∧ IsCyclic u.pieces j) ∨
        ∃ j, ComesTo u.pieces i j ∧ u.pieces.length ≤ j) := by
  refine ⟨?_, fun v => ⟨fun hv => ?_, ?_⟩, ?_⟩
  · rw [isSome_pieceLocalPosition?]
    constructor
    · rintro ⟨is, his⟩
      exact ⟨fun j hj => his.lt_length (his.mem_of_comesTo hj), his.exists_root⟩
    · rintro ⟨-, r, hr, hroot⟩
      exact exists_ascent_of_isRoot hr hroot
  · obtain ⟨is, his⟩ := isSome_pieceLocalPosition?.1 (Option.isSome_of_eq_some hv)
    rw [his.pieceLocalPosition?_eq] at hv
    exact ⟨is, his, (Option.some.inj hv).symm⟩
  · rintro ⟨is, his, rfl⟩
    exact his.pieceLocalPosition?_eq
  · rw [← Option.not_isSome_iff_eq_none, isSome_pieceLocalPosition?]
    constructor
    · intro hnone
      by_contra hneither
      simp only [not_or, not_exists, not_and, Nat.not_le] at hneither
      exact hnone (exists_ascent fun j hj => ⟨hneither.2 j hj, hneither.1 j hj⟩)
    · rintro (⟨j, hj, hcycle⟩ | ⟨j, hj, hout⟩) ⟨is, his⟩
      · exact his.not_isCyclic hj hcycle
      · exact Nat.not_le.2 (his.lt_length (his.mem_of_comesTo hj)) hout

/-- A way through all pieces is not too long. -/
example :
    let pieces := [Piece.new "hand" 0 (some 2), Piece.new "base" 0 none, Piece.new "arm" 0 (some 1)]
    climb pieces pieces.length (some 0) 0 = some 0 := by decide

end Lockstep.UnitState
