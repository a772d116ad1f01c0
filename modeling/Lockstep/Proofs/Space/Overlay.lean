import Mathlib.Algebra.Group.Int.Defs
import Mathlib.Algebra.Group.Nat.Defs
import Lockstep.Proofs.Space.Cells
/-!
# Cells below an overlay

An overlay whose offset fits a signed word pairs each cell of the grid below with the cell of the
upper grid at the difference of their places.  `Grid.covering?` is that pairing; the overlay
operations are described by it.
-/

namespace Lockstep.Grid

variable {α β : Type}

/-- The value of the upper grid over a cell of the lower one, when the upper grid is laid with its
top left cell at a column and row. -/
def covering? (other : Grid β) (x y cx cy : Nat) : Option β :=
  if x ≤ cx ∧ y ≤ cy then other.at? (cx - x) (cy - y) else none

lemma covering?_eq_some_iff {other : Grid β} {x y cx cy : Nat} {b : β} :
    other.covering? x y cx cy = some b ↔
      ∃ i j, cx = x + i ∧ cy = y + j ∧ other.at? i j = some b := by
  rw [covering?]
  constructor
  · intro h
    split at h
    · exact ⟨cx - x, cy - y, by omega, by omega, h⟩
    · cases h
  · rintro ⟨i, j, rfl, rfl, h⟩
    simpa using h

/-- A word below `2 ^ 31` reads the same with and without a sign. -/
lemma toInt_toInt32 {n : UInt32} (h : n.toNat < 2 ^ 31) : n.toInt32.toInt = n.toNat :=
  BitVec.toInt_eq_toNat_of_lt (x := n.toBitVec) (by
    have : n.toBitVec.toNat = n.toNat := rfl
    omega)

lemma coveringCell_eq_ok {x y : UInt32} {c d : Nat × Nat} (h : coveringCell x y c = .ok d) :
    (x.toNat ≤ c.1 ∧ y.toNat ≤ c.2) ∧ d = (c.1 - x.toNat, c.2 - y.toNat) := by
  simp only [coveringCell, Overflow.difference] at h
  split at h
  · split at h
    · cases h
      exact ⟨by omega, rfl⟩
    · cases h
  · cases h

variable {x y : UInt32} {other : Grid β}

lemma mem_cells_overlayRegion {g : Grid α} (hx : x.toNat < 2 ^ 31) (hy : y.toNat < 2 ^ 31)
    {cx cy : Nat} :
    (cx, cy) ∈ (g.overlayRegion x y other).cells ↔
      (cx < g.width ∧ cy < g.height) ∧ (other.covering? x.toNat y.toNat cx cy).isSome := by
  rw [overlayRegion, mem_cells_clip, Rect.contains_iff]
  simp only [Rect.right, Rect.bottom, toInt_toInt32 hx, toInt_toInt32 hy, covering?]
  split
  · rw [at?_isSome]
    omega
  · simp only [Option.isSome_none, Bool.false_eq_true, and_false, iff_false]
    omega

/-- The change of one covered cell, when it does not overflow. -/
lemma modifyCovered_eq_ok {f : α → β → α} {g g' : Grid α} {c : Nat × Nat}
    (h : modifyCovered x y other f g c = .ok g') :
    (g'.width = g.width ∧ g'.height = g.height) ∧ ∀ cx cy, g'.at? cx cy =
      if (cx, cy) = c then
        (g.at? cx cy).map fun a => (other.covering? x.toNat y.toNat cx cy).elim a (f a)
      else g.at? cx cy := by
  obtain ⟨c1, c2⟩ := c
  rw [modifyCovered] at h
  cases hd : coveringCell x y (c1, c2) with
  | error e => rw [hd] at h; cases h
  | ok d =>
    obtain ⟨hle, rfl⟩ := coveringCell_eq_ok hd
    rw [hd] at h
    have hcov : other.covering? x.toNat y.toNat c1 c2 =
        other.at? (c1 - x.toNat) (c2 - y.toNat) := if_pos hle
    cases hb : other.at? (c1 - x.toNat) (c2 - y.toNat) with
    | none =>
      simp only [bind, Except.bind, hb, pure, Except.pure, Except.ok.injEq] at h
      subst h
      refine ⟨⟨rfl, rfl⟩, fun cx cy => ?_⟩
      split
      · rename_i heq
        cases heq
        simp [hcov, hb]
      · rfl
    | some b =>
      simp only [bind, Except.bind, hb, pure, Except.pure, Except.ok.injEq] at h
      subst h
      refine ⟨⟨width_modifyAt .., height_modifyAt ..⟩, fun cx cy => ?_⟩
      rw [at?_modifyAt]
      split
      · rename_i heq
        cases heq
        simp [hcov, hb]
      · rfl

lemma foldlM_modifyCovered_eq_ok {f : α → β → α} {cs : List (Nat × Nat)} (hcs : cs.Nodup)
    {g g' : Grid α} (h : cs.foldlM (modifyCovered x y other f) g = .ok g') :
    (g'.width = g.width ∧ g'.height = g.height) ∧ ∀ cx cy, g'.at? cx cy =
      if (cx, cy) ∈ cs then
        (g.at? cx cy).map fun a => (other.covering? x.toNat y.toNat cx cy).elim a (f a)
      else g.at? cx cy := by
  induction cs generalizing g with
  | nil =>
    cases h
    exact ⟨⟨rfl, rfl⟩, fun cx cy => by simp⟩
  | cons c cs ih =>
    obtain ⟨hc, hcs⟩ := List.nodup_cons.1 hcs
    rw [List.foldlM_cons] at h
    cases h1 : modifyCovered x y other f g c with
    | error e => rw [h1] at h; cases h
    | ok g1 =>
      rw [h1] at h
      obtain ⟨⟨hw1, hh1⟩, hat1⟩ := modifyCovered_eq_ok h1
      obtain ⟨⟨hw, hh⟩, hat⟩ := ih hcs h
      refine ⟨⟨hw.trans hw1, hh.trans hh1⟩, fun cx cy => ?_⟩
      rw [hat, hat1]
      by_cases heq : (cx, cy) = c
      · subst heq
        simp [hc]
      · simp [heq]

/-- What an overlay leaves behind: each covered cell is changed once, by the cell over it. -/
theorem modifyOverlay_eq_ok {f : α → β → α} {g g' : Grid α} (hx : x.toNat < 2 ^ 31)
    (hy : y.toNat < 2 ^ 31) (h : g.modifyOverlay x y other f = .ok g') :
    (g'.width = g.width ∧ g'.height = g.height) ∧ ∀ cx cy, g'.at? cx cy =
      (g.at? cx cy).map fun a => (other.covering? x.toNat y.toNat cx cy).elim a (f a) := by
  obtain ⟨hsize, hat⟩ := foldlM_modifyCovered_eq_ok (Region.nodup_cells _) h
  refine ⟨hsize, fun cx cy => ?_⟩
  rw [hat]
  split
  · rfl
  · rename_i hc
    cases ha : g.at? cx cy with
    | none => rfl
    | some a =>
      have hnone : other.covering? x.toNat y.toNat cx cy = none := by
        by_contra hne
        exact hc ((mem_cells_overlayRegion hx hy).2
          ⟨lt_of_at? ha, Option.isSome_iff_ne_none.2 hne⟩)
      simp [hnone]

/-! ### Overlays do not overflow -/

/-- A cell that is covered lies neither above nor to the left of what covers it. -/
lemma le_of_mem_overlayRegion {g : Grid α} (hx : x.toNat < 2 ^ 31) (hy : y.toNat < 2 ^ 31)
    {c : Nat × Nat} (hc : c ∈ (g.overlayRegion x y other).cells) :
    x.toNat ≤ c.1 ∧ y.toNat ≤ c.2 := by
  have hcovering := ((mem_cells_overlayRegion hx hy).1 hc).2
  rw [covering?] at hcovering
  split at hcovering
  · assumption
  · cases hcovering

lemma coveringCell_of_le {c : Nat × Nat} (h : x.toNat ≤ c.1 ∧ y.toNat ≤ c.2) :
    coveringCell x y c = .ok (c.1 - x.toNat, c.2 - y.toNat) := by
  simp only [coveringCell, Overflow.difference, h.1, h.2, if_true]
  rfl

/-- The induction is on the cells that are changed. -/
lemma exists_foldlM_modifyCovered {f : α → β → α} {cs : List (Nat × Nat)}
    (hcs : ∀ c ∈ cs, x.toNat ≤ c.1 ∧ y.toNat ≤ c.2) (g : Grid α) :
    ∃ g', cs.foldlM (modifyCovered x y other f) g = .ok g' := by
  induction cs generalizing g with
  | nil => exact ⟨g, rfl⟩
  | cons c cs ih =>
    obtain ⟨g₁, hg₁⟩ : ∃ g₁, modifyCovered x y other f g c = .ok g₁ := by
      rw [modifyCovered, coveringCell_of_le (hcs c List.mem_cons_self)]
      cases h : other.at? (c.1 - x.toNat) (c.2 - y.toNat) with
      | none => exact ⟨g, by simp [bind, Except.bind, h, pure, Except.pure]⟩
      | some b => exact ⟨_, by simp [bind, Except.bind, h, pure, Except.pure]; rfl⟩
    rw [List.foldlM_cons, hg₁]
    exact ih (fun c' hc' => hcs c' (List.mem_cons_of_mem c hc')) g₁

lemma exists_modifyOverlay (f : α → β → α) (g : Grid α) (hx : x.toNat < 2 ^ 31)
    (hy : y.toNat < 2 ^ 31) : ∃ g', g.modifyOverlay x y other f = .ok g' :=
  exists_foldlM_modifyCovered (fun _ hc => le_of_mem_overlayRegion hx hy hc) g

/-- Whether a cell and the one over it have a property; without either they do not. -/
def holdsOver (g : Grid α) (x y : Nat) (other : Grid β) (p : α → β → Bool) (c : Nat × Nat) : Bool :=
  (g.at? c.1 c.2).any fun a => (other.covering? x y c.1 c.2).any (p a)

variable {g : Grid α} {p : α → β → Bool}

lemma holdsOver_iff {x y : Nat} {c : Nat × Nat} : g.holdsOver x y other p c = true ↔
    ∃ a b, g.at? c.1 c.2 = some a ∧ other.covering? x y c.1 c.2 = some b ∧ p a b = true := by
  simp only [holdsOver, Option.any_eq_true, exists_and_left]

lemma holdsAt_of_le {c : Nat × Nat} (h : x.toNat ≤ c.1 ∧ y.toNat ≤ c.2) :
    holdsAt g x y other p c = .ok (g.holdsOver x.toNat y.toNat other p c) := by
  rw [holdsAt, coveringCell_of_le h, holdsOver, covering?, if_pos h]
  cases ha : g.at? c.1 c.2 with
  | none => simp [bind, Except.bind, pure, Except.pure]
  | some a =>
    cases hb : other.at? (c.1 - x.toNat) (c.2 - y.toNat) with
    | none => simp [bind, Except.bind, hb, pure, Except.pure]
    | some b => simp [bind, Except.bind, hb, pure, Except.pure]

/-- The induction is on the cells that are looked at; a hit ends it. -/
lemma anyCovered_of_le {cs : List (Nat × Nat)}
    (hcs : ∀ c ∈ cs, x.toNat ≤ c.1 ∧ y.toNat ≤ c.2) :
    anyCovered g x y other p cs = .ok (cs.any (g.holdsOver x.toNat y.toNat other p)) := by
  induction cs with
  | nil => rfl
  | cons c cs ih =>
    have hrest := ih fun c' hc' => hcs c' (List.mem_cons_of_mem c hc')
    rw [anyCovered, holdsAt_of_le (hcs c List.mem_cons_self), List.any_cons]
    cases g.holdsOver x.toNat y.toNat other p c with
    | true => rfl
    | false => exact hrest

lemma anyOverlay_eq (p : α → β → Bool) (g : Grid α) (hx : x.toNat < 2 ^ 31)
    (hy : y.toNat < 2 ^ 31) : g.anyOverlay x y other p =
      .ok ((g.overlayRegion x y other).cells.any (g.holdsOver x.toNat y.toNat other p)) :=
  anyCovered_of_le fun _ hc => le_of_mem_overlayRegion hx hy hc

lemma exists_anyOverlay (p : α → β → Bool) (g : Grid α) (hx : x.toNat < 2 ^ 31)
    (hy : y.toNat < 2 ^ 31) : ∃ v, g.anyOverlay x y other p = .ok v :=
  ⟨_, anyOverlay_eq p g hx hy⟩

/-- A property is found just if some covered cell and the one over it have it. -/
theorem anyOverlay_iff (hx : x.toNat < 2 ^ 31) (hy : y.toNat < 2 ^ 31) {v : Bool}
    (h : g.anyOverlay x y other p = .ok v) : v = true ↔ ∃ cx cy a b,
      g.at? cx cy = some a ∧ other.covering? x.toNat y.toNat cx cy = some b ∧ p a b = true := by
  rw [anyOverlay_eq p g hx hy] at h
  cases h
  rw [List.any_eq_true]
  constructor
  · rintro ⟨⟨cx, cy⟩, -, hp⟩
    exact ⟨cx, cy, holdsOver_iff.1 hp⟩
  · rintro ⟨cx, cy, a, b, ha, hb, hp⟩
    refine ⟨(cx, cy), ?_, holdsOver_iff.2 ⟨a, b, ha, hb, hp⟩⟩
    exact (mem_cells_overlayRegion hx hy).2 ⟨lt_of_at? ha, by simp [hb]⟩

/-- No pair of covered and covering cell has a property that is found nowhere. -/
lemma not_anyOverlay (hx : x.toNat < 2 ^ 31) (hy : y.toNat < 2 ^ 31)
    (h : g.anyOverlay x y other p = .ok false) {cx cy : Nat} {a : α} {b : β}
    (ha : g.at? cx cy = some a) (hb : other.covering? x.toNat y.toNat cx cy = some b) :
    p a b = false := by
  rw [← Bool.not_eq_true]
  exact fun hp => Bool.false_ne_true ((anyOverlay_iff hx hy h).2 ⟨cx, cy, a, b, ha, hb, hp⟩)

end Lockstep.Grid
