import Mathlib.Tactic.Common
import Lockstep.Text.Upcase
/-!
# Texts in upper case

A text in upper case is its own upper-case form.  This is read off the tables: the code points that
stand in them as upper-case forms are apart from those that have another upper-case form.  Both are
given as runs, so that there are only few of them to compare.
-/

namespace Lockstep.Text

/-- Code points at equal distances: the first, the last, and the stride from one to the next. -/
structure CodeRun where
  first : Nat
  last : Nat
  stride : Nat

namespace CodeRun

/-- A code point belongs to a run. -/
def Has (r : CodeRun) (n : Nat) : Prop := r.first ≤ n ∧ n ≤ r.last ∧ (n - r.first) % r.stride = 0

/-- Two runs lie one behind the other, or one holds the even and one the odd code points. -/
def isApart (r s : CodeRun) : Bool :=
  Nat.blt r.last s.first || Nat.blt s.last r.first ||
    ((Nat.beq r.stride 2 || Nat.beq r.first r.last) && Nat.beq s.stride 2 &&
      Nat.beq ((r.first + s.first) % 2) 1)

lemma not_has_of_isApart {r s : CodeRun} (h : r.isApart s = true) {n : Nat} (hr : r.Has n) :
    ¬s.Has n := by
  obtain ⟨rfirst, rlast, rstride⟩ := r
  obtain ⟨sfirst, slast, sstride⟩ := s
  simp only [isApart, Bool.or_eq_true, Bool.and_eq_true, Nat.blt_eq, Nat.beq_eq] at h
  simp only [Has] at hr ⊢
  rcases h with (h | h) | ⟨⟨rfl | rfl, rfl⟩, h⟩ <;> omega

end CodeRun

/-- The code points that have an upper-case form other than themselves. -/
def lowerRuns : List CodeRun :=
  upcaseExpansions.map (fun e => ⟨e.1, e.1, 1⟩) ++
    upcaseRuns.map fun r => ⟨r.1, r.2.1, r.2.2.1⟩

/-- The code points that are upper-case forms, and zero for what is no code point. -/
def upperRuns : List CodeRun :=
  ⟨0, 0, 1⟩ :: upcaseExpansions.flatMap (fun e => e.2.map fun n => ⟨n, n, 1⟩) ++
    upcaseRuns.map fun r => ⟨(r.1 + r.2.2.2).toNat, (r.2.1 + r.2.2.2).toNat, r.2.2.1⟩

lemma isApart_upperRuns : (upperRuns.all fun r => lowerRuns.all fun s => r.isApart s) = true := by
  decide +kernel

/-- The distances do not lead below zero. -/
lemma nonneg_of_mem_upcaseRuns :
    ∀ r ∈ upcaseRuns, 0 ≤ (r.1 : Int) + r.2.2.2 := by
  decide +kernel

/-- The code point of an upper-case form, and what stands for it if there is no such character. -/
lemma exists_upperRuns_ofNat {r : CodeRun} (hr : r ∈ upperRuns) {n : Nat} (hn : r.Has n) :
    ∃ r ∈ upperRuns, r.Has (Char.ofNat n).toNat := by
  by_cases hvalid : n.isValidChar
  · rw [Char.ofNat, dif_pos hvalid]
    exact ⟨r, hr, hn⟩
  · rw [Char.ofNat, dif_neg hvalid]
    exact ⟨⟨0, 0, 1⟩, List.mem_cons_self, Nat.le_refl 0, Nat.le_refl 0, rfl⟩

/-- A character whose upper-case form is another one stands in the tables, and so does the form. -/
lemma upcaseChar_cases (c : Char) :
    upcaseChar c = [c] ∨
      (∃ s ∈ lowerRuns, s.Has c.toNat) ∧ ∀ d ∈ upcaseChar c, ∃ r ∈ upperRuns, r.Has d.toNat := by
  have single (n : Nat) : CodeRun.Has ⟨n, n, 1⟩ n := ⟨Nat.le_refl n, Nat.le_refl n, Nat.mod_one _⟩
  rw [upcaseChar]
  split
  · rename_i ns hns
    obtain ⟨l, l', hl, -⟩ := List.lookup_eq_some_iff.1 hns
    have he : (c.toNat, ns) ∈ upcaseExpansions :=
      hl ▸ List.mem_append_right l List.mem_cons_self
    refine .inr ⟨⟨_, List.mem_append_left _ (List.mem_map_of_mem he), single _⟩, fun d hd => ?_⟩
    obtain ⟨n, hn, rfl⟩ := List.mem_map.1 hd
    have hr : (⟨n, n, 1⟩ : CodeRun) ∈ upperRuns :=
      List.mem_cons_of_mem _ <| List.mem_append_left _ <|
        List.mem_flatMap.2 ⟨_, he, List.mem_map_of_mem hn⟩
    exact exists_upperRuns_ofNat hr (single n)
  · split
    · rename_i first last stride distance hfind
      have hrun := List.mem_of_find?_eq_some hfind
      have hc := List.find?_some hfind
      simp only [Bool.and_eq_true, decide_eq_true_eq, beq_iff_eq] at hc
      refine .inr ⟨⟨_, List.mem_append_right _ (List.mem_map_of_mem hrun), hc.1.1, hc.1.2, hc.2⟩,
        fun d hd => ?_⟩
      rw [List.mem_singleton.1 hd]
      have hr : (⟨(first + distance).toNat, (last + distance).toNat, stride⟩ : CodeRun) ∈
          upperRuns :=
        List.mem_cons_of_mem _ <| List.mem_append_right _ <| List.mem_map_of_mem hrun
      refine exists_upperRuns_ofNat hr ⟨?_, ?_, ?_⟩
      all_goals simp only
      · omega
      · omega
      · have hfirst : 0 ≤ (first : Int) + distance := nonneg_of_mem_upcaseRuns _ hrun
        have hsame : (c.toNat + distance).toNat - (first + distance).toNat = c.toNat - first := by
          omega
        rw [hsame]
        exact hc.2
    · exact .inl rfl

lemma upcaseChar_of_mem {c d : Char} (h : d ∈ upcaseChar c) : upcaseChar d = [d] := by
  rcases upcaseChar_cases c with hc | ⟨-, hc⟩
  · rw [hc, List.mem_singleton] at h
    rw [h, hc]
  · obtain ⟨r, hr, hd⟩ := hc d h
    refine (upcaseChar_cases d).resolve_right ?_
    rintro ⟨⟨s, hs, hd'⟩, -⟩
    have hapart := List.all_eq_true.1 (List.all_eq_true.1 isApart_upperRuns r hr) s hs
    exact CodeRun.not_has_of_isApart hapart hd hd'

/-- A text in upper case is its own upper-case form. -/
theorem upcase_upcase (s : String) : upcase (upcase s) = upcase s := by
  simp only [upcase, String.toList_ofList]
  congr 1
  generalize s.toList = cs
  induction cs with
  | nil => rfl
  | cons c cs ih =>
    rw [List.flatMap_cons, List.flatMap_append, ih]
    congr 1
    have hd : ∀ d ∈ upcaseChar c, upcaseChar d = [d] := fun d => upcaseChar_of_mem
    generalize upcaseChar c = ds at hd
    induction ds with
    | nil => rfl
    | cons d ds ih =>
      have hds : ∀ d ∈ ds, upcaseChar d = [d] := fun d' hd' => hd d' (List.mem_cons_of_mem _ hd')
      rw [List.flatMap_cons, hd d List.mem_cons_self, ih hds]
      rfl

end Lockstep.Text
