import Lockstep.Fingerprint.Log
import Mathlib.Data.Set.Card
/-!
# Where two logs diverge

The search for a divergence walks over the entries of one log and asks the other one at each of
them, so that the two logs may have gaps at different ticks and may have been cut off at different
ticks.  It finds the earliest of all divergences (`Divergence.first?_eq_some_iff`), if there is any
(`Divergence.first?_eq_none_iff`); which of the two logs is walked over makes no difference
(`Divergence.first?_swap`).
-/

namespace Lockstep

open Ranked (rank)

/-! ### The size and the last entry of a table -/

namespace SortedTable

variable {κ ν : Type} [Ranked κ]

/-- There are as many entries as keys that have a value. -/
lemma size_eq_ncard [DecidableEq κ] (t : SortedTable κ ν) :
    t.size = {key | (t.get? key).isSome = true}.ncard := by
  have hkeys : {key | (t.get? key).isSome = true} = (t.keys.toFinset : Set κ) := by
    ext key
    simp [mem_keys]
  rw [hkeys, Set.ncard_coe_finset, List.toFinset_card_of_nodup t.nodup_keys, keys, List.length_map,
    size]

lemma last?_eq_none_iff {t : SortedTable κ ν} : t.last? = none ↔ ∀ key, t.get? key = none := by
  rw [last?, List.getLast?_eq_none_iff]
  constructor
  · intro h key
    rw [get?, h, lookup]
  · intro h
    refine List.eq_nil_iff_forall_not_mem.2 fun e he => ?_
    have hget : t.get? e.1 = some e.2 := get?_eq_some_iff.2 he
    rw [h] at hget
    cases hget

/-- The last entry has the largest of the keys. -/
lemma le_of_last? {t : SortedTable κ ν} {key : κ} {v : ν} (h : t.last? = some (key, v)) :
    t.get? key = some v ∧ ∀ k, (t.get? k).isSome → rank k ≤ rank key := by
  obtain ⟨before, hbefore⟩ := List.getLast?_eq_some_iff.1 h
  have hascending := t.ascending
  rw [hbefore, List.pairwise_append] at hascending
  refine ⟨get?_eq_some_iff.2 (List.mem_of_getLast? h), fun k hk => ?_⟩
  obtain ⟨u, hu⟩ := Option.isSome_iff_exists.1 hk
  have hmem : (k, u) ∈ before ++ [(key, v)] := hbefore ▸ get?_eq_some_iff.1 hu
  rcases List.mem_append.1 hmem with hk | hk
  · exact Nat.le_of_lt (hascending.2.2 _ hk _ (List.mem_singleton.2 rfl))
  · cases List.mem_singleton.1 hk
    exact Nat.le_refl _

lemma last?_eq_some_iff {t : SortedTable κ ν} {key : κ} {v : ν} :
    t.last? = some (key, v) ↔
      t.get? key = some v ∧ ∀ k, (t.get? k).isSome → rank k ≤ rank key := by
  refine ⟨le_of_last?, fun ⟨hget, hmax⟩ => ?_⟩
  cases hlast : t.last? with
  | none =>
    rw [last?_eq_none_iff.1 hlast] at hget
    cases hget
  | some e =>
    -- both keys are the largest one
    obtain ⟨hget', hmax'⟩ := le_of_last? hlast
    have hle := hmax' key (by rw [hget]; rfl)
    have hge := hmax e.1 (by rw [hget']; rfl)
    cases Ranked.rank_eq_iff.1 (Nat.le_antisymm hle hge)
    rw [hget] at hget'
    cases hget'
    rfl

end SortedTable

namespace FingerprintLog

variable {log : FingerprintLog} {content : Tick → Option Fingerprint}

/-- A log holds just the fingerprints that are assigned to ticks. -/
structure Holds (log : FingerprintLog) (content : Tick → Option Fingerprint) : Prop where
  get : ∀ time, log.get? time = content time
  size : log.size = {time | (content time).isSome = true}.ncard
  latest : ∀ time f, log.latest? = some (time, f) ↔
    content time = some f ∧ ∀ t, (content t).isSome → t ≤ time
  empty : log.latest? = none ↔ ∀ time, content time = none

lemma holds_of_get (h : ∀ time, log.get? time = content time) : log.Holds content := by
  obtain rfl : log.get? = content := funext h
  exact ⟨h, log.size_eq_ncard, fun _ _ => SortedTable.last?_eq_some_iff,
    SortedTable.last?_eq_none_iff⟩

/-- A fingerprint that is recorded takes the place of the one that the tick had. -/
lemma holds_record (log : FingerprintLog) (time : Tick) (f : Fingerprint) :
    (log.record time f).2.Holds (Function.update log.get? time (some f)) := by
  refine holds_of_get fun t => ?_
  rw [record, SortedTable.get?_insert, Function.update_apply]
  simp only [Ranked.rank_eq_iff]

lemma holds_discardBefore (log : FingerprintLog) (start : Tick) :
    (log.discardBefore start).Holds fun time => if start ≤ time then log.get? time else none := by
  refine holds_of_get fun time => ?_
  rw [discardBefore, SortedTable.get?_filterKeys]
  simp only [decide_eq_true_iff]

lemma get?_discardBefore_eq_some_iff {start time : Tick} {f : Fingerprint} :
    (log.discardBefore start).get? time = some f ↔ log.get? time = some f ∧ start ≤ time := by
  rw [(holds_discardBefore log start).get]
  split <;> simp [*]

end FingerprintLog

namespace Divergence

variable {log other : FingerprintLog} {d : Divergence} {start : Tick}

/-- Both logs hold a fingerprint of the tick, and these differ. -/
structure Between (log other : FingerprintLog) (d : Divergence) : Prop where
  inLog : log.get? d.time = some d.localPrint
  inOther : other.get? d.time = some d.remotePrint
  ne : d.localPrint ≠ d.remotePrint

/-- The divergence has a property, and none of those that have it is earlier. -/
structure Earliest (P : Divergence → Prop) (d : Divergence) : Prop where
  holds : P d
  le : ∀ d', P d' → d.time ≤ d'.time

/-- The same divergence from the side of the other replica. -/
def swap (d : Divergence) : Divergence := ⟨d.time, d.remotePrint, d.localPrint⟩

/-! ### What the search finds -/

lemma ofShared?_eq_some_iff {e : Tick × Fingerprint} :
    ofShared? other e = some d ↔
      (d.time, d.localPrint) = e ∧ other.get? d.time = some d.remotePrint ∧
        d.localPrint ≠ d.remotePrint := by
  obtain ⟨time, f⟩ := e
  obtain ⟨time', f', g'⟩ := d
  rw [ofShared?]
  constructor
  · intro h
    split at h
    · rename_i g hg
      split at h
      · cases h
      · rename_i hne
        cases h
        exact ⟨rfl, hg, Ne.symm hne⟩
    · cases h
  · rintro ⟨⟨⟩, hg, hne⟩
    simp only at hg hne
    simp only [hg, if_neg (Ne.symm hne)]

/-- A divergence is found at its entry. -/
lemma Between.found (h : Between log other d) :
    (d.time, d.localPrint) ∈ log.toList ∧ ofShared? other (d.time, d.localPrint) = some d :=
  ⟨SortedTable.get?_eq_some_iff.1 h.inLog, ofShared?_eq_some_iff.2 ⟨rfl, h.inOther, h.ne⟩⟩

theorem first?_eq_none_iff : first? log other = none ↔ ∀ d, ¬Between log other d := by
  rw [first?, List.findSome?_eq_none_iff]
  constructor
  · intro h d hd
    obtain ⟨hmem, hfound⟩ := hd.found
    rw [h _ hmem] at hfound
    cases hfound
  · intro h e he
    by_contra hne
    obtain ⟨d, hd⟩ := Option.ne_none_iff_exists'.1 hne
    obtain ⟨rfl, hother, hdiffer⟩ := ofShared?_eq_some_iff.1 hd
    exact h d ⟨SortedTable.get?_eq_some_iff.2 he, hother, hdiffer⟩

lemma earliest_of_first? (h : first? log other = some d) : Earliest (Between log other) d := by
  obtain ⟨before, e, after, hlog, hfound, hbefore⟩ := List.findSome?_eq_some_iff.1 h
  obtain ⟨rfl, hother, hdiffer⟩ := ofShared?_eq_some_iff.1 hfound
  have hmem : (d.time, d.localPrint) ∈ log.toList := by
    rw [hlog]
    exact List.mem_append_right _ List.mem_cons_self
  have hascending : log.toList.Pairwise fun a b => rank a.1 < rank b.1 := log.ascending
  rw [hlog, List.pairwise_append, List.pairwise_cons] at hascending
  obtain ⟨-, ⟨hafter, -⟩, -⟩ := hascending
  refine ⟨⟨SortedTable.get?_eq_some_iff.2 hmem, hother, hdiffer⟩, fun d' hd' => ?_⟩
  obtain ⟨hmem', hfound'⟩ := hd'.found
  rw [hlog, List.mem_append, List.mem_cons, Prod.mk.injEq] at hmem'
  rcases hmem' with hearly | ⟨htime, -⟩ | hlate
  · -- the search would have stopped there
    rw [hbefore _ hearly] at hfound'
    cases hfound'
  · exact UInt32.le_iff_toNat_le.2 (Nat.le_of_eq (congrArg rank htime).symm)
  · exact UInt32.le_iff_toNat_le.2 (Nat.le_of_lt (hafter _ hlate))

/-- A tick has at most one divergence. -/
lemma Between.eq_of_time {d' : Divergence} (h : Between log other d) (h' : Between log other d')
    (htime : d.time = d'.time) : d = d' := by
  obtain ⟨time, f, g⟩ := d
  obtain ⟨time', f', g'⟩ := d'
  obtain rfl : time = time' := htime
  cases h.inLog.symm.trans h'.inLog
  cases h.inOther.symm.trans h'.inOther
  rfl

/-- The search finds the earliest divergence. -/
theorem first?_eq_some_iff : first? log other = some d ↔ Earliest (Between log other) d := by
  refine ⟨earliest_of_first?, fun h => ?_⟩
  cases hfirst : first? log other with
  | none => exact absurd h.holds (first?_eq_none_iff.1 hfirst d)
  | some d' =>
    have h' := earliest_of_first? hfirst
    have hle := UInt32.le_iff_toNat_le.1 (h.le d' h'.holds)
    have hge := UInt32.le_iff_toNat_le.1 (h'.le d h.holds)
    rw [h.holds.eq_of_time h'.holds (Ranked.rank_inj (Nat.le_antisymm hle hge))]

/-- The search finds the earliest of what are known to be the divergences. -/
lemma first?_eq_some_iff_of {P : Divergence → Prop} (h : ∀ d, Between log other d ↔ P d) :
    first? log other = some d ↔ Earliest P d := by
  obtain rfl : Between log other = P := funext fun d => propext (h d)
  exact first?_eq_some_iff

/-! ### The other way around -/

lemma Between.swap (h : Between log other d) : Between other log d.swap :=
  ⟨h.inOther, h.inLog, h.ne.symm⟩

theorem first?_swap (log other : FingerprintLog) :
    first? other log = (first? log other).map swap := by
  cases h : first? log other with
  | none =>
    rw [first?_eq_none_iff] at h
    exact first?_eq_none_iff.2 fun d hd => h d.swap hd.swap
  | some d =>
    have hd := first?_eq_some_iff.1 h
    exact first?_eq_some_iff.2 ⟨hd.holds.swap, fun d' hd' => hd.le d'.swap hd'.swap⟩

/-! ### After earlier ticks have been dropped -/

lemma between_discardBefore :
    Between (log.discardBefore start) other d ↔ Between log other d ∧ start ≤ d.time := by
  constructor
  · rintro ⟨hlog, hother, hne⟩
    obtain ⟨hlog, hle⟩ := FingerprintLog.get?_discardBefore_eq_some_iff.1 hlog
    exact ⟨⟨hlog, hother, hne⟩, hle⟩
  · rintro ⟨⟨hlog, hother, hne⟩, hle⟩
    exact ⟨FingerprintLog.get?_discardBefore_eq_some_iff.2 ⟨hlog, hle⟩, hother, hne⟩

lemma between_discardBefore_right :
    Between log (other.discardBefore start) d ↔ Between log other d ∧ start ≤ d.time := by
  constructor
  · intro h
    obtain ⟨hswap, hle⟩ := between_discardBefore.1 h.swap
    exact ⟨hswap.swap, hle⟩
  · rintro ⟨h, hle⟩
    exact (between_discardBefore.2 ⟨h.swap, hle⟩).swap

/-- The search says nothing just if two logs agree on all ticks that they share, and otherwise it
finds the earliest of all divergences, with the fingerprints on both sides.  It finds the same one
from the other side.  When earlier ticks have been dropped from one log or from both, it finds the
earliest divergence at the ticks that are left.  A log answers just for what has been recorded in it
and not been dropped; what is recorded last for a tick takes the place of what was there. -/
theorem first_divergence_is_exact (log other : FingerprintLog) :
    (first? log other = none ↔
      ∀ time f g, log.get? time = some f → other.get? time = some g → f = g) ∧
    (∀ d, first? log other = some d ↔ Earliest (Between log other) d) ∧
    first? other log = (first? log other).map swap ∧
    (∀ start d,
      (first? (log.discardBefore start) other = some d ↔
        Earliest (fun d => Between log other d ∧ start ≤ d.time) d) ∧
      (first? log (other.discardBefore start) = some d ↔
        Earliest (fun d => Between log other d ∧ start ≤ d.time) d) ∧
      ∀ start', first? (log.discardBefore start) (other.discardBefore start') = some d ↔
        Earliest (fun d => Between log other d ∧ start ≤ d.time ∧ start' ≤ d.time) d) ∧
    log.Holds log.get? ∧
    (∀ start, (log.discardBefore start).Holds fun time =>
      if start ≤ time then log.get? time else none) ∧
    ∀ time f, (log.record time f).1 = log.get? time ∧
      (log.record time f).2.Holds (Function.update log.get? time (some f)) := by
  refine ⟨?_, fun d => first?_eq_some_iff, first?_swap log other,
    fun start d => ⟨?_, ?_, fun start' => ?_⟩, FingerprintLog.holds_of_get fun _ => rfl,
    FingerprintLog.holds_discardBefore log,
    fun time f => ⟨rfl, FingerprintLog.holds_record log time f⟩⟩
  · rw [first?_eq_none_iff]
    constructor
    · intro h time f g hf hg
      by_contra hne
      exact h ⟨time, f, g⟩ ⟨hf, hg, hne⟩
    · intro h d hd
      exact hd.ne (h d.time _ _ hd.inLog hd.inOther)
  · exact first?_eq_some_iff_of fun d => between_discardBefore
  · exact first?_eq_some_iff_of fun d => between_discardBefore_right
  · refine first?_eq_some_iff_of fun d => ?_
    rw [between_discardBefore, between_discardBefore_right, and_assoc,
      and_comm (a := start' ≤ d.time)]

/-- What two replicas recorded: each lacks ticks that the other one has, and one of them has
recorded a tick again. -/
def Sample.logs : FingerprintLog × FingerprintLog :=
  let fill (l : List (UInt32 × UInt32)) : FingerprintLog :=
    l.foldl (fun log e => (log.record ⟨e.1⟩ ⟨e.2⟩).2) .empty
  (fill [(5, 50), (1, 10), (2, 20), (5, 51), (8, 80)], fill [(2, 20), (3, 30), (5, 50), (8, 81)])

/-- The logs diverge at the tick that was recorded again, and after it has been dropped from one of
them at the next one that they share. -/
theorem first_divergence_is_exact_gaps :
    Earliest (Between Sample.logs.1 Sample.logs.2) ⟨⟨5⟩, ⟨51⟩, ⟨50⟩⟩ ∧
      first? (Sample.logs.1.discardBefore ⟨6⟩) Sample.logs.2 = some ⟨⟨8⟩, ⟨80⟩, ⟨81⟩⟩ ∧
      Earliest (fun d => Between Sample.logs.1 Sample.logs.2 d ∧ ⟨6⟩ ≤ d.time)
        ⟨⟨8⟩, ⟨80⟩, ⟨81⟩⟩ := by
  obtain ⟨-, hfirst, -, hwindow, -⟩ := first_divergence_is_exact Sample.logs.1 Sample.logs.2
  have hlater : first? (Sample.logs.1.discardBefore ⟨6⟩) Sample.logs.2 =
      some ⟨⟨8⟩, ⟨80⟩, ⟨81⟩⟩ := by decide
  exact ⟨(hfirst _).1 (by decide), hlater, (hwindow ⟨6⟩ _).1.1 hlater⟩

end Divergence

end Lockstep
