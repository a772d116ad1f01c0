import Lockstep.Proofs.Script.Callers
import Lockstep.Proofs.World.Resting
import Lockstep.Proofs.World.Sessions
/-!
# The threads of a battle

Between two worlds of a battle a stored thread that is still there has gone along a passage: it has
carried out what it did in its turns, and otherwise it rested (`Run.passage`).  So its callers have
been protected from the functions that it called, however long these have slept or waited
(`Run.lowest_eq`).
-/

namespace Lockstep.World

open Script (Environment Machine Numbered Passed Thread ThreadState)
open Script.Machine (Passage)

variable {s : Setup} {past later : List Step} {w w' w₁ : World} {o : Operation} {id : UnitId}
  {env env' env'' : Environment} {n n' : ThreadId} {t t' : Thread} {m m' : Machine World}
  {l l' : List Turn} {T : Turn} {record : List (UnitId × ThreadId)}

/-- The machines from which a thread carries out its instructions in some turns. -/
def machinesOf (n : ThreadId) (l : List Turn) : List (Machine World) :=
  l.flatMap fun T => if T.thread = n then T.trail else []

lemma machinesOf_append (n : ThreadId) (l l' : List Turn) :
    machinesOf n (l ++ l') = machinesOf n l ++ machinesOf n l' := List.flatMap_append

lemma machinesOf_singleton (n : ThreadId) (T : Turn) :
    machinesOf n [T] = if T.thread = n then T.trail else [] := List.flatMap_singleton ..

/-! ### Turns -/

theorem Trail.passage {l : List (Machine World)} {r : Except ScriptError (Option ThreadState)}
    (h : Trail id m l r m') : Passage host id m.thread l m'.thread := by
  induction h with
  | finished => exact .nil _
  | proceeds hm hproceeds _ ih => exact .step hm (hproceeds.thread ▸ ih)
  | suspends hm hsuspends => exact .step hm (hsuspends.thread ▸ .nil _)
  | stumbles hm hstumbles => exact .step hm (hstumbles.thread ▸ .nil _)

/-- What becomes of the stored threads of a unit in the course of some of its turns: a thread that
is there at the end and has not been started meanwhile was there at the beginning and has gone along
a passage. -/
structure Follows (id : UnitId) (l : List Turn) (env env' : Environment) : Prop where
  next : env.nextThread.toNat ≤ env'.nextThread.toNat
  passage : ∀ {n t'}, n.val.toNat < env.nextThread.toNat → env'.threads.get? n = some t' →
    ∃ t, env.threads.get? n = some t ∧ Passage host id t (machinesOf n l) t'

namespace Follows

lemma append (h : Follows id l env env') (h' : Follows id l' env' env'') :
    Follows id (l ++ l') env env'' where
  next := Nat.le_trans h.next h'.next
  passage := fun {n t''} hn ht'' => by
    obtain ⟨t', ht', hlater⟩ := h'.passage (Nat.lt_of_lt_of_le hn h.next) ht''
    obtain ⟨t, ht, hearlier⟩ := h.passage hn ht'
    rw [machinesOf_append]
    exact ⟨t, ht, hearlier.trans hlater⟩

/-- Threads that do nothing are found as they were. -/
lemma of_stored (hnext : env.nextThread.toNat ≤ env'.nextThread.toNat)
    (h : ∀ {n t'}, n.val.toNat < env.nextThread.toNat → env'.threads.get? n = some t' →
      env.threads.get? n = some t' ∧ machinesOf n l = []) : Follows id l env env' where
  next := hnext
  passage := fun {n t'} hn ht' => by
    obtain ⟨ht, hnone⟩ := h hn ht'
    rw [hnone]
    exact ⟨t', ht, .nil t'⟩

end Follows

/-- A thread that has not been started meanwhile has been stored before. -/
lemma stored_of_passed (h : Passed [] env env') (hn : n.val.toNat < env.nextThread.toNat)
    (ht : env'.threads.get? n = some t) : env.threads.get? n = some t := by
  rcases h.others List.not_mem_nil ht with ht' | ⟨hle, -, -⟩
  · exact ht'
  · exact absurd hn (Nat.not_lt.2 hle)

lemma stored_of_removeThread (h : (env.removeThread n).threads.get? n' = some t) :
    n' ≠ n ∧ env.threads.get? n' = some t := by
  rw [Environment.removeThread, SortedTable.get?_erase] at h
  split at h
  · cases h
  · rename_i hn
    exact ⟨mt Ranked.rank_eq_iff.2 hn, h⟩

/-- While one thread runs, the others rest. -/
lemma Trail.stored {l : List (Machine World)} {r : Except ScriptError (Option ThreadState)}
    (h : Trail id m l r m') (hm : m.environment = env.removeThread n) (hnumbered : Numbered env)
    (hn' : n'.val.toNat < env.nextThread.toNat)
    (ht : m'.environment.threads.get? n' = some t) : n' ≠ n ∧ env.threads.get? n' = some t := by
  have hspared := h.spared (by rw [hm]; exact numbered_removeThread hnumbered n)
  rw [hm] at hspared
  exact stored_of_removeThread (stored_of_passed hspared.passed hn' ht)

/-- A thread that is resumed in its turn goes along its trail, and all others rest. -/
lemma Turn.Leaves.follows (h : T.Leaves env') (hnumbered : Numbered T.environment) :
    Follows T.unit [T] T.environment env' := by
  refine ⟨(h.turned hnumbered).next, fun {n t'} hn ht' => ?_⟩
  rw [machinesOf_singleton]
  rcases h.cases_start with ⟨hstart, henv'⟩ | ⟨m, r, m', hstart, htrail, henv'⟩
  · have ht : T.environment.threads.get? n = some t' := by
      rcases henv' with rfl | rfl
      · exact ht'
      · exact (stored_of_removeThread ht').2
    rw [Turn.trail_of_none hstart, ite_self]
    exact ⟨t', ht, .nil t'⟩
  obtain ⟨t, ht, hm, hthread⟩ := Turn.exists_of_start? hstart
  have others (ht' : m'.environment.threads.get? n = some t') : ∃ t,
      T.environment.threads.get? n = some t ∧
        Passage host T.unit t (if T.thread = n then T.trail else []) t' := by
    obtain ⟨hne, ht⟩ := htrail.stored hm hnumbered hn ht'
    rw [if_neg (Ne.symm hne)]
    exact ⟨t', ht, .nil t'⟩
  rcases henv' with rfl | ⟨state, rfl⟩
  · exact others ht'
  rw [Environment.putThread, SortedTable.get?_insert] at ht'
  split at ht'
  · rename_i heq
    cases Ranked.rank_eq_iff.1 heq
    cases ht'
    have hpassage := htrail.passage
    rw [hthread] at hpassage
    rw [if_pos rfl, ← List.append_nil T.trail]
    exact ⟨t, ht, .rest t.mask .ready (hpassage.trans (.rest m'.thread.mask state (.nil _)))⟩
  · exact others ht'

/-- The induction is on the threads. -/
lemma follows_turnsOf {budget : Nat} {threads : List ThreadId} (hnumbered : Numbered env)
    (h : (threads.foldlM (visitThread budget id) env).on w = (.ok env', w')) :
    Follows id (turnsOf budget id threads w env) env env' := by
  induction threads generalizing w env with
  | nil =>
    cases h
    exact .of_stored (Nat.le_refl _) fun _ ht' => ⟨ht', rfl⟩
  | cons n rest ih =>
    rw [List.foldlM_cons, Action.on_bind] at h
    cases hvisit : (visitThread budget id env n).on w with
    | mk answer w₁ =>
    rw [hvisit] at h
    rcases answer with _ | env₁
    · cases h
    have hleaves : Turn.Leaves ⟨id, n, budget, w, env⟩ env₁ := Turn.leaves_of_visit hvisit
    rw [turnsOf_cons hvisit]
    exact (hleaves.follows hnumbered).append (ih (hleaves.turned hnumbered).numbered h)

lemma Course.follows (h : Course id env l env') (hnumbered : Numbered env) :
    Follows id l env env' := by
  have hnext := (h.turned hnumbered).next
  cases h with
  | still => exact .of_stored hnext fun _ ht' => ⟨ht', rfl⟩
  | started hstart =>
    exact .of_stored hnext fun hn ht' =>
      ⟨stored_of_passed (Passed.of_startNamed hstart).1 hn ht', rfl⟩
  | round hround =>
    obtain ⟨w, w', hon, rfl⟩ := hround
    exact follows_turnsOf hnumbered hon
  | @query T function params m r m' hunit hstart hm _ htrail =>
    -- the thread that is run at once has a number that no other one had before
    obtain ⟨-, -, t, -, -, hpassed⟩ := Passed.startNamed_eq_some hstart
    refine .of_stored hnext fun {n t'} hn ht' => ?_
    obtain ⟨hne, ht⟩ := htrail.stored hm (hpassed.numbered hnumbered)
      (Nat.lt_of_lt_of_le hn hpassed.nextThread) ht'
    rw [machinesOf_singleton, if_neg (Ne.symm hne)]
    exact ⟨stored_of_passed hpassed hn ht, rfl⟩

/-! ### Battles -/

/-- Wherever a thread that was once stored is still there, it has gone along a passage. -/
structure Followed (id : UnitId) (n : ThreadId) (t : Thread) (l : List Turn) (w : World) :
    Prop where
  number : id.val.toNat < w.nextUnit.toNat
  stored : ∀ env, w.environment? id = some env → n.val.toNat < env.nextThread.toNat ∧
    ∀ t', env.threads.get? n = some t' → Passage host id t (machinesOf n l) t'

namespace Followed

lemma begin (hw : Scheduled record w) (ht : w.thread? id n = some t) :
    Followed id n t [] w := by
  obtain ⟨env, henv, ht⟩ := Option.bind_eq_some_iff.1 ht
  obtain ⟨hnumber, hnumbered, -⟩ := hw.numbered henv
  refine ⟨hnumber, fun env₁ henv₁ => ?_⟩
  rw [henv] at henv₁
  cases henv₁
  refine ⟨hnumbered ht, fun t' ht' => ?_⟩
  rw [ht] at ht'
  cases ht'
  exact .nil t

lemma step (h : Followed id n t l w) (hw : Scheduled record w) (ho : o.Completes w) :
    Followed id n t (l ++ ofUnit id (o.turns w)) (o.after w) := by
  have hfate := fate_after ho hw id
  generalize ofUnit id (o.turns w) = own at hfate
  refine ⟨Nat.lt_of_lt_of_le h.number (nextUnit_le_after ho hw), fun env' henv' => ?_⟩
  cases hfate with
  | absent hnone hafter =>
    -- a unit that joins has another number
    rcases hafter with hafter | hle
    · rw [hafter] at henv'
      cases henv'
    · exact absurd h.number (Nat.not_lt.2 hle)
  | present henv hcourse hafter =>
    rcases hafter with hafter | hafter <;> rw [hafter] at henv' <;> cases henv'
    obtain ⟨hn, hstored⟩ := h.stored _ henv
    have hfollows := hcourse.follows (hw.numbered henv).2.1
    refine ⟨Nat.lt_of_lt_of_le hn hfollows.next, fun t'' ht'' => ?_⟩
    obtain ⟨t', ht', hpassage⟩ := hfollows.passage hn ht''
    rw [machinesOf_append]
    exact (hstored t' ht').trans hpassage

end Followed

/-- What has happened determines the world. -/
theorem Run.unique (h : Run s past w) (h' : Run s past w') : w = w' := by
  rcases List.eq_nil_or_concat past with rfl | ⟨past, st, rfl⟩
  · have begun {w : World} (h : Run s [] w) : World.new s = .ok w := by
      generalize hall : ([] : List Step) = all at h
      cases h with
      | start h => exact h
      | step => exact absurd hall (by simp)
    exact Except.ok.inj ((begun h).symm.trans (begun h'))
  · rw [List.concat_eq_append] at h h'
    exact h.of_append_singleton.2.2.trans h'.of_append_singleton.2.2.symm

lemma Run.followed (h : Run s (past ++ later) w) (hpast : Run s past w₁)
    (ht : w₁.thread? id n = some t) : Followed id n t (ofUnit id (turns later)) w := by
  induction later using List.reverseRecOn generalizing w with
  | nil =>
    rw [List.append_nil] at h
    rw [h.unique hpast]
    exact .begin hpast.scheduled ht
  | append_singleton later last ih =>
    rw [← List.append_assoc] at h
    obtain ⟨hbefore, ho, rfl⟩ := h.of_append_singleton
    rw [turns_append, ofUnit_append]
    exact (ih hbefore).step hbefore.scheduled ho

/-- A thread that is stored in two worlds of a battle has gone from one to the other by what it has
done in its turns; the induction is on the operations in between. -/
theorem Run.passage (h : Run s (past ++ later) w) (hpast : Run s past w₁)
    (ht : w₁.thread? id n = some t) (ht' : w.thread? id n = some t') :
    Passage host id t (machinesOf n (ofUnit id (turns later))) t' := by
  obtain ⟨env, henv, ht'⟩ := Option.bind_eq_some_iff.1 ht'
  exact ((h.followed hpast ht).stored env henv).2 t' ht'

/-- As long as a thread is always deeper than `d` when it does something, its lowest `d` frames
remain as they are, through all its turns in a battle. -/
theorem Run.lowest_eq {d : Nat} (h : Run s (past ++ later) w) (hpast : Run s past w₁)
    (ht : w₁.thread? id n = some t) (ht' : w.thread? id n = some t')
    (hdeep : ∀ m ∈ machinesOf n (ofUnit id (turns later)), d < m.thread.depth) :
    t'.lowest d = t.lowest d :=
  ((h.passage hpast ht ht').lowest_eq hdeep).1

end Lockstep.World
