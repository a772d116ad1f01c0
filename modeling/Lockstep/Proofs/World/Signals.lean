import Lockstep.Proofs.World.Course
/-!
# Killed threads stay dead

A thread that a signal kills is out of its script state for good: its number is not given out again,
and the thread that is visited, or put back after its turn, is always one that is still there.  On
the other hand no thread gets lost: each that was ever stored is stored still, unless it has been
killed, has come to its end in its turn, or its unit is gone.
-/

namespace Lockstep.World

open Script (Environment Machine Numbered Thread)

/-- A thread was stored in the script state of a unit: when an operation began, or while a deed of
the unit was done. -/
def Seen (past : List Step) (id : UnitId) (n : ThreadId) : Prop :=
  (∃ st ∈ past, ∃ env, st.before.environment? id = some env ∧ (env.threads.get? n).isSome) ∨
    ∃ d ∈ deeds past, d.unit = id ∧ (d.machine.environment.threads.get? n).isSome

/-- What the record of a battle says of the threads in its world. -/
structure Reckoned (past : List Step) (w : World) : Prop where
  later : (deeds past).Pairwise fun d d' => ∀ n, d.machine.Kills n → d'.unit = d.unit →
    d'.thread ≠ n ∧ d'.machine.environment.threads.get? n = none
  killed : ∀ {d n}, d ∈ deeds past → d.machine.Kills n →
    d.unit.val.toNat < w.nextUnit.toNat ∧ ∀ env, w.environment? d.unit = some env →
      n.val.toNat < env.nextThread.toNat ∧ env.threads.get? n = none
  accounted : ∀ {id n}, Seen past id n →
    id.val.toNat < w.nextUnit.toNat ∧ ∀ env, w.environment? id = some env →
      (env.threads.get? n).isSome ∨ Gone (ofUnit id (turns past)) n

variable {s : Setup} {past : List Step} {w : World} {o : Operation} {id : UnitId} {n : ThreadId}
  {record : List (UnitId × ThreadId)}

/-! ### One operation -/

lemma turns_append (past : List Step) (st : Step) :
    turns (past ++ [st]) = turns past ++ st.operation.turns st.before := by
  rw [turns, List.flatMap_append, List.flatMap_singleton, turns]

lemma deeds_append (past : List Step) (st : Step) :
    deeds (past ++ [st]) = deeds past ++ st.operation.deeds st.before := by
  rw [deeds, turns_append, deedsIn_append, deeds, Operation.deeds]

lemma nextUnit_le_after (ho : o.Completes w) (hw : Scheduled record w) :
    w.nextUnit.toNat ≤ (o.after w).nextUnit.toNat := by
  by_cases hcreation : o.IsCreation
  · cases o with
    | addUnit typeName owner position rotation =>
      simp only [Operation.after, Operation.perform, Action.on_get_bind, Action.on_require_bind]
      cases w.createUnit typeName owner position rotation with
      | error cause => exact Nat.le_refl _
      | ok u =>
        simp only
        rw [Action.on_discard]
        rcases tryAddUnit_joins u w with ⟨answer, hon, -⟩ | ⟨w₁, hon, hjoins⟩
        · rw [hon]
        · rw [hon]
          exact Nat.le_of_lt (hjoins.nextUnit ▸ Nat.lt_succ_self _)
    | spawnUnit typeName owner position rotation =>
      rw [Operation.after, Operation.perform, Action.on_discard]
      rcases trySpawnUnit_cases typeName owner position rotation w with
        ⟨answer, hon, -⟩ | ⟨u, program, w₁, w', -, -, hjoins, hdescends, -, hon⟩
      · rw [hon]
      · rw [hon]
        refine Nat.le_trans ?_ hdescends.nextUnit
        exact Nat.le_of_lt (hjoins.nextUnit ▸ Nat.lt_succ_self _)
    | _ => exact absurd hcreation id
  · exact (descends_after hcreation ho hw).nextUnit

/-- A unit that was there and has a script state after an operation had one before it. -/
lemma Fate.before {w' : World} {l : List Turn} {env' : Environment} (h : Fate id w w' l)
    (hid : id.val.toNat < w.nextUnit.toNat) (henv' : w'.environment? id = some env') :
    ∃ env, w.environment? id = some env ∧ Course id env l env' := by
  cases h with
  | absent hnone hafter =>
    rcases hafter with hafter | hle
    · rw [hafter] at henv'
      cases henv'
    · omega
  | @present env l env₁ henv hcourse hafter =>
    rcases hafter with hafter | hafter
    · rw [hafter] at henv'
      cases henv'
      exact ⟨env, henv, hcourse⟩
    · rw [hafter] at henv'
      cases henv'

lemma deedsIn_ofUnit (id : UnitId) (l : List Turn) :
    deedsIn (ofUnit id l) = (deedsIn l).filter fun d => decide (d.unit = id) := by
  induction l with
  | nil => rfl
  | cons T l ih =>
    have hl : ∀ l, deedsIn (T :: l) = T.deeds ++ deedsIn l := fun l => List.flatMap_cons
    have hT : T.deeds.filter (fun d => decide (d.unit = id)) =
        if T.unit = id then T.deeds else [] := by
      split
      · rename_i h
        exact List.filter_eq_self.2 fun d hd => by simp [(mem_deeds.1 hd).1, h]
      · rename_i h
        exact List.filter_eq_nil_iff.2 fun d hd => by simp [(mem_deeds.1 hd).1, h]
    rw [hl, List.filter_append, hT, ← ih]
    by_cases h : T.unit = id
    · have hcons : ofUnit id (T :: l) = T :: ofUnit id l :=
        List.filter_cons_of_pos (by simpa using h)
      rw [hcons, if_pos h, hl]
    · have hcons : ofUnit id (T :: l) = ofUnit id l := List.filter_cons_of_neg (by simpa using h)
      rw [hcons, if_neg h, List.nil_append]

lemma mem_deedsIn_ofUnit {l : List Turn} {d : Deed} :
    d ∈ deedsIn (ofUnit id l) ↔ d ∈ deedsIn l ∧ d.unit = id := by
  simp [deedsIn_ofUnit]

/-- Something is done only by threads of units that are in the world. -/
lemma Fate.of_deed {w' : World} {l : List Turn} {d : Deed} (h : Fate id w w' (ofUnit id l))
    (hw : Scheduled record w) (hd : d ∈ deedsIn l) (hid : d.unit = id) :
    ∃ env env', w.environment? id = some env ∧ Turned (ofUnit id l) env env' ∧
      (w'.environment? id = some env' ∨ w'.environment? id = none) := by
  have hmem := mem_deedsIn_ofUnit.2 ⟨hd, hid⟩
  generalize ofUnit id l = own at h hmem
  cases h with
  | absent => cases hmem
  | @present env own env' henv hcourse hafter =>
    exact ⟨env, env', henv, hcourse.turned (hw.numbered henv).2.1, hafter⟩

namespace Reckoned

lemma nil (w : World) : Reckoned [] w where
  later := .nil
  killed hd := by cases hd
  accounted hseen := by
    rcases hseen with ⟨st, hst, -⟩ | ⟨d, hd, -⟩
    · cases hst
    · cases hd

/-- Operations keep what the record says. -/
lemma step (h : Reckoned past w) (hw : Scheduled record w) (ho : o.Completes w) :
    Reckoned (past ++ [⟨w, o⟩]) (o.after w) := by
  have hnext := nextUnit_le_after ho hw
  have hfate := fate_after ho hw
  refine ⟨?_, fun {d n} hd hkills => ?_, fun {id n} hseen => ?_⟩
  · rw [deeds_append]
    refine List.pairwise_append.2 ⟨h.later, ?_, fun d hd d' hd' n hkills hunit => ?_⟩
    · -- within the operation: both are deeds of one unit
      refine List.pairwise_iff_forall_sublist.2 fun {d d'} hsub n hkills hunit => ?_
      have hd : d ∈ o.deeds w := hsub.subset List.mem_cons_self
      obtain ⟨env, env', -, hturned, -⟩ := (hfate d.unit).of_deed hw hd rfl
      have hlater := hturned.later
      rw [deedsIn_ofUnit] at hlater
      have hboth : [d, d'].Sublist ((o.deeds w).filter fun e => decide (e.unit = d.unit)) := by
        have := hsub.filter fun e => decide (e.unit = d.unit)
        simpa [hunit] using this
      exact List.pairwise_iff_forall_sublist.1 hlater hboth n hkills
    · -- the thread was killed before the operation began
      obtain ⟨env, env', henv, hturned, -⟩ := (hfate d.unit).of_deed hw hd' hunit
      obtain ⟨hn, hget⟩ := (h.killed hd hkills).2 env henv
      exact (hturned.absent hn hget).2 d' (mem_deedsIn_ofUnit.2 ⟨hd', hunit⟩)
  · rw [deeds_append] at hd
    rcases List.mem_append.1 hd with hd | hd
    · obtain ⟨hid, hgone⟩ := h.killed hd hkills
      refine ⟨Nat.lt_of_lt_of_le hid hnext, fun env' henv' => ?_⟩
      obtain ⟨env, henv, hcourse⟩ := (hfate d.unit).before hid henv'
      obtain ⟨hn, hget⟩ := hgone env henv
      have hturned := hcourse.turned (hw.numbered henv).2.1
      exact ⟨Nat.lt_of_lt_of_le hn hturned.next, (hturned.absent hn hget).1⟩
    · obtain ⟨env, env', henv, hturned, hafter⟩ := (hfate d.unit).of_deed hw hd rfl
      refine ⟨Nat.lt_of_lt_of_le (hw.numbered henv).1 hnext, fun env'' henv'' => ?_⟩
      rcases hafter with hafter | hafter <;> rw [hafter] at henv'' <;> cases henv''
      exact hturned.killed (mem_deedsIn_ofUnit.2 ⟨hd, rfl⟩) hkills
  · -- whatever was stored in the unit is accounted for by its turns in the operation
    have course : ∀ {env env'}, w.environment? id = some env →
        Course id env (ofUnit id (o.turns w)) env' →
        ((env.threads.get? n).isSome ∨ ∃ d ∈ o.deeds w, d.unit = id ∧
          (d.machine.environment.threads.get? n).isSome) →
        (env'.threads.get? n).isSome ∨ Gone (ofUnit id (turns (past ++ [⟨w, o⟩]))) n := by
      intro env env' henv hcourse hseen
      have hturned := hcourse.turned (hw.numbered henv).2.1
      rw [turns_append, ofUnit_append]
      refine (hturned.accounted (hseen.imp_right ?_)).imp_right
        (.mono (List.subset_append_right _ _))
      rintro ⟨d, hd, hid, hsome⟩
      exact ⟨d, mem_deedsIn_ofUnit.2 ⟨hd, hid⟩, hsome⟩
    have old : Seen past id n → id.val.toNat < (o.after w).nextUnit.toNat ∧
        ∀ env, (o.after w).environment? id = some env →
          (env.threads.get? n).isSome ∨ Gone (ofUnit id (turns (past ++ [⟨w, o⟩]))) n := by
      intro hseen
      obtain ⟨hid, haccounted⟩ := h.accounted hseen
      refine ⟨Nat.lt_of_lt_of_le hid hnext, fun env' henv' => ?_⟩
      obtain ⟨env, henv, hcourse⟩ := (hfate id).before hid henv'
      rcases haccounted env henv with hsome | hgone
      · exact course henv hcourse (.inl hsome)
      · rw [turns_append, ofUnit_append]
        exact .inr (hgone.mono (List.subset_append_left _ _))
    have new : ∀ {env}, w.environment? id = some env →
        ((env.threads.get? n).isSome ∨ ∃ d ∈ o.deeds w, d.unit = id ∧
          (d.machine.environment.threads.get? n).isSome) →
        id.val.toNat < (o.after w).nextUnit.toNat ∧
          ∀ env, (o.after w).environment? id = some env →
            (env.threads.get? n).isSome ∨ Gone (ofUnit id (turns (past ++ [⟨w, o⟩]))) n := by
      intro env henv hseen
      have hid := (hw.numbered henv).1
      refine ⟨Nat.lt_of_lt_of_le hid hnext, fun env' henv' => ?_⟩
      obtain ⟨env₁, henv₁, hcourse⟩ := (hfate id).before hid henv'
      rw [henv] at henv₁
      cases henv₁
      exact course henv hcourse hseen
    rcases hseen with ⟨st, hst, env, henv, hsome⟩ | ⟨d, hd, hid, hsome⟩
    · rcases List.mem_append.1 hst with hst | hst
      · exact old (.inl ⟨st, hst, env, henv, hsome⟩)
      · cases List.mem_singleton.1 hst
        exact new henv (.inl hsome)
    · rw [deeds_append] at hd
      rcases List.mem_append.1 hd with hd | hd
      · exact old (.inr ⟨d, hd, hid, hsome⟩)
      · obtain ⟨env, env', henv, -, -⟩ := (hfate id).of_deed hw hd hid
        exact new henv (.inr ⟨d, hd, hid, hsome⟩)

end Reckoned

theorem Run.reckoned (h : Run s past w) : Reckoned past w := by
  induction h with
  | start => exact .nil _
  | step o hrun ho ih => exact ih.step hrun.scheduled ho

open Script (Host Instruction) in
/-- Against any host a signal leaves exactly the stored threads whose masks it does not meet, as
they were, and the thread that sent it goes on; a start stores a thread with the mask of its
starter; and no instruction touches a stored thread that it does not kill.  In a battle a thread
that has been killed does nothing later and is never stored again, and a thread that has been stored
is stored still, unless its unit is gone, it has been killed, or it has finished or been faulty in a
turn of its own. -/
theorem signals_kill_for_good :
    (∀ {σ : Type} (host : Host σ) (unit : UnitId) (m : Machine σ) (i : Instruction),
        m.instruction? = some i → i.opcode = .signal →
      ∃ m', (Machine.step host unit).run.run m = (.ok none, m') ∧
        (∀ n t, m'.environment.threads.get? n = some t ↔
          m.environment.threads.get? n = some t ∧ t.mask &&& m.thread.top.toUInt32 = 0) ∧
        m'.environment = { m.environment with threads := m'.environment.threads } ∧
        m'.world = m.world ∧ m'.thread = m.fetched.thread.pop ∧ m'.thread.isFinished = false) ∧
    (∀ {σ : Type} (host : Host σ) (unit : UnitId) (m m' : Machine σ) (i : Instruction)
        (status : Option Script.Status), m.instruction? = some i → i.opcode = .start →
        (Machine.step host unit).run.run m = (.ok status, m') →
      status = none ∧ ∃ f, m.environment.program.function? i.first = some f ∧
        m'.environment.threads = m.environment.threads.insert ⟨m.environment.nextThread⟩
          (.start f.name f.address (m.thread.topMany i.second.toNat) m.thread.mask)) ∧
    (∀ {σ : Type} (host : Host σ) (unit : UnitId) (m : Machine σ) (n : ThreadId) (t : Thread),
        n.val.toNat < m.environment.nextThread.toNat → ¬m.Kills n →
        m.environment.threads.get? n = some t →
      ((Machine.step host unit).run.run m).2.environment.threads.get? n = some t) ∧
    ∀ (s : Setup) (past : List Step) (w : World), Run s past w →
      ((deeds past).Pairwise fun d d' => ∀ n, d.machine.Kills n → d'.unit = d.unit →
        d'.thread ≠ n ∧ d'.machine.environment.threads.get? n = none) ∧
      (∀ d ∈ deeds past, ∀ n, d.machine.Kills n → ∀ env, w.environment? d.unit = some env →
        env.threads.get? n = none) ∧
      ∀ id n, Seen past id n → w.units.get? id = none ∨
        (∃ env, w.environment? id = some env ∧ (env.threads.get? n).isSome) ∨
        (∃ d ∈ deeds past, d.unit = id ∧ d.machine.Kills n) ∨
        ∃ T ∈ turns past, T.unit = id ∧ T.thread = n ∧ T.Ends := by
  refine ⟨fun host unit m i hi hop => ?_,
    fun host unit m m' i status hi hop h => Machine.started_of_step hi hop h,
    fun host unit m n t hn hkills ht => Machine.get?_step hn hkills ht, fun s past w h => ?_⟩
  · refine ⟨_, Machine.step_signal hi hop, Machine.get?_signal _ _, rfl, rfl, rfl, ?_⟩
    exact (Machine.readsOn_fetched m).eq.2.2.trans (Machine.unfinished_of_instruction hi)
  · have hreckoned := h.reckoned
    refine ⟨hreckoned.later, fun d hd n hkills env henv => ?_, fun id n hseen => ?_⟩
    · exact ((hreckoned.killed hd hkills).2 env henv).2
    · cases henv : w.environment? id with
      | none => exact .inl (h.scheduled.get?_eq_none henv)
      | some env =>
        rcases (hreckoned.accounted hseen).2 env henv with hsome | ⟨d, hd, hkills⟩ |
          ⟨T, hT, hthread, hends⟩
        · exact .inr (.inl ⟨env, rfl, hsome⟩)
        · obtain ⟨hd, hunit⟩ := mem_deedsIn_ofUnit.1 hd
          exact .inr (.inr (.inl ⟨d, hd, hunit, hkills⟩))
        · obtain ⟨hT, hunit⟩ := mem_ofUnit.1 hT
          exact .inr (.inr (.inr ⟨T, hT, hunit, hthread, hends⟩))

/-- A script that stops a guard by a signal, although its own mask meets the signal too, posts
another one with the same mask and sleeps. -/
def Sample.relief : Script.Program where
  words := #[
    Script.Opcode.word .pushConstant, 4, Script.Opcode.word .setMask,
    Script.Opcode.word .start, 1, 0,
    Script.Opcode.word .pushConstant, 4, Script.Opcode.word .signal,
    Script.Opcode.word .start, 1, 0,
    Script.Opcode.word .pushConstant, 1000, Script.Opcode.word .sleep,
    Script.Opcode.word .jump, 12]
  functions := [⟨"Create", 0⟩, ⟨"Guard", 12⟩]
  pieces := []
  staticCount := 0

/-- A tank with that script, for two ticks. -/
def Sample.relieved : List Operation :=
  [.addPlayer (.new .human "" 0), .spawnUnit "tank" ⟨0⟩ 0 none, .tick 9, .tick 9]

theorem signals_kill_for_good_relief :
    let s := Sample.drill [] Sample.relief
    let b := replay Sample.relieved [] (Sample.lineup s)
    Run s b.1 b.2 ∧ ∃ d ∈ deeds b.1, (d.unit = ⟨1⟩ ∧ d.thread = ⟨0⟩ ∧ d.machine.thread.mask = 4) ∧
      d.machine.Kills ⟨1⟩ ∧
      (∃ m', (Machine.step host ⟨1⟩).run.run d.machine = (.ok none, m') ∧
        m'.thread.isFinished = false ∧ m'.environment.threads.get? ⟨1⟩ = none) ∧
      ∃ env, b.2.environment? ⟨1⟩ = some env ∧ env.threads.get? ⟨1⟩ = none ∧
        (env.threads.get? ⟨2⟩).map Thread.mask = some 4 := by
  obtain ⟨hnew, hcomplete, ⟨d, hd, hwho, hkills⟩, henv⟩ :
      World.new (Sample.drill [] Sample.relief) =
        .ok (Sample.lineup (Sample.drill [] Sample.relief)) ∧
      Operation.AllComplete Sample.relieved (Sample.lineup (Sample.drill [] Sample.relief)) ∧
      (∃ d ∈ deeds (replay Sample.relieved [] (Sample.lineup (Sample.drill [] Sample.relief))).1,
        (d.unit = ⟨1⟩ ∧ d.thread = ⟨0⟩ ∧ d.machine.thread.mask = 4) ∧ d.machine.Kills ⟨1⟩) ∧
      ((replay Sample.relieved [] (Sample.lineup (Sample.drill [] Sample.relief))).2.environment?
        ⟨1⟩).map (fun env => (env.threads.get? ⟨2⟩).map Thread.mask) = some (some 4) := by
    decide +kernel
  obtain ⟨env, henv, hmask⟩ := Option.map_eq_some_iff.1 henv
  have hrun := (Run.start hnew).replay hcomplete
  obtain ⟨hsignal, -, -, hruns⟩ := signals_kill_for_good
  obtain ⟨-, hkilled, -⟩ := hruns _ _ _ hrun
  obtain ⟨i, t, hi, hop, ht, hmet⟩ := hkills
  obtain ⟨m', hstep, hspared, -, -, -, hunfinished⟩ := hsignal host ⟨1⟩ d.machine i hi hop
  refine ⟨hrun, d, hd, hwho, ⟨i, t, hi, hop, ht, hmet⟩, ⟨m', hstep, hunfinished, ?_⟩, env, henv,
    ?_, hmask⟩
  · cases hget : m'.environment.threads.get? ⟨1⟩ with
    | none => rfl
    | some t' =>
      obtain ⟨ht', hmet'⟩ := (hspared ⟨1⟩ t').1 hget
      rw [ht] at ht'
      cases ht'
      exact absurd hmet' hmet
  · exact hkilled d hd ⟨1⟩ ⟨i, t, hi, hop, ht, hmet⟩ env (by rw [hwho.1]; exact henv)

end Lockstep.World
