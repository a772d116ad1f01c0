import Mathlib.Data.List.Induction
import Lockstep.Proofs.World.Clock
import Lockstep.Proofs.World.Signals
/-!
# Threads that rest

A thread that has put itself to sleep, or that waits for a piece, rests in the script state of its
unit: no operation touches it, and in every tick it comes to its turn as it was put back.  There it
goes on unless it has to wait.
-/

namespace Lockstep

open Script (Environment Machine Numbered Program Thread ThreadState)

namespace World

variable {s : Setup} {past later : List Step} {w w₁ : World} {o : Operation} {budget : Nat}
  {id : UnitId} {n : ThreadId} {t : Thread} {p : Program} {env env₁ : Environment} {T : Turn}
  {record : List (UnitId × ThreadId)} {m m' : Machine World} {state : ThreadState}

/-- The record under which a thread is stored, if it is. -/
def thread? (w : World) (id : UnitId) (n : ThreadId) : Option Thread :=
  (w.environment? id).bind fun env => env.threads.get? n

/-- In the course of an operation a thread executes something. -/
def Operation.Executes (o : Operation) (w : World) (id : UnitId) (n : ThreadId) : Prop :=
  ∃ d ∈ o.deeds w, d.unit = id ∧ d.thread = n

/-- A signal of another thread of the unit kills a thread. -/
def Operation.Kills (o : Operation) (w : World) (id : UnitId) (n : ThreadId) : Prop :=
  ∃ d ∈ o.deeds w, d.unit = id ∧ d.machine.Kills n

instance (o : Operation) (w : World) (id : UnitId) (n : ThreadId) : Decidable (o.Executes w id n) :=
  inferInstanceAs (Decidable (∃ d ∈ o.deeds w, d.unit = id ∧ d.thread = n))

instance (o : Operation) (w : World) (id : UnitId) (n : ThreadId) : Decidable (o.Kills w id n) :=
  inferInstanceAs (Decidable (∃ d ∈ o.deeds w, d.unit = id ∧ d.machine.Kills n))

/-! ### A turn after which a thread has to wait -/

lemma Suspends.unique {state' : ThreadState} {m₁ : Machine World} (h : Suspends id m m' state)
    (h' : Suspends id m m₁ state') : m₁ = m' ∧ state' = state := by
  cases h with
  | move h | turn h | sleep h =>
    cases h' with
    | move h' | turn h' | sleep h' =>
      rw [h] at h'
      cases h'
      all_goals exact ⟨rfl, rfl⟩

/-- A thread that has to wait does not go on. -/
lemma Suspends.not_proceeds {m₁ : Machine World} (h : Suspends id m m' state) :
    ¬Proceeds id m m₁ := by
  obtain ⟨status, hstep, hmotion⟩ := h.exists_status
  intro h'
  cases h' with
  | step h' =>
    rw [hstep] at h'
    cases h'
  | motion m₂ piece axis motion h' =>
    rw [hstep] at h'
    cases h'
    exact hmotion piece axis motion rfl

lemma Suspends.not_stumbles {e : ScriptError} {m₁ : Machine World} (h : Suspends id m m' state) :
    ¬Stumbles id e m m₁ := by
  obtain ⟨status, hstep, hmotion⟩ := h.exists_status
  intro h'
  cases h' with
  | step h' =>
    rw [hstep] at h'
    cases h'
  | motion m₂ piece axis motion h' =>
    rw [hstep] at h'
    cases h'
    exact hmotion piece axis motion rfl

/-- A trail ends where the thread has to wait; the induction is on the instructions. -/
lemma Trail.of_suspends {l : List (Machine World)} {r : Except ScriptError (Option ThreadState)}
    {m₀ m₁ : Machine World} (h : Trail id m₀ l r m₁) (hm : m ∈ l)
    (hsuspends : Suspends id m m' state) :
    r = .ok (some state) ∧ m₁ = m' ∧ l.getLast? = some m ∧ m.thread.isFinished = false := by
  induction h with
  | finished => cases hm
  | proceeds _ hproceeds _ ih =>
    rcases List.mem_cons.1 hm with rfl | hm
    · exact absurd hproceeds hsuspends.not_proceeds
    · obtain ⟨hr, hend, hlast, hunfinished⟩ := ih hm
      exact ⟨hr, hend, by rw [List.getLast?_cons, hlast, Option.getD_some], hunfinished⟩
  | suspends hunfinished hsuspends' =>
    cases List.mem_singleton.1 hm
    obtain ⟨rfl, rfl⟩ := hsuspends.unique hsuspends'
    exact ⟨rfl, rfl, rfl, hunfinished⟩
  | stumbles _ hstumbles =>
    cases List.mem_singleton.1 hm
    exact absurd hstumbles hsuspends.not_stumbles

lemma Turn.exists_start {m : Machine World} (hm : m ∈ T.trail) : ∃ m₀, T.start? = some m₀ := by
  cases hstart : T.start? with
  | none =>
    rw [Turn.trail_of_none hstart] at hm
    cases hm
  | some m₀ => exact ⟨m₀, rfl⟩

/-- A thread that has to wait is put back. -/
lemma Turn.Leaves.of_suspends (h : T.Leaves env₁) (hm : m ∈ T.trail)
    (hsuspends : Suspends T.unit m m' state) :
    env₁ = m'.environment.putThread T.thread { m'.thread with state := state } ∧
      T.trail.getLast? = some m ∧ m.thread.isFinished = false := by
  obtain ⟨m₀, hstart⟩ := Turn.exists_start hm
  have hne : T.start? ≠ none := by simp [hstart]
  cases h with
  | gone habsent => exact absurd (by simp [Turn.start?, habsent]) hne
  | waits hwaits => exact absurd hwaits.start?_eq_none hne
  | lost hstored hawaits hmissing =>
    exact absurd (by simp [Turn.start?, hstored, readiness_lost hawaits hmissing]) hne
  | stopped _ htrail hstops =>
    obtain ⟨hr, -, -⟩ := htrail.of_suspends hm hsuspends
    exact absurd hr (hstops state)
  | suspended _ htrail =>
    obtain ⟨hr, rfl, hlast, hunfinished⟩ := htrail.of_suspends hm hsuspends
    cases hr
    exact ⟨rfl, hlast, hunfinished⟩

/-! ### Whether a thread goes on in its turn -/

/-- Whether a stored thread has to wait is a matter of its readiness. -/
lemma Turn.waits_iff (ht : T.environment.threads.get? T.thread = some t) :
    T.Waits ↔ T.world.readiness T.unit T.environment.program t.state = .waiting := by
  simp [Turn.Waits, ht]

/-- A thread has something left to execute, and nothing to wait for. -/
def Due (w : World) (id : UnitId) (p : Program) (t : Thread) : Prop :=
  t.isFinished = false ∧ (w.readiness id p t.state).goesOn = true

/-- No thread that is due is stored under a number. -/
def Dormant (w : World) (id : UnitId) (env : Environment) (n : ThreadId) : Prop :=
  ∀ t, env.threads.get? n = some t → ¬w.Due id env.program t

lemma Turn.start_goesOn {m : Machine World} (h : T.start? = some m) :
    ∃ t, T.environment.threads.get? T.thread = some t ∧
      (T.world.readiness T.unit T.environment.program t.state).goesOn = true ∧
      m.thread.isFinished = t.isFinished := by
  obtain ⟨t, ht, h⟩ := Option.bind_eq_some_iff.1 h
  refine ⟨t, ht, ?_⟩
  revert h
  cases T.world.readiness T.unit T.environment.program t.state <;> intro h <;> cases h <;>
    exact ⟨rfl, rfl⟩

/-- In its turn a thread executes something if and only if it is due. -/
lemma Turn.Leaves.trail_eq_nil_iff (h : T.Leaves env₁) :
    T.trail = [] ↔ T.world.Dormant T.unit T.environment T.thread := by
  constructor
  · rintro hnil t ht ⟨hunfinished, hgoes⟩
    have resumed : ∀ {m r m'}, T.start? = some m → ¬Trail T.unit m T.trail r m' := by
      intro m r m' hstart htrail
      obtain ⟨t', ht', -, hm⟩ := Turn.start_goesOn hstart
      rw [ht] at ht'
      cases ht'
      rw [hnil] at htrail
      cases htrail with
      | finished hfinished => simp [hm, hunfinished] at hfinished
    cases h with
    | gone habsent => simp [ht] at habsent
    | waits hwaits =>
      rw [Turn.waits_iff ht] at hwaits
      simp [hwaits, Readiness.goesOn] at hgoes
    | lost hstored hawaits hmissing =>
      rw [ht] at hstored
      cases hstored
      simp [readiness_lost hawaits hmissing, Readiness.goesOn] at hgoes
    | stopped hstart htrail => exact resumed hstart htrail
    | suspended hstart htrail => exact resumed hstart htrail
  · intro hdormant
    cases hstart : T.start? with
    | none => exact Turn.trail_of_none hstart
    | some m =>
      -- a thread that is resumed without being due is finished
      obtain ⟨t, ht, hgoes, hm⟩ := Turn.start_goesOn hstart
      have hfinished : t.isFinished = true := by
        by_contra hunfinished
        exact hdormant t ht ⟨eq_false_of_ne_true hunfinished, hgoes⟩
      rw [Turn.trail, hstart, Option.map_some, Option.getD_some]
      cases T.budget with
      | zero => rfl
      | succ budget => rw [World.trail, hm, if_pos hfinished]

/-- A thread that is not finished, and whose piece has a name if it waits for one, either has to
wait in its turn or executes something. -/
lemma Turn.trail_eq_nil_iff (ht : T.environment.threads.get? T.thread = some t)
    (hunfinished : t.isFinished = false) (hleaves : T.Leaves env₁)
    (hnamed : ∀ {piece isBusy}, Awaits t.state piece isBusy →
      T.environment.program.pieceName? piece ≠ none) : T.trail = [] ↔ T.Waits := by
  rw [hleaves.trail_eq_nil_iff, Turn.waits_iff ht]
  constructor
  · intro hdormant
    have hr := hasReadiness T.world T.unit T.environment.program t.state
    have hstays := fun hgoes => hdormant t ht ⟨hunfinished, hgoes⟩
    revert hr hstays
    cases T.world.readiness T.unit T.environment.program t.state with
    | waiting => exact fun _ _ => rfl
    | faulty e =>
      intro hr _
      obtain ⟨piece, isBusy, hawaits, hmissing, -⟩ := hr.of_faulty
      exact absurd hmissing (hnamed hawaits)
    | ready | missing => exact fun _ hstays => absurd rfl hstays
  · rintro hwaits t' ht' ⟨-, hgoes⟩
    rw [ht] at ht'
    cases ht'
    rw [hwaits] at hgoes
    cases hgoes

lemma readiness_sleeping {wakeAt : Tick} :
    w.readiness id p (.sleeping wakeAt) = .waiting ↔ w.time.val.toNat < wakeAt.val.toNat := by
  rw [readiness]
  split
  · rename_i hle
    have hle : wakeAt.val.toNat ≤ w.time.val.toNat := hle
    simp only [reduceCtorEq, false_iff]
    omega
  · rename_i hlt
    have hlt : ¬wakeAt.val.toNat ≤ w.time.val.toNat := hlt
    simp only [true_iff]
    omega

lemma readiness_awaits {piece : UInt32} {isBusy : Piece → Bool} {name : String}
    (h : Awaits state piece isBusy) (hname : p.pieceName? piece = some name) :
    w.readiness id p state = .waiting ↔
      ∃ q, ((w.units.get? id).bind fun u => u.piece? name) = some q ∧ isBusy q = true := by
  have heq : w.readiness id p state = w.pieceReadiness id p piece isBusy := by cases h <;> rfl
  rw [heq, pieceReadiness, hname]
  simp only
  cases (w.units.get? id).bind fun u => u.piece? name with
  | none => simp
  | some q => cases hq : isBusy q <;> simp [hq]

/-! ### The turns of a tick -/

/-- The turn of a unit's thread in a tick stands amid those of the other threads of the unit. -/
lemma amid_of_mem_turns (ho : (Operation.tick budget).Completes w) (hw : Scheduled record w)
    (hT : T ∈ (Operation.tick budget).turns w) :
    ∃ env l₁ env₁ l₂ env', w.environment? T.unit = some env ∧
      ofUnit T.unit ((Operation.tick budget).turns w) = l₁ ++ T :: l₂ ∧
      Amid env l₁ T env₁ l₂ env' ∧
      (((Operation.tick budget).after w).environment? T.unit = some env' ∨
        ((Operation.tick budget).after w).environment? T.unit = none) := by
  have hown : T ∈ ofUnit T.unit ((Operation.tick budget).turns w) := mem_ofUnit.2 ⟨hT, rfl⟩
  rcases tick_cases budget ho hw T.unit with ⟨-, hnil, -⟩ | ⟨env, env', henv, hall, hafter⟩
  · rw [hnil] at hown
    cases hown
  · obtain ⟨w₀, w₀', hon, heq⟩ := hall
    rw [heq] at hown
    obtain ⟨l₁, env₁, l₂, hsplit, hamid⟩ :=
      amid_of_mem_turnsOf (hw.numbered henv).2.1 env.threads.nodup_keys hon hown
    exact ⟨env, l₁, env₁, l₂, env', henv, heq.trans hsplit, hamid, hafter⟩

/-- In a tick every stored thread gets its turn. -/
lemma exists_turn (ho : (Operation.tick budget).Completes w) (hw : Scheduled record w)
    (henv : w.environment? id = some env) (ht : env.threads.get? n = some t) :
    ∃ T ∈ (Operation.tick budget).turns w, T.unit = id ∧ T.thread = n := by
  rcases tick_cases budget ho hw id with ⟨hnone, -, -⟩ | ⟨env₁, env', henv₁, hall, -⟩
  · rw [henv] at hnone
    cases hnone
  · rw [henv] at henv₁
    cases henv₁
    obtain ⟨w₀, w₀', hon, heq⟩ := hall
    have hn : n ∈ env.threads.keys :=
      List.mem_map.2 ⟨(n, t), SortedTable.get?_eq_some_iff.1 ht, rfl⟩
    rw [← map_thread_turnsOf hon, ← heq] at hn
    obtain ⟨T, hT, hthread⟩ := List.mem_map.1 hn
    obtain ⟨hT, hunit⟩ := mem_ofUnit.1 hT
    exact ⟨T, hT, hunit, hthread⟩

lemma Amid.eq_of_thread {l₁ l₂ : List Turn} {T' : Turn} {env' : Environment}
    (h : Amid env l₁ T env₁ l₂ env') (hT' : T' ∈ l₁ ++ T :: l₂) (hthread : T'.thread = T.thread) :
    T' = T := by
  by_contra hother
  refine h.others T' ?_ hthread
  simpa [hother] using hT'

lemma executes_of_trail (hT : T ∈ (Operation.tick budget).turns w) (hne : T.trail ≠ []) :
    (Operation.tick budget).Executes w T.unit T.thread := by
  obtain ⟨m, hm⟩ := List.exists_mem_of_ne_nil _ hne
  have hd : (⟨T.unit, T.thread, m⟩ : Deed) ∈ T.deeds := mem_deeds.2 ⟨rfl, rfl, hm⟩
  exact ⟨_, List.mem_flatMap.2 ⟨T, hT, hd⟩, rfl, rfl⟩

/-- The only turn of a stored thread in a tick, to which it comes as it was stored. -/
structure TakesTurn (budget : Nat) (w : World) (id : UnitId) (n : ThreadId) (t : Thread)
    (T : Turn) : Prop where
  mem : T ∈ (Operation.tick budget).turns w
  unit : T.unit = id
  thread : T.thread = n
  stored : T.environment.threads.get? n = some t
  only : ∀ T' ∈ (Operation.tick budget).turns w, T'.unit = id → T'.thread = n → T' = T

/-- As long as its unit is there, a thread is stored under a record. -/
structure Rests (p : Program) (id : UnitId) (n : ThreadId) (t : Thread) (w : World) : Prop where
  number : id.val.toNat < w.nextUnit.toNat
  stored : ∀ env, w.environment? id = some env → env.program = p ∧ env.threads.get? n = some t

lemma Rests.thread?_eq (h : Rests p id n t w) (henv : w.environment? id = some env) :
    w.thread? id n = some t := by
  rw [thread?, henv, Option.bind_some]
  exact (h.stored env henv).2

/-- In a tick a thread that rests comes to its turn as it is; it executes what it executes in that
turn. -/
lemma Rests.takesTurn (h : Rests p id n t w) (hw : Scheduled record w)
    (ho : (Operation.tick budget).Completes w) (henv : w.environment? id = some env)
    (hspared : ¬(Operation.tick budget).Kills w id n) :
    ∃ T env₁, TakesTurn budget w id n t T ∧ T.environment.program = p ∧ T.Leaves env₁ ∧
      ((Operation.tick budget).Executes w id n ↔ T.trail ≠ []) ∧
      (env₁.threads.get? n = none → ((Operation.tick budget).after w).thread? id n = none) := by
  obtain ⟨hprogram, ht⟩ := h.stored env henv
  obtain ⟨T, hT, rfl, rfl⟩ := exists_turn ho hw henv ht
  obtain ⟨env', l₁, env₁, l₂, env₂, henv', hsplit, hamid, hafter⟩ := amid_of_mem_turns ho hw hT
  rw [henv] at henv'
  cases henv'
  have hdeeds : ∀ {d : Deed}, d ∈ deedsIn (l₁ ++ T :: l₂) ↔
      d ∈ (Operation.tick budget).deeds w ∧ d.unit = T.unit := by
    intro d
    rw [← hsplit]
    exact mem_deedsIn_ofUnit
  have hkills : ∀ d ∈ deedsIn (l₁ ++ T :: l₂), ¬d.machine.Kills T.thread := fun d hd hk =>
    hspared ⟨d, (hdeeds.1 hd).1, (hdeeds.1 hd).2, hk⟩
  refine ⟨T, env₁, ⟨hT, rfl, rfl, hamid.stored ht hkills, fun T' hT' hunit hthread => ?_⟩,
    hamid.before.program.trans hprogram, hamid.leaves, ⟨?_, executes_of_trail hT⟩,
    fun hgone => ?_⟩
  · exact hamid.eq_of_thread (hsplit ▸ mem_ofUnit.2 ⟨hT', hunit⟩) hthread
  · rintro ⟨d, hd, hunit, hthread⟩ hnil
    have hm := hamid.mem_trail (hdeeds.2 ⟨hd, hunit⟩) hthread
    rw [hnil] at hm
    cases hm
  · have hbefore : T.thread.val.toNat < T.environment.nextThread.toNat :=
      Nat.lt_of_lt_of_le ((hw.numbered henv).2.1 ht) hamid.before.next
    have hn : T.thread.val.toNat < env₁.nextThread.toNat :=
      Nat.lt_of_lt_of_le hbefore (hamid.leaves.turned hamid.before.numbered).next
    have hget : env₂.threads.get? T.thread = none := (hamid.after.absent hn hgone).1
    show ((((Operation.tick budget).after w).environment? T.unit).bind fun env =>
      env.threads.get? T.thread) = none
    rcases hafter with hafter | hafter <;> rw [hafter]
    · exact hget
    · rfl

/-! ### A thread that rests -/

/-- Between ticks only threads that are new get turns. -/
lemma thread_of_mem_turns (htick : ∀ budget, o ≠ .tick budget)
    (hscripts : ∀ budget, o ≠ .runUnitScripts budget id) (henv : w.environment? id = some env)
    (hT : T ∈ o.turns w) (hunit : T.unit = id) : T.thread = ⟨env.nextThread⟩ := by
  cases o with
  | tick budget => exact absurd rfl (htick budget)
  | runUnitScripts budget other =>
    obtain ⟨v, -, rfl⟩ := List.mem_map.1 hT
    subst hunit
    exact absurd rfl (hscripts budget)
  | runQuery budget other function params =>
    rw [Operation.turns, queryTurns] at hT
    split at hT
    · cases hT
    rename_i env₁ henv₁
    split at hT
    · rename_i k env₂ hs
      cases List.mem_singleton.1 hT
      subst hunit
      rw [World.environment?, henv₁] at henv
      cases henv
      exact (Script.Passed.startNamed_eq_some hs).1
    · cases hT
  | _ => cases hT

/-- An operation leaves a thread that rests alone, unless it goes on in its turn. -/
lemma Rests.step (h : Rests p id n t w) (hw : Scheduled record w) (ho : o.Completes w)
    (hscripts : ∀ budget, o ≠ .runUnitScripts budget id) (hspared : ¬o.Kills w id n)
    (hwaits : ∀ {budget T env₁}, o = .tick budget → TakesTurn budget w id n t T →
      T.environment.program = p → T.Leaves env₁ → T.Waits) :
    Rests p id n t (o.after w) ∧ ¬o.Executes w id n := by
  have hnumber := Nat.lt_of_lt_of_le h.number (nextUnit_le_after ho hw)
  have hfate := fate_after ho hw id
  have hdeeds : ∀ {d : Deed}, d ∈ deedsIn (ofUnit id (o.turns w)) ↔ d ∈ o.deeds w ∧ d.unit = id :=
    mem_deedsIn_ofUnit
  have hown : ∀ {T : Turn}, T ∈ ofUnit id (o.turns w) ↔ T ∈ o.turns w ∧ T.unit = id := mem_ofUnit
  generalize ofUnit id (o.turns w) = l at hfate hdeeds hown
  cases hfate with
  | absent hnone hafter =>
    refine ⟨⟨hnumber, fun env' henv' => ?_⟩, ?_⟩
    · rcases hafter with hafter | hle
      · rw [hafter] at henv'
        cases henv'
      · have hlt := h.number
        omega
    · rintro ⟨d, hd, hunit, -⟩
      cases hdeeds.2 ⟨hd, hunit⟩
  | @present env l env' henv hcourse hafter =>
    obtain ⟨hprogram, ht⟩ := h.stored env henv
    have hnumbered : Numbered env := (hw.numbered henv).2.1
    have hturned := hcourse.turned hnumbered
    have hkills : ∀ d ∈ deedsIn l, ¬d.machine.Kills n := fun d hd hk =>
      hspared ⟨d, (hdeeds.1 hd).1, (hdeeds.1 hd).2, hk⟩
    have hturns : ∀ T ∈ l, T.thread = n → T.environment.threads.get? n = some t → T.Waits := by
      intro T hT hthread _
      obtain ⟨hT, hunit⟩ := hown.1 hT
      by_cases htick : ∃ budget, o = .tick budget
      · obtain ⟨budget, rfl⟩ := htick
        obtain ⟨T₁, env₁, htakes, hprogram₁, hleaves, -, -⟩ := h.takesTurn hw ho henv hspared
        rw [htakes.only T hT hunit hthread]
        exact hwaits rfl htakes hprogram₁ hleaves
      · have hnew :=
          thread_of_mem_turns (fun budget hb => htick ⟨budget, hb⟩) hscripts henv hT hunit
        have hlt := hnumbered ht
        rw [← hthread, hnew] at hlt
        exact absurd hlt (Nat.lt_irrefl _)
    obtain ⟨ht', hidle⟩ := hturned.waits ht hkills hturns
    refine ⟨⟨hnumber, fun env₁ henv₁ => ?_⟩, ?_⟩
    · rcases hafter with hafter | hafter <;> rw [hafter] at henv₁ <;> cases henv₁
      exact ⟨hturned.program.trans hprogram, ht'⟩
    · rintro ⟨d, hd, hunit, hthread⟩
      exact hidle d (hdeeds.2 ⟨hd, hunit⟩) hthread

/-- A thread that has to wait after something it does in a tick does nothing more in its turn and
rests from then on. -/
lemma rests_of_deed {d : Deed} (hw : Scheduled record w)
    (ho : (Operation.tick budget).Completes w) (hd : d ∈ (Operation.tick budget).deeds w)
    (hsuspends : Suspends d.unit d.machine m' state)
    (hspared : ¬(Operation.tick budget).Kills w d.unit d.thread) :
    Rests m'.environment.program d.unit d.thread { m'.thread with state := state }
        ((Operation.tick budget).after w) ∧
      d.machine.thread.isFinished = false ∧ d.machine.world.time = w.time + ⟨1⟩ ∧
      ∃ T t, TakesTurn budget w d.unit d.thread t T ∧ T.trail.getLast? = some d.machine := by
  obtain ⟨unit, thread, m⟩ := d
  obtain ⟨T, hT, hdT⟩ := List.mem_flatMap.1 hd
  obtain ⟨rfl, rfl, hm⟩ := mem_deeds.1 hdT
  obtain ⟨env, l₁, env₁, l₂, env', henv, hsplit, hamid, hafter⟩ := amid_of_mem_turns ho hw hT
  obtain ⟨rfl, hlast, hunfinished⟩ := hamid.leaves.of_suspends hm hsuspends
  obtain ⟨m₀, hstart⟩ := Turn.exists_start hm
  obtain ⟨t, ht, -⟩ := Turn.start?_eq_some hstart
  have hkills : ∀ e ∈ deedsIn (l₁ ++ T :: l₂), ¬e.machine.Kills T.thread := fun e he hk => by
    rw [← hsplit] at he
    obtain ⟨he, heunit⟩ := mem_deedsIn_ofUnit.1 he
    exact hspared ⟨e, he, heunit, hk⟩
  have hput : (m'.environment.putThread T.thread { m'.thread with state := state }).threads.get?
      T.thread = some { m'.thread with state := state } := by
    rw [Environment.putThread, SortedTable.get?_insert, if_pos rfl]
  refine ⟨⟨?_, fun env₁ henv₁ => ?_⟩, hunfinished, ?_, T, t, ⟨hT, rfl, rfl, ht, ?_⟩, hlast⟩
  · exact Nat.lt_of_lt_of_le (hw.numbered henv).1 (nextUnit_le_after ho hw)
  · rcases hafter with hafter | hafter <;> rw [hafter] at henv₁ <;> cases henv₁
    exact ⟨hamid.after.program, hamid.kept hput hkills⟩
  · exact (Turn.time_of_mem_trail hm).trans (time_of_mem_turns hT)
  · intro T' hT' hunit hthread
    exact hamid.eq_of_thread (hsplit ▸ mem_ofUnit.2 ⟨hT', hunit⟩) hthread

/-- The last operation of a battle. -/
lemma Run.of_append_singleton {st : Step} (h : Run s (past ++ [st]) w) :
    Run s past st.before ∧ st.operation.Completes st.before ∧
      w = st.operation.after st.before := by
  generalize hall : past ++ [st] = all at h
  cases h with
  | start => exact absurd hall (by simp)
  | step o hrun ho =>
    obtain ⟨rfl, hst⟩ := List.append_inj' hall rfl
    cases hst
    exact ⟨hrun, ho, rfl⟩

/-- A battle up to one of its operations. -/
lemma Run.of_append_cons {st : Step} (h : Run s (past ++ st :: later) w) :
    Run s past st.before ∧ st.operation.Completes st.before := by
  induction later using List.reverseRecOn generalizing w with
  | nil =>
    obtain ⟨hrun, ho, -⟩ := h.of_append_singleton
    exact ⟨hrun, ho⟩
  | append_singleton later last ih =>
    have happ : past ++ st :: (later ++ [last]) = (past ++ st :: later) ++ [last] := by simp
    rw [happ] at h
    exact ih h.of_append_singleton.1

/-- A thread rests through all operations of a battle in which it is not killed and does not go on
in its turns; the induction is on the operations. -/
theorem Rests.run (hrun : Run s (past ++ later) w)
    (hpast : ∀ {w₀}, Run s past w₀ → Rests p id n t w₀)
    (hscripts : ∀ st ∈ later, ∀ budget, st.operation ≠ .runUnitScripts budget id)
    (hspared : ∀ st ∈ later, ¬st.operation.Kills st.before id n)
    (hwaits : ∀ st ∈ later, ∀ {budget T env₁}, st.operation = .tick budget →
      TakesTurn budget st.before id n t T → T.environment.program = p → T.Leaves env₁ → T.Waits) :
    Rests p id n t w ∧ ∀ st ∈ later, ¬st.operation.Executes st.before id n := by
  induction later using List.reverseRecOn generalizing w with
  | nil =>
    rw [List.append_nil] at hrun
    exact ⟨hpast hrun, fun st hst => absurd hst List.not_mem_nil⟩
  | append_singleton later last ih =>
    rw [← List.append_assoc] at hrun
    obtain ⟨hbegin, ho, rfl⟩ := hrun.of_append_singleton
    have hlast : last ∈ later ++ [last] := List.mem_append_right later (List.mem_singleton.2 rfl)
    have hbefore : ∀ st ∈ later, st ∈ later ++ [last] := fun st => List.mem_append_left [last]
    obtain ⟨hrests, hidle⟩ := ih hbegin (fun st hst => hscripts st (hbefore st hst))
      (fun st hst => hspared st (hbefore st hst)) fun st hst => hwaits st (hbefore st hst)
    obtain ⟨hrests', hidle'⟩ := hrests.step hbegin.scheduled ho (hscripts last hlast)
      (hspared last hlast) (hwaits last hlast)
    refine ⟨hrests', fun st hst => ?_⟩
    rcases List.mem_append.1 hst with hst | hst
    · exact hidle st hst
    · rw [List.mem_singleton.1 hst]
      exact hidle'

/-! ### The next operation -/

/-- A thread is stored under a record, and if a tick comes next, it comes to its turn as it is. -/
structure ComesUp (o : Operation) (w : World) (id : UnitId) (n : ThreadId) (t : Thread) : Prop where
  stored : w.thread? id n = some t
  turn : ∀ {budget}, o = .tick budget → ∃ T, TakesTurn budget w id n t T

/-- A thread that rests comes up to the next operation as it is. -/
lemma Rests.comesUp (h : Rests p id n t w) (hw : Scheduled record w) (ho : o.Completes w)
    (henv : w.environment? id = some env) (hspared : ¬o.Kills w id n) : ComesUp o w id n t where
  stored := h.thread?_eq henv
  turn := by
    rintro budget rfl
    obtain ⟨T, env₁, htakes, -⟩ := h.takesTurn hw ho henv hspared
    exact ⟨T, htakes⟩

/-- In a tick a thread goes on in its turn unless it has to wait. -/
theorem Rests.executes_iff (h : Rests p id n t w) (hw : Scheduled record w)
    (ho : (Operation.tick budget).Completes w) (henv : w.environment? id = some env)
    (hspared : ¬(Operation.tick budget).Kills w id n) (hunfinished : t.isFinished = false)
    (hnamed : ∀ {piece isBusy}, Awaits t.state piece isBusy → p.pieceName? piece ≠ none)
    (htakes : TakesTurn budget w id n t T) :
    T.environment.program = p ∧ ((Operation.tick budget).Executes w id n ↔ ¬T.Waits) := by
  obtain ⟨T', env₁, htakes', hprogram, hleaves, hexecutes, -⟩ := h.takesTurn hw ho henv hspared
  obtain rfl := htakes.only T' htakes'.mem htakes'.unit htakes'.thread
  have hnil : T'.trail = [] ↔ T'.Waits := by
    refine Turn.trail_eq_nil_iff (t := t) ?_ hunfinished hleaves ?_
    · rw [htakes.thread]
      exact htakes.stored
    · rw [hprogram]
      exact hnamed
  rw [hexecutes, ne_eq, hnil]
  exact ⟨hprogram, Iff.rfl⟩

/-- Between ticks a thread that rests does nothing. -/
lemma Rests.not_executes (h : Rests p id n t w) (hw : Scheduled record w) (ho : o.Completes w)
    (hscripts : ∀ budget, o ≠ .runUnitScripts budget id) (hspared : ¬o.Kills w id n)
    (htick : ∀ budget, o ≠ .tick budget) : ¬o.Executes w id n :=
  (h.step hw ho hscripts hspared fun hb => absurd hb (htick _)).2

/-- A thread that waits for a piece whose number is not in the table is taken away in its turn. -/
lemma Rests.lost {piece : UInt32} {isBusy : Piece → Bool} (h : Rests p id n t w)
    (hw : Scheduled record w) (ho : (Operation.tick budget).Completes w)
    (henv : w.environment? id = some env) (hspared : ¬(Operation.tick budget).Kills w id n)
    (hawaits : Awaits t.state piece isBusy) (hmissing : p.pieceName? piece = none) :
    ¬(Operation.tick budget).Executes w id n ∧
      ((Operation.tick budget).after w).thread? id n = none := by
  obtain ⟨T, env₁, htakes, hprogram, hleaves, hexecutes, hgone⟩ := h.takesTurn hw ho henv hspared
  have ht : T.environment.threads.get? T.thread = some t := by
    rw [htakes.thread]
    exact htakes.stored
  have hready : T.world.readiness T.unit T.environment.program t.state =
      .faulty (.unknownPiece piece) := readiness_lost hawaits (hprogram ▸ hmissing)
  have hstart : T.start? = none := by simp [Turn.start?, ht, hready]
  have hremoved : env₁ = T.environment.removeThread T.thread := by
    cases hleaves with
    | gone habsent =>
      rw [ht] at habsent
      cases habsent
    | waits hwaits =>
      rw [Turn.waits_iff ht, hready] at hwaits
      cases hwaits
    | lost => rfl
    | stopped hstart' | suspended hstart' =>
      rw [hstart] at hstart'
      cases hstart'
  refine ⟨fun hexec => hexecutes.1 hexec (Turn.trail_of_none hstart), hgone ?_⟩
  rw [hremoved, Environment.removeThread, htakes.thread, SortedTable.get?_erase, if_pos rfl]

/-- The clock goes on by one in each of the ticks that follow. -/
lemma Run.time_since {st : Step} (h : Run s (past ++ ⟨w₁, .tick budget⟩ :: later) w)
    (hst : st ∈ later) {budget' : Nat} (htick : st.operation = .tick budget') :
    (w₁.time + ⟨1⟩).val.toNat ≤ st.before.time.val.toNat ∧
      (st.before.time + ⟨1⟩).val.toNat ≤ w.time.val.toNat := by
  obtain ⟨l₁, l₂, rfl⟩ := List.append_of_mem hst
  have happ : past ++ ⟨w₁, .tick budget⟩ :: (l₁ ++ st :: l₂) =
      (past ++ ⟨w₁, .tick budget⟩ :: l₁) ++ st :: l₂ := by simp
  have hmem : (⟨w₁, .tick budget⟩ : Step) ∈ past ++ ⟨w₁, .tick budget⟩ :: l₁ := by simp
  have hmem' : st ∈ (past ++ ⟨w₁, .tick budget⟩ :: l₁) ++ st :: l₂ := by simp
  rw [happ] at h
  have hfirst := h.of_append_cons.1.time_le hmem
  have hlast := h.time_le hmem'
  rw [time_after_tick] at hfirst
  rw [htick, time_after_tick] at hlast
  exact ⟨hfirst, hlast⟩

end World

end Lockstep
