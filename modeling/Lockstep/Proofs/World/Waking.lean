import Lockstep.Proofs.World.Resting
/-!
# When threads go on

What lets a thread that has put itself to wait go on in its turn is the clock, which is the same in
the whole tick, or the piece, as the threads before it in the same tick have left it.
-/

namespace Lockstep

open Script (Instruction Machine Program Thread ThreadState)

namespace Script.Machine

variable {σ : Type} {host : Host σ} {unit : UnitId} {m : Machine σ} {i : Instruction} {axis : Axis}

/-! ### The instructions after which a thread has to wait -/

lemma step_sleep (h : m.instruction? = some i) (hop : i.opcode = .sleep) :
    (step host unit).run.run m =
      (.ok (some (.sleeping m.thread.top)), ⟨m.world, m.environment, m.fetched.thread.pop⟩) := by
  rw [step_of_instruction h, execute, hop, ← top_fetched, ← environment_fetched, ← world_fetched]
  rfl

lemma step_waitForMove (h : m.instruction? = some i) (hop : i.opcode = .waitForMove)
    (haxis : Axis.ofWord? i.second = some axis) :
    (step host unit).run.run m =
      (.ok (some (.awaitingMove i.first axis)), ⟨m.world, m.environment, m.fetched.thread⟩) := by
  rw [step_of_instruction h, execute, hop, ← environment_fetched, ← world_fetched]
  simp only [axisOf, haxis]
  rfl

lemma step_waitForTurn (h : m.instruction? = some i) (hop : i.opcode = .waitForTurn)
    (haxis : Axis.ofWord? i.second = some axis) :
    (step host unit).run.run m =
      (.ok (some (.awaitingTurn i.first axis)), ⟨m.world, m.environment, m.fetched.thread⟩) := by
  rw [step_of_instruction h, execute, hop, ← environment_fetched, ← world_fetched]
  simp only [axisOf, haxis]
  rfl

end Script.Machine

namespace World

variable {s : Setup} {past later : List Step} {w w₁ : World} {o : Operation} {budget : Nat}
  {m' : Machine World} {state : ThreadState}

/-- An instruction that lets a thread wait for a piece: how the thread waits then, and what keeps it
waiting. -/
inductive WaitsFor (i : Instruction) : ThreadState → (Piece → Bool) → Prop
  | move {axis} : i.opcode = .waitForMove → Axis.ofWord? i.second = some axis →
      WaitsFor i (.awaitingMove i.first axis) fun q => q.isMoving axis
  | turn {axis} : i.opcode = .waitForTurn → Axis.ofWord? i.second = some axis →
      WaitsFor i (.awaitingTurn i.first axis) fun q => q.isTurning axis

lemma toNat_ticksOfMilliseconds (n : Int32) :
    (Script.ticksOfMilliseconds n).val.toNat = n.toInt.toNat / 33 := by
  have hlt : n.toInt < 2147483648 := n.toInt_lt
  show (UInt32.ofNat (n.toInt.toNat / 33)).toNat = _
  rw [UInt32.toNat_ofNat']
  omega

/-! ### After a thread has put itself to wait -/

/-- Something done by a thread in a tick, with the operations since then and the next one.  The
thread has not been killed, its unit is there, and the scripts of the unit run in ticks only. -/
structure Sequel (s : Setup) (past : List Step) (w₁ : World) (budget : Nat) (later : List Step)
    (w : World) (o : Operation) (d : Deed) : Prop where
  run : Run s (past ++ ⟨w₁, .tick budget⟩ :: later) w
  completes : o.Completes w
  deed : d ∈ (Operation.tick budget).deeds w₁
  present : (w.units.get? d.unit).isSome = true
  scripts : ∀ st ∈ later ++ [⟨w, o⟩], ∀ budget, st.operation ≠ .runUnitScripts budget d.unit
  spared : ∀ st ∈ ⟨w₁, .tick budget⟩ :: (later ++ [⟨w, o⟩]),
    ¬st.operation.Kills st.before d.unit d.thread

namespace Sequel

variable {d : Deed}

lemma exists_environment (h : Sequel s past w₁ budget later w o d) :
    ∃ env, w.environment? d.unit = some env := by
  obtain ⟨u, hu⟩ := Option.isSome_iff_exists.1 h.present
  obtain ⟨env, hu', -⟩ := h.run.scheduled.environment hu
  exact ⟨env, environment?_eq_some hu hu'⟩

lemma not_runUnitScripts (h : Sequel s past w₁ budget later w o d) (budget' : Nat) :
    o ≠ .runUnitScripts budget' d.unit :=
  h.scripts ⟨w, o⟩ (List.mem_append_right _ (List.mem_singleton.2 rfl)) budget'

lemma not_kills (h : Sequel s past w₁ budget later w o d) : ¬o.Kills w d.unit d.thread :=
  h.spared ⟨w, o⟩ (List.mem_cons_of_mem _ (List.mem_append_right _ (List.mem_singleton.2 rfl)))

/-- What the thread has done is the last thing it does in its turn. -/
lemma last_of_suspends (h : Sequel s past w₁ budget later w o d)
    (hsuspends : Suspends d.unit d.machine m' state) :
    d.machine.thread.isFinished = false ∧ d.machine.world.time = w₁.time + ⟨1⟩ ∧
      ∃ T t, TakesTurn budget w₁ d.unit d.thread t T ∧ T.trail.getLast? = some d.machine := by
  obtain ⟨hbegin, ho⟩ := h.run.of_append_cons
  exact (rests_of_deed hbegin.scheduled ho h.deed hsuspends (h.spared _ List.mem_cons_self)).2

/-- The thread rests as long as it has to wait at its turns. -/
lemma rests (h : Sequel s past w₁ budget later w o d)
    (hsuspends : Suspends d.unit d.machine m' state)
    (hwaits : ∀ st ∈ later, ∀ {budget T env₁}, st.operation = .tick budget →
      TakesTurn budget st.before d.unit d.thread { m'.thread with state := state } T →
      T.environment.program = m'.environment.program → T.Leaves env₁ → T.Waits) :
    Rests m'.environment.program d.unit d.thread { m'.thread with state := state } w ∧
      ∀ st ∈ later, ¬st.operation.Executes st.before d.unit d.thread := by
  obtain ⟨hbegin, ho⟩ := h.run.of_append_cons
  obtain ⟨hrests, -⟩ := rests_of_deed hbegin.scheduled ho h.deed hsuspends
    (h.spared _ List.mem_cons_self)
  have hrun : Run s ((past ++ [⟨w₁, .tick budget⟩]) ++ later) w := by simpa using h.run
  refine Rests.run hrun (fun {w₀} h₀ => ?_)
    (fun st hst => h.scripts st (List.mem_append_left _ hst))
    (fun st hst => h.spared st (List.mem_cons_of_mem _ (List.mem_append_left _ hst))) hwaits
  obtain ⟨-, -, rfl⟩ := h₀.of_append_singleton
  exact hrests

/-- A sleeping thread goes on when the clock shows its time. -/
lemma of_sleep {i : Instruction} (h : Sequel s past w₁ budget later w o d)
    (hi : d.machine.instruction? = some i) (hop : i.opcode = .sleep)
    (htime : w.time.val.toNat + 2 < UInt32.size) (since wake : Nat)
    (hsince : since = w₁.time.val.toNat + 1)
    (hwake : wake = max (since + 1) (since + d.machine.thread.top.toInt.toNat / 33))
    (hbefore : w.time.val.toNat < wake) :
    ∃ wakeAt, ComesUp o w d.unit d.thread
        { d.machine.fetched.thread.pop with state := .sleeping wakeAt } ∧
      (∀ st ∈ later, ¬st.operation.Executes st.before d.unit d.thread) ∧
      (o.Executes w d.unit d.thread ↔
        (∃ budget, o = .tick budget) ∧ w.time.val.toNat + 1 = wake) := by
  have hsuspends : Suspends d.unit d.machine _ _ := .sleep (Machine.step_sleep hi hop)
  obtain ⟨env, henv⟩ := h.exists_environment
  obtain ⟨hunfinished, hclock, -⟩ := h.last_of_suspends hsuspends
  have hpassed : (w₁.time + ⟨1⟩).val.toNat ≤ w.time.val.toNat := by
    have hmem : (⟨w₁, .tick budget⟩ : Step) ∈ past ++ ⟨w₁, .tick budget⟩ :: later := by simp
    have hle := h.run.time_le hmem
    rwa [time_after_tick] at hle
  rw [toNat_succ] at hpassed
  generalize hwakeAt :
    d.machine.world.time + Script.ticksOfMilliseconds d.machine.thread.top = wakeAt at hsuspends
  have hwakes : wakeAt.val.toNat =
      min (since + d.machine.thread.top.toInt.toNat / 33) (UInt32.size - 1) := by
    rw [← hwakeAt, Tick.toNat_add, hclock, toNat_succ, toNat_ticksOfMilliseconds]
    omega
  -- the clock is the same at every turn of a tick
  have hturn : ∀ {w' budget T}, TakesTurn budget w' d.unit d.thread
      { d.machine.fetched.thread.pop with state := .sleeping wakeAt } T →
      (T.Waits ↔ (w'.time + ⟨1⟩).val.toNat < wakeAt.val.toNat) := by
    intro w' budget T htakes
    rw [Turn.waits_iff (htakes.thread ▸ htakes.stored), readiness_sleeping,
      time_of_mem_turns htakes.mem]
  have hlater : ∀ st ∈ later, ∀ {budget T env₁}, st.operation = .tick budget →
      TakesTurn budget st.before d.unit d.thread
        { d.machine.fetched.thread.pop with state := .sleeping wakeAt } T →
      T.environment.program = d.machine.environment.program → T.Leaves env₁ → T.Waits := by
    intro st hst budget' T env₁ htick htakes _ _
    obtain ⟨hfirst, hlast⟩ := h.run.time_since hst htick
    rw [toNat_succ] at hfirst hlast
    rw [hturn htakes, toNat_succ, hwakes]
    generalize UInt32.size = size at *
    omega
  obtain ⟨hrests, hidle⟩ := h.rests hsuspends hlater
  have hcomes := hrests.comesUp h.run.scheduled h.completes henv h.not_kills
  refine ⟨wakeAt, hcomes, hidle, ?_⟩
  by_cases htick : ∃ budget, o = .tick budget
  · obtain ⟨budget', rfl⟩ := htick
    obtain ⟨T, htakes⟩ := hcomes.turn rfl
    obtain ⟨-, hexecutes⟩ := hrests.executes_iff h.run.scheduled h.completes henv h.not_kills
      ((Machine.readsOn_fetched d.machine).eq.2.2.trans hunfinished)
      (fun hawaits => by cases hawaits)
      htakes
    rw [hexecutes, hturn htakes, toNat_succ]
    constructor
    · intro hgoes
      exact ⟨⟨budget', rfl⟩, by omega⟩
    · rintro ⟨-, hnow⟩
      omega
  · have hnever : ∀ budget, o ≠ .tick budget := fun budget hb => htick ⟨budget, hb⟩
    exact iff_of_false (hrests.not_executes h.run.scheduled h.completes h.not_runUnitScripts
      h.not_kills hnever) fun hnow => htick hnow.1

lemma suspends_of_waitsFor {i : Instruction} {isBusy : Piece → Bool}
    (hi : d.machine.instruction? = some i) (hwaits : WaitsFor i state isBusy) :
    Suspends d.unit d.machine
        ⟨d.machine.world, d.machine.environment, d.machine.fetched.thread⟩ state ∧
      Awaits state i.first isBusy := by
  cases hwaits with
  | move hop haxis => exact ⟨.move (Machine.step_waitForMove hi hop haxis), .move⟩
  | turn hop haxis => exact ⟨.turn (Machine.step_waitForTurn hi hop haxis), .turn⟩

/-- A thread that waits for a piece goes on when the piece is not busy at its turn. -/
lemma of_wait {i : Instruction} {isBusy : Piece → Bool} {name : String}
    (h : Sequel s past w₁ budget later w o d) (hi : d.machine.instruction? = some i)
    (hwaits : WaitsFor i state isBusy)
    (hname : d.machine.environment.program.pieceName? i.first = some name)
    (hidle : ∀ st ∈ later, ¬st.operation.Executes st.before d.unit d.thread) :
    ComesUp o w d.unit d.thread { d.machine.fetched.thread with state := state } ∧
      (o.Executes w d.unit d.thread ↔ ∃ budget T, o = .tick budget ∧
        TakesTurn budget w d.unit d.thread { d.machine.fetched.thread with state := state } T ∧
        ∀ u q, T.world.units.get? d.unit = some u → u.piece? name = some q → isBusy q = false) := by
  obtain ⟨hsuspends, hawaits⟩ := suspends_of_waitsFor hi hwaits
  obtain ⟨env, henv⟩ := h.exists_environment
  obtain ⟨hunfinished, -⟩ := h.last_of_suspends hsuspends
  have hunfinished : d.machine.fetched.thread.isFinished = false :=
    (Machine.readsOn_fetched d.machine).eq.2.2.trans hunfinished
  have hnamed : ∀ {piece isBusy}, Awaits state piece isBusy →
      d.machine.environment.program.pieceName? piece ≠ none := by
    intro piece isBusy' hawaits'
    have hpiece : piece = i.first := by cases hawaits <;> cases hawaits' <;> rfl
    simp [hpiece, hname]
  have hlater : ∀ st ∈ later, ∀ {budget T env₁}, st.operation = .tick budget →
      TakesTurn budget st.before d.unit d.thread
        { d.machine.fetched.thread with state := state } T →
      T.environment.program = d.machine.environment.program → T.Leaves env₁ → T.Waits := by
    intro st hst budget' T env₁ htick htakes hprogram hleaves
    have ht : T.environment.threads.get? T.thread =
        some { d.machine.fetched.thread with state := state } := by
      rw [htakes.thread]
      exact htakes.stored
    refine (Turn.trail_eq_nil_iff ht hunfinished hleaves ?_).1 ?_
    · rw [hprogram]
      exact hnamed
    · by_contra hne
      have hexecutes := executes_of_trail htakes.mem hne
      rw [htakes.unit, htakes.thread, ← htick] at hexecutes
      exact hidle st hst hexecutes
  obtain ⟨hrests, -⟩ := h.rests hsuspends hlater
  have hcomes := hrests.comesUp h.run.scheduled h.completes henv h.not_kills
  refine ⟨hcomes, ?_⟩
  by_cases htick : ∃ budget, o = .tick budget
  · obtain ⟨budget', rfl⟩ := htick
    obtain ⟨T, htakes⟩ := hcomes.turn rfl
    obtain ⟨hprogram, hexecutes⟩ := hrests.executes_iff h.run.scheduled h.completes henv
      h.not_kills hunfinished hnamed htakes
    have hready : T.Waits ↔ ∃ q,
        ((T.world.units.get? d.unit).bind fun u => u.piece? name) = some q ∧ isBusy q = true := by
      rw [Turn.waits_iff (htakes.thread ▸ htakes.stored), ← htakes.unit]
      exact readiness_awaits hawaits (hprogram ▸ hname)
    rw [hexecutes, hready]
    constructor
    · intro hgoes
      refine ⟨budget', T, rfl, htakes, fun u q hu hq => ?_⟩
      rw [← Bool.not_eq_true]
      exact fun hbusy => hgoes ⟨q, by rw [hu, Option.bind_some, hq], hbusy⟩
    · rintro ⟨budget'', T', hb, htakes', hfree⟩ ⟨q, hq, hbusy⟩
      cases hb
      rw [htakes.only T' htakes'.mem htakes'.unit htakes'.thread] at hfree
      obtain ⟨u, hu, hq⟩ := Option.bind_eq_some_iff.1 hq
      rw [hfree u q hu hq] at hbusy
      cases hbusy
  · have hnever : ∀ budget, o ≠ .tick budget := fun budget hb => htick ⟨budget, hb⟩
    refine iff_of_false (hrests.not_executes h.run.scheduled h.completes h.not_runUnitScripts
      h.not_kills hnever) ?_
    rintro ⟨budget', T, hb, -⟩
    exact hnever budget' hb

/-- A thread that waits for a piece whose number is not in the table is taken away in the next
tick. -/
lemma of_wait_lost {i : Instruction} {isBusy : Piece → Bool}
    (h : Sequel s past w₁ budget later w o d) (hi : d.machine.instruction? = some i)
    (hwaits : WaitsFor i state isBusy)
    (hmissing : d.machine.environment.program.pieceName? i.first = none)
    (hnone : ∀ st ∈ later, ∀ budget, st.operation ≠ .tick budget) :
    ComesUp o w d.unit d.thread { d.machine.fetched.thread with state := state } ∧
      (∀ st ∈ later, ¬st.operation.Executes st.before d.unit d.thread) ∧
      ¬o.Executes w d.unit d.thread ∧
      ∀ budget, o = .tick budget → (o.after w).thread? d.unit d.thread = none := by
  obtain ⟨hsuspends, hawaits⟩ := suspends_of_waitsFor hi hwaits
  obtain ⟨env, henv⟩ := h.exists_environment
  obtain ⟨hrests, hidle⟩ := h.rests hsuspends fun st hst budget' T env₁ htick =>
    absurd htick (hnone st hst budget')
  have hcomes := hrests.comesUp h.run.scheduled h.completes henv h.not_kills
  by_cases htick : ∃ budget, o = .tick budget
  · obtain ⟨budget', rfl⟩ := htick
    obtain ⟨hexecutes, hgone⟩ := hrests.lost h.run.scheduled h.completes henv h.not_kills hawaits
      hmissing
    exact ⟨hcomes, hidle, hexecutes, fun _ _ => hgone⟩
  · have hnever : ∀ budget, o ≠ .tick budget := fun budget hb => htick ⟨budget, hb⟩
    exact ⟨hcomes, hidle, hrests.not_executes h.run.scheduled h.completes h.not_runUnitScripts
      h.not_kills hnever, fun budget' hb => absurd hb (hnever budget')⟩

end Sequel

/-- A thread that carries out SLEEP goes on exactly in the tick in which its time is over, and in
the next one at the earliest.  A thread that carries out WAIT_FOR_MOVE or WAIT_FOR_TURN goes on in
the first later tick in which, at its turn, the piece is not busy or there is no such piece; if the
number of the piece is not in the table, it is taken away in its next turn.  Until then it is stored
as it was put back.  This holds of every thread that is not killed and whose unit is there, after
any operations but extra runs of the scripts of the unit. -/
theorem threads_wake_on_time {d : Deed} {i : Instruction}
    (hrun : Run s (past ++ ⟨w₁, .tick budget⟩ :: later) w) (ho : o.Completes w)
    (hd : d ∈ (Operation.tick budget).deeds w₁) (hi : d.machine.instruction? = some i)
    (hunit : (w.units.get? d.unit).isSome = true)
    (hscripts : ∀ st ∈ later ++ [⟨w, o⟩], ∀ budget, st.operation ≠ .runUnitScripts budget d.unit)
    (hspared : ∀ st ∈ ⟨w₁, .tick budget⟩ :: (later ++ [⟨w, o⟩]),
      ¬st.operation.Kills st.before d.unit d.thread) :
    (i.opcode = .sleep ∨ (∃ state isBusy, WaitsFor i state isBusy) →
      ∃ T t, TakesTurn budget w₁ d.unit d.thread t T ∧ T.trail.getLast? = some d.machine) ∧
    (i.opcode = .sleep → w.time.val.toNat + 2 < UInt32.size →
      let since := w₁.time.val.toNat + 1
      let wake := max (since + 1) (since + d.machine.thread.top.toInt.toNat / 33)
      w.time.val.toNat < wake →
      ∃ wakeAt, ComesUp o w d.unit d.thread
          { d.machine.fetched.thread.pop with state := .sleeping wakeAt } ∧
        (∀ st ∈ later, ¬st.operation.Executes st.before d.unit d.thread) ∧
        (o.Executes w d.unit d.thread ↔
          (∃ budget, o = .tick budget) ∧ w.time.val.toNat + 1 = wake)) ∧
    ∀ state isBusy, WaitsFor i state isBusy →
      let t := { d.machine.fetched.thread with state := state }
      (∀ name, d.machine.environment.program.pieceName? i.first = some name →
        (∀ st ∈ later, ¬st.operation.Executes st.before d.unit d.thread) →
        ComesUp o w d.unit d.thread t ∧
        (o.Executes w d.unit d.thread ↔ ∃ budget T, o = .tick budget ∧
          TakesTurn budget w d.unit d.thread t T ∧ ∀ u q, T.world.units.get? d.unit = some u →
            u.piece? name = some q → isBusy q = false)) ∧
      (d.machine.environment.program.pieceName? i.first = none →
        (∀ st ∈ later, ∀ budget, st.operation ≠ .tick budget) →
        ComesUp o w d.unit d.thread t ∧
        (∀ st ∈ later, ¬st.operation.Executes st.before d.unit d.thread) ∧
        ¬o.Executes w d.unit d.thread ∧
        ∀ budget, o = .tick budget → (o.after w).thread? d.unit d.thread = none) := by
  have h : Sequel s past w₁ budget later w o d := ⟨hrun, ho, hd, hunit, hscripts, hspared⟩
  refine ⟨?_, fun hop htime => ?_, fun state isBusy hwaits => ⟨fun name hname hidle => ?_,
    fun hmissing hnone => ?_⟩⟩
  · rintro (hop | ⟨state, isBusy, hwaits⟩)
    · exact (h.last_of_suspends (.sleep (Machine.step_sleep hi hop))).2.2
    · exact (h.last_of_suspends (Sequel.suspends_of_waitsFor hi hwaits).1).2.2
  · exact h.of_sleep hi hop htime _ _ rfl rfl
  · exact h.of_wait hi hwaits hname hidle
  · exact h.of_wait_lost hi hwaits hmissing hnone

/-- A script that lifts a piece by three units, one in a tick, waits for it and sleeps for a tenth
of a second. -/
def Sample.lift : Program where
  words := #[
    Script.Opcode.word .pushConstant, 30 * 65536, Script.Opcode.word .pushConstant, 3 * 65536,
    Script.Opcode.word .move, 0, 1, Script.Opcode.word .waitForMove, 0, 1,
    Script.Opcode.word .pushConstant, 100, Script.Opcode.word .sleep,
    Script.Opcode.word .jump, 10]
  functions := [⟨"Create", 0⟩]
  pieces := ["base"]
  staticCount := 0

/-- Tanks with that script. -/
def Sample.crane : Setup := Sample.drill [⟨"base", 0, none⟩] Sample.lift

/-- One of them is put on the map. -/
def Sample.crew : List Operation :=
  [.addPlayer (.new .human "" 0), .spawnUnit "tank" ⟨0⟩ 0 none]

/-- The world after that and a number of ticks. -/
def Sample.lifted : (ticks : Nat) → World
  | 0 => (replay Sample.crew [] (Sample.lineup Sample.crane)).2
  | ticks + 1 => (Operation.tick 19).after (Sample.lifted ticks)

/-- One of the ticks. -/
def Sample.lifting (ticks : Nat) : Step := ⟨Sample.lifted ticks, .tick 19⟩

lemma Sample.run_lifted (ticks : Nat)
    (h : ∀ n < ticks, (Operation.tick 19).Completes (Sample.lifted n)) :
    Run Sample.crane ((replay Sample.crew [] (Sample.lineup Sample.crane)).1 ++
      (List.range ticks).map Sample.lifting) (Sample.lifted ticks) := by
  induction ticks with
  | zero =>
    have hbegin : World.new Sample.crane = .ok (Sample.lineup Sample.crane) ∧
        Operation.AllComplete Sample.crew (Sample.lineup Sample.crane) := by decide +kernel
    rw [List.range_zero, List.map_nil, List.append_nil]
    exact (Run.start hbegin.1).replay hbegin.2
  | succ ticks ih =>
    rw [List.range_succ, List.map_append, ← List.append_assoc]
    exact (ih fun n hn => h n (Nat.lt_succ_of_lt hn)).step _ (h ticks (Nat.lt_succ_self ticks))

/-- The thread waits for the piece in the first tick and goes on in the fourth one, in which it
falls asleep; it sleeps for three ticks. -/
theorem threads_wake_on_time_lift :
    (Operation.tick 19).Executes (Sample.lifted 3) ⟨1⟩ ⟨0⟩ ∧
      ¬(Operation.tick 19).Executes (Sample.lifted 5) ⟨1⟩ ⟨0⟩ ∧
      (Operation.tick 19).Executes (Sample.lifted 6) ⟨1⟩ ⟨0⟩ := by
  obtain ⟨⟨hcomplete, hspared, hunit, hidle⟩, hfree, ⟨htime₃, htime₅, htime₆⟩,
      ⟨⟨unit, n, m⟩, hd, ⟨rfl, rfl⟩, i, hi, hop, hfirst, haxis, hname⟩,
      ⟨unit', n', m'⟩, hd', ⟨rfl, rfl⟩, i', hi', hop', htop⟩ :
      ((∀ k < 7, (Operation.tick 19).Completes (Sample.lifted k)) ∧
        (∀ k < 7, ¬(Operation.tick 19).Kills (Sample.lifted k) ⟨1⟩ ⟨0⟩) ∧
        (∀ k < 7, ((Sample.lifted k).units.get? ⟨1⟩).isSome = true) ∧
        ∀ k ∈ [1, 2], ¬(Operation.tick 19).Executes (Sample.lifted k) ⟨1⟩ ⟨0⟩) ∧
      (∀ T ∈ (Operation.tick 19).turns (Sample.lifted 3),
        ((T.world.units.get? ⟨1⟩).bind fun u => u.piece? "base").all
          (fun q => !q.isMoving .y) = true) ∧
      ((Sample.lifted 3).time = ⟨3⟩ ∧ (Sample.lifted 5).time = ⟨5⟩ ∧
        (Sample.lifted 6).time = ⟨6⟩) ∧
      (∃ d ∈ (Operation.tick 19).deeds (Sample.lifted 0), (d.unit = ⟨1⟩ ∧ d.thread = ⟨0⟩) ∧
        ∃ i ∈ d.machine.instruction?, i.opcode = .waitForMove ∧ i.first = 0 ∧
          Axis.ofWord? i.second = some .y ∧
          d.machine.environment.program.pieceName? 0 = some "base") ∧
      ∃ d ∈ (Operation.tick 19).deeds (Sample.lifted 3), (d.unit = ⟨1⟩ ∧ d.thread = ⟨0⟩) ∧
        ∃ i ∈ d.machine.instruction?, i.opcode = .sleep ∧
          d.machine.thread.top.toInt.toNat = 100 := by
    decide +kernel
  let before := (replay Sample.crew [] (Sample.lineup Sample.crane)).1
  have hrun₃ : Run Sample.crane
      (before ++ Sample.lifting 0 :: [Sample.lifting 1, Sample.lifting 2]) (Sample.lifted 3) :=
    Sample.run_lifted 3 fun k hk => hcomplete k (by omega)
  have hrun₅ : Run Sample.crane
      ((before ++ [Sample.lifting 0, Sample.lifting 1, Sample.lifting 2]) ++
        Sample.lifting 3 :: [Sample.lifting 4]) (Sample.lifted 5) := by
    rw [List.append_assoc]
    exact Sample.run_lifted 5 fun k hk => hcomplete k (by omega)
  have hrun₆ : Run Sample.crane
      ((before ++ [Sample.lifting 0, Sample.lifting 1, Sample.lifting 2]) ++
        Sample.lifting 3 :: [Sample.lifting 4, Sample.lifting 5]) (Sample.lifted 6) := by
    rw [List.append_assoc]
    exact Sample.run_lifted 6 fun k hk => hcomplete k (by omega)
  have hscripts : ∀ {l : List Nat}, ∀ st ∈ l.map Sample.lifting, ∀ budget,
      st.operation ≠ .runUnitScripts budget ⟨1⟩ := by
    intro l st hst budget
    obtain ⟨k, -, rfl⟩ := List.mem_map.1 hst
    nofun
  have hsteps : ∀ {l : List Nat}, (∀ k ∈ l, k < 7) → ∀ st ∈ l.map Sample.lifting,
      ¬st.operation.Kills st.before ⟨1⟩ ⟨0⟩ := by
    intro l hl st hst
    obtain ⟨k, hk, rfl⟩ := List.mem_map.1 hst
    exact hspared k (hl k hk)
  obtain ⟨-, -, hwait⟩ := threads_wake_on_time hrun₃ (hcomplete 3 (by decide)) hd hi
    (hunit 3 (by decide)) (hscripts (l := [1, 2, 3]))
    (hsteps (l := [0, 1, 2, 3]) (by decide))
  obtain ⟨-, hsleep₅, -⟩ := threads_wake_on_time hrun₅ (hcomplete 5 (by decide)) hd' hi'
    (hunit 5 (by decide)) (hscripts (l := [4, 5])) (hsteps (l := [3, 4, 5]) (by decide))
  obtain ⟨-, hsleep₆, -⟩ := threads_wake_on_time hrun₆ (hcomplete 6 (by decide)) hd' hi'
    (hunit 6 (by decide)) (hscripts (l := [4, 5, 6])) (hsteps (l := [3, 4, 5, 6]) (by decide))
  have hquiet : ∀ st ∈ [1, 2].map Sample.lifting,
      ¬st.operation.Executes st.before ⟨1⟩ ⟨0⟩ := by
    intro st hst
    obtain ⟨k, hk, rfl⟩ := List.mem_map.1 hst
    exact hidle k hk
  refine ⟨?_, ?_, ?_⟩
  · -- the piece is at rest when the thread comes to its turn
    obtain ⟨hcomes, hexecutes⟩ := (hwait _ _ (.move hop haxis)).1 "base" (hfirst ▸ hname) hquiet
    obtain ⟨T, htakes⟩ := hcomes.turn rfl
    refine hexecutes.2 ⟨19, T, rfl, htakes, fun u q hu hq => ?_⟩
    have hrest := hfree T htakes.mem
    rw [hu, Option.bind_some, hq] at hrest
    simpa using hrest
  · obtain ⟨wakeAt, -, -, hexecutes⟩ := hsleep₅ hop' (by rw [htime₅]; decide)
      (by rw [htime₃, htime₅, htop]; decide)
    rw [hexecutes, htime₃, htime₅, htop]
    exact fun hnow => absurd hnow.2 (by decide)
  · obtain ⟨wakeAt, -, -, hexecutes⟩ := hsleep₆ hop' (by rw [htime₆]; decide)
      (by rw [htime₃, htime₆, htop]; decide)
    rw [hexecutes, htime₃, htime₆, htop]
    exact ⟨⟨19, rfl⟩, by decide⟩

end World

end Lockstep
