import Lockstep.Proofs.Script.Histories
import Lockstep.Proofs.World.Passages
/-!
# The local variables of scripts

Whatever a thread of a unit has gone through, its frames hold what follows from what the functions
were entered with and what they have carried out (`variables_follow_from_history`).  In a battle
this is what the thread has done in its turns.
-/

namespace Lockstep.World

open Script (Environment Fresh History Machine Opcode Session Thread)
open Script.Machine (Passage historiesAlong)

/-- The frames of a thread follow from what it has gone through since it was started, with calls,
loops, faults and rests: each has as many local variables as its function was entered with
parameters or has declared variables, whichever are more; no more are declared than there are; and
each variable holds the last value that has been popped into it, else the parameter, else zero.  All
threads of all sessions have gone through something of that kind; a start takes the parameters off
the stack one after the other, as a call does; and a declaration leaves all variables that there are
as they are.  In a battle all threads belong to sessions, and those that are stored have gone
through what they have done in their turns. -/
theorem variables_follow_from_history :
    (∀ {σ : Type} (host : Script.Host σ) (unit : UnitId),
      (∀ {t₀ t : Thread} {address params ms}, t₀.frames = [.enter address params] →
        Passage host unit t₀ ms t →
          t.Counted ∧ List.Forall₂ History.Describes
            (historiesAlong host unit [.enter params] ms) t.frames) ∧
      (∀ {p env o}, Session host unit p env o →
        ∀ t, o = some t ∨ (∃ n, env.threads.get? n = some t) →
          ∃ t₀ ms, Fresh p t₀ ∧ Passage host unit t₀ ms t) ∧
      (∀ {m m' : Machine σ} {i status}, m.instruction? = some i → i.opcode = .start →
        (Machine.step host unit).run.run m = (.ok status, m') →
          ∃ f, m.environment.program.function? i.first = some f ∧
            m'.environment.threads = m.environment.threads.insert ⟨m.environment.nextThread⟩
              (.start f.name f.address (m.thread.popped i.second.toNat) m.thread.mask)) ∧
      ∀ {m : Machine σ} {i f rest}, m.instruction? = some i → i.opcode = .createLocal →
        m.thread.frames = f :: rest →
          ∃ f', ((Machine.step host unit).run.run m).2.thread.frames = f' :: rest ∧
            f.locals <+: f'.locals) ∧
    ∀ {s past w}, Run s past w →
      (∀ id env, w.environment? id = some env → Session host id env.program env none) ∧
      (∀ d ∈ deeds past, Session host d.unit d.machine.environment.program d.machine.environment
        (some d.machine.thread)) ∧
      ∀ {later w' id n t₀ t address params}, Run s (past ++ later) w' →
        w.thread? id n = some t₀ → t₀.frames = [.enter address params] →
        w'.thread? id n = some t →
          List.Forall₂ History.Describes
            (historiesAlong World.host id [.enter params] (machinesOf n (ofUnit id (turns later))))
            t.frames := by
  refine ⟨fun host unit => ⟨fun hframes h => ?_, fun h t ht => ?_, fun hi hop h => ?_,
    fun hi hop hframes => Machine.exists_frames_step_createLocal host unit hi hop hframes⟩,
    fun h => ⟨h.staged.1, fun d hd => (h.staged.2 d hd).2, fun h' ht₀ hframes ht =>
      (h'.passage h ht₀ ht).describes_of_enter hframes⟩⟩
  · have hdescribes := h.describes_of_enter hframes
    exact ⟨Thread.counted_of_describes hdescribes, hdescribes⟩
  · obtain ⟨hstored, hrunning⟩ := h.exists_passage
    rcases ht with ht | ⟨n, ht⟩
    · exact hrunning t ht
    · exact hstored n t ht
  · obtain ⟨-, f, hf, hthreads⟩ := Machine.started_of_step hi hop h
    rw [Thread.topMany_eq_popped] at hthreads
    exact ⟨f, hf, hthreads⟩

namespace Sample

/-- A script that declares a variable, starts a thread with a parameter and calls the same function
with two.  The function declares a variable, writes the first one and sleeps, over and over again.
-/
def redeclaring : Script.Program where
  words := #[
    Opcode.word .createLocal, Opcode.word .pushConstant, 7, Opcode.word .popLocal, 0,
    Opcode.word .pushConstant, 4, Opcode.word .start, 1, 1,
    Opcode.word .pushConstant, 9, Opcode.word .pushConstant, 5, Opcode.word .call, 1, 2,
    Opcode.word .createLocal, Opcode.word .pushConstant, 3, Opcode.word .popLocal, 0,
    Opcode.word .pushConstant, 0, Opcode.word .sleep, Opcode.word .jump, 17]
  functions := [⟨"Create", 0⟩, ⟨"Sub", 17⟩]
  pieces := []
  staticCount := 0

/-- A tank with that script is put on the map. -/
def recruit : List Step × World :=
  replay [.addPlayer (.new .human "" 0), .spawnUnit "tank" ⟨0⟩ 0 none] []
    (lineup (drill [] redeclaring))

/-- What happens in three ticks after that. -/
def service : List Step × World := replay (List.replicate 3 (.tick 30)) [] recruit.2

lemma run_service : Run (drill [] redeclaring) recruit.1 recruit.2 ∧
    Run (drill [] redeclaring) (recruit.1 ++ service.1) service.2 := by
  have hcomplete : World.new (drill [] redeclaring) = .ok (lineup (drill [] redeclaring)) ∧
      Operation.AllComplete [.addPlayer (.new .human "" 0), .spawnUnit "tank" ⟨0⟩ 0 none]
        (lineup (drill [] redeclaring)) ∧
      Operation.AllComplete (List.replicate 3 (.tick 30)) recruit.2 := by decide +kernel
  have hrecruit : Run (drill [] redeclaring) recruit.1 recruit.2 :=
    (Run.start hcomplete.1).replay hcomplete.2.1
  exact ⟨hrecruit, hrecruit.replay_append hcomplete.2.2⟩

end Sample

/-- After three rounds the called function has three variables: one that was written, one that is
still a parameter, and one that was only declared.  The thread that was started has one parameter.
-/
theorem variables_follow_from_history_redeclaring :
    (∃ t, Sample.service.2.thread? ⟨1⟩ ⟨0⟩ = some t ∧ t.Counted ∧
      t.frames = [⟨25, [3, 9, 0], 3⟩, ⟨17, [7], 1⟩] ∧
      ∃ called caller : History,
        called.Describes ⟨25, [3, 9, 0], 3⟩ ∧ called.params = [5, 9] ∧ called.declarations = 3 ∧
          called.lastStored? 0 = some 3 ∧ called.lastStored? 1 = none ∧
        caller.Describes ⟨17, [7], 1⟩ ∧ caller.params = [] ∧ caller.declarations = 1 ∧
          caller.lastStored? 0 = some 7) ∧
    (∃ d ∈ deeds Sample.service.1,
      ((Machine.step host ⟨1⟩).run.run d.machine).2.environment.threads =
        d.machine.environment.threads.insert ⟨1⟩ (.start "Sub" 17 [4] 0)) ∧
    ∃ d ∈ deeds Sample.service.1, ∃ f rest f', d.machine.thread.frames = f :: rest ∧
      f.locals = [3, 9] ∧ f.declared = 1 ∧
      ((Machine.step host ⟨1⟩).run.run d.machine).2.thread.frames = f' :: rest ∧
      f.locals <+: f'.locals := by
  obtain ⟨hgeneral, hbattle⟩ := variables_follow_from_history
  obtain ⟨hdescribes, hsessions, hstarts, hdeclares⟩ := hgeneral host ⟨1⟩
  obtain ⟨hrecruit, hservice⟩ := Sample.run_service
  obtain ⟨hbegin, hend, hhistories, ⟨d, hd, i, hi, hop, hnext, hfunction, hpopped, hmask, hok⟩,
      d', hd', i', hi', hop', hhead⟩ :
      ((Sample.recruit.2.thread? ⟨1⟩ ⟨0⟩).map Thread.frames = some [.enter 0 []]) ∧
      ((Sample.service.2.thread? ⟨1⟩ ⟨0⟩).map Thread.frames =
        some [⟨25, [3, 9, 0], 3⟩, ⟨17, [7], 1⟩]) ∧
      ((historiesAlong host ⟨1⟩ [.enter []]
          (machinesOf ⟨0⟩ (ofUnit ⟨1⟩ (turns Sample.service.1)))).map fun h =>
        (h.params, h.declarations, h.lastStored? 0, h.lastStored? 1)) =
          [([5, 9], 3, some 3, none), ([], 1, some 7, none)] ∧
      (∃ d ∈ deeds Sample.service.1, ∃ i ∈ d.machine.instruction?, i.opcode = .start ∧
        d.machine.environment.nextThread = 1 ∧
        d.machine.environment.program.function? i.first = some ⟨"Sub", 17⟩ ∧
        d.machine.thread.popped i.second.toNat = [4] ∧ d.machine.thread.mask = 0 ∧
        ((Machine.step host ⟨1⟩).run.run d.machine).1.toOption = some none) ∧
      ∃ d ∈ deeds Sample.service.1, ∃ i ∈ d.machine.instruction?, i.opcode = .createLocal ∧
        (d.machine.thread.frames.head?.map fun f => (f.locals, f.declared)) = some ([3, 9], 1) := by
    decide +kernel
  refine ⟨?_, ?_, ?_⟩
  · obtain ⟨t₀, ht₀, hframes₀⟩ := Option.map_eq_some_iff.1 hbegin
    obtain ⟨t, ht, hframes⟩ := Option.map_eq_some_iff.1 hend
    obtain ⟨hstored, -, hturns⟩ := hbattle hservice
    obtain ⟨env, henv, hget⟩ := Option.bind_eq_some_iff.1 ht
    -- that no more are declared than there are follows already from its being in a session
    obtain ⟨t₁, ms, hfresh, hpassage⟩ := hsessions (hstored ⟨1⟩ env henv) t (.inr ⟨⟨0⟩, hget⟩)
    obtain ⟨f, -, params, hframes₁⟩ := hfresh.frames
    have hall := (hbattle hrecruit).2.2 hservice ht₀ hframes₀ ht
    rw [hframes] at hall
    generalize historiesAlong _ _ _ _ = histories at hall hhistories
    cases hall with
    | cons hcalled hall =>
      cases hall with
      | cons hcaller hall =>
        cases hall
        simp only [List.map_cons, List.map_nil, List.cons.injEq, Prod.mk.injEq, and_true]
          at hhistories
        obtain ⟨⟨hparams, hdeclarations, hzero, hone⟩, hparams', hdeclarations', hzero', -⟩ :=
          hhistories
        exact ⟨t, ht, (hdescribes hframes₁ hpassage).1, hframes, _, _, hcalled, hparams,
          hdeclarations, hzero, hone, hcaller, hparams', hdeclarations', hzero'⟩
  · refine ⟨d, hd, ?_⟩
    obtain ⟨status, m', hstep⟩ : ∃ status m', (Machine.step host ⟨1⟩).run.run d.machine =
        (.ok status, m') := by
      revert hok
      rcases (Machine.step host ⟨1⟩).run.run d.machine with ⟨_ | status, m'⟩ <;> intro hok
      · cases hok
      · exact ⟨status, m', rfl⟩
    obtain ⟨f, hf, hthreads⟩ := hstarts hi hop hstep
    rw [hfunction] at hf
    cases hf
    rw [hstep, hthreads, hnext, hpopped, hmask]
  · obtain ⟨f, hf, hlocals⟩ := Option.map_eq_some_iff.1 hhead
    obtain ⟨rest, hframes⟩ := List.head?_eq_some_iff.1 hf
    obtain ⟨f', hframes', hkept⟩ := hdeclares hi' hop' hframes
    obtain ⟨hlocals, hdeclared⟩ := Prod.mk.inj hlocals
    exact ⟨d', hd', f, rest, f', hframes, hlocals, hdeclared, hframes', hkept⟩

end Lockstep.World
