import Lockstep.Proofs.World.Sturdy
/-!
# What no script can do

Scripts are words of unknown origin, and the numbers in them go wherever numbers go: they are
addresses and places in lists, speeds, angles and divisors.  None of them stops a tick.  In each
turn of a thread, whatever it asks for is computed within words and found where it is looked up; and
an instruction that cannot be carried out ends its thread and nothing else.  What remains is a
thread that runs on for ever, and one that starts others until the numbers of threads are used up.
-/

namespace Lockstep.World

open Script (Environment Exec Machine Motion Thread ThreadState)
open Script.Machine (Fit)

variable {s : Setup} {past : List Step} {w w' : World} {id : UnitId} {env env' : Environment}
  {m m' : Machine World} {budget : Nat}

/-- Whatever the next instruction of a machine is, nothing stops everything: results fit their
words, divisors are not zero, ranges are not empty and places are in their lists. -/
structure Sound (id : UnitId) (m : Machine World) : Prop where
  /-- Counters of variables do not get beyond the variables. -/
  counters : m.thread.Counted
  /-- Values are combined. -/
  operations : ∀ (op : Script.BinaryOp) a b, op.applyChecked a b = .ok (op.apply a b)
  /-- Values of the world are read. -/
  values : ∀ v a b, readValueChecked id m.environment.program m.world v a b =
    .ok (Machine.readValue host id m.environment.program m.world v a b)
  /-- The yard is opened or closed. -/
  yard : ∀ isOpen, Agrees (trySetYardOpenChecked id isOpen m.world)
    ((trySetYardOpen id isOpen).on m.world)
  /-- Others are told to leave. -/
  leave : Agrees (emitBuggerOffChecked id m.world) ((emitBuggerOff id).on m.world)
  /-- The instruction answers or fails, unless it starts a thread for which there is no number. -/
  step : ∀ cause, ((Machine.step host id).run.run m).1 = .error (.halt cause) → m.StartsBeyond
  /-- A motion that it sets going is set going, refused or faulty. -/
  motion : ∀ {piece axis motion m₁},
    (Machine.step host id).run.run m = (.ok (some (.motion piece axis motion)), m₁) →
    ∀ cause, ((applyMotion id piece axis motion).run.run m₁).1 ≠ .error (.halt cause)

/-- What comes of the visit to the thread. -/
def Turn.visit (T : Turn) : Except Failure Environment × World :=
  (visitThread T.budget T.unit T.environment T.thread).on T.world

/-- Nothing that the thread does in its turn stops everything. -/
structure Turn.Unhalted (T : Turn) : Prop where
  /-- Each instruction is carried out or fails. -/
  sound : ∀ m ∈ T.trail, Sound T.unit m
  /-- The turn comes to its end, unless the thread runs on and on or starts too many others. -/
  ends : (∃ env' w', T.visit = (.ok env', w') ∧ T.Leaves env') ∨
    T.visit.1 = .error (.halt .exhausted) ∧ T.trail.length = T.budget ∨
    ∃ m ∈ T.trail, m.StartsBeyond
  /-- A piece that is found by its name is looked up where it is. -/
  pieces : ∀ {u name i}, T.world.units.get? T.unit = some u → u.pieceIndex? name = some i →
    (u.pieces[i]?).isSome
  /-- An instruction that cannot be carried out ends the thread, and leaves the script state and the
  world as they were, with a notice of the error. -/
  faults : ∀ m ∈ T.trail, ∀ e m', Stumbles T.unit e m m' →
    ∃ t, T.environment.threads.get? T.thread = some t ∧
      T.visit = (.ok m.environment, m.world.note (.threadFaulted T.unit T.thread t.name e))

/-! ### Single machines -/

lemma applyMotion_ne_halt (hm : Fit Sturdy m) (id : UnitId) (piece : UInt32) (axis : Axis)
    (motion : Motion) (cause : Halt) :
    ((applyMotion id piece axis motion).run.run m).1 ≠ .error (.halt cause) := by
  intro hcause
  have hfault := (safe_applyMotion id piece axis motion m hm).2
  rw [hcause] at hfault
  exact hfault

lemma fit_step (hm : Fit Sturdy m) (id : UnitId) :
    Fit Sturdy ((Machine.step host id).run.run m).2 :=
  (hm.step (steadfast_host id)).1

lemma fit_applyMotion (hm : Fit Sturdy m) (id : UnitId) (piece : UInt32) (axis : Axis)
    (motion : Motion) : Fit Sturdy ((applyMotion id piece axis motion).run.run m).2 :=
  (safe_applyMotion id piece axis motion m hm).1

lemma sound_of_fit (hm : Fit Sturdy m) (id : UnitId) : Sound id m where
  counters := hm.thread
  operations := Script.BinaryOp.applyChecked_eq
  values := readValueChecked_eq hm.world.toMeasured hm.world.nextUnit id m.environment.program
  yard := trySetYardOpenChecked_agrees hm.world.toMeasured hm.world.toOrdered id
  leave := emitBuggerOffChecked_agrees hm.world.toMeasured hm.world.toOrdered id
  step := (hm.step (steadfast_host id)).2
  motion hstep := by
    have hnext := fit_step hm id
    rw [hstep] at hnext
    exact applyMotion_ne_halt hnext id _ _ _

/-! ### Threads that run -/

/-- A thread stops everything only by running on and on, or when it starts a thread for which there
is no number left; the induction is on the budget. -/
lemma resume_eq_halt (hm : Fit Sturdy m) {cause : Halt}
    (h : ((resume id budget).run.run m).1 = .error (.halt cause)) :
    cause = .exhausted ∧ (trail id budget m).length = budget ∨
      ∃ m' ∈ trail id budget m, m'.StartsBeyond := by
  induction budget generalizing m with
  | zero =>
    cases h
    exact .inl ⟨rfl, rfl⟩
  | succ budget ih =>
    have hnext := fit_step hm id
    have hbeyond := (hm.step (steadfast_host id)).2
    -- what is found later in the trail is found in the trail
    have later : ∀ {m₁ : Machine World}, Fit Sturdy m₁ →
        ((resume id budget).run.run m₁).1 = .error (.halt cause) →
        cause = .exhausted ∧ (m :: trail id budget m₁).length = budget + 1 ∨
          ∃ m' ∈ m :: trail id budget m₁, m'.StartsBeyond := by
      intro m₁ hm₁ h₁
      rcases ih hm₁ h₁ with ⟨hcause, hlength⟩ | ⟨m', hm', hbeyond⟩
      · exact .inl ⟨hcause, by rw [List.length_cons, hlength]⟩
      · exact .inr ⟨m', List.mem_cons_of_mem m hm', hbeyond⟩
    rw [resume, run_bind] at h
    rw [trail]
    cases hfinished : m.thread.isFinished with
    | true =>
      rw [Machine.step_of_isFinished hfinished] at h
      cases h
    | false =>
    rw [if_neg Bool.false_ne_true]
    revert h hnext hbeyond
    rcases (Machine.step host id).run.run m with ⟨(e | cause') | _ | status, m₁⟩ <;>
      intro h hnext hbeyond
    · cases h
    · exact .inr ⟨m, List.mem_cons_self, hbeyond cause' rfl⟩
    · exact later hnext h
    cases status with
    | motion piece axis motion =>
      have hmoved := fit_applyMotion hnext id piece axis motion
      have hhalt := applyMotion_ne_halt hnext id piece axis motion
      simp only [run_bind] at h ⊢
      revert h hmoved hhalt
      rcases (applyMotion id piece axis motion).run.run m₁ with ⟨(e | cause') | _, m₂⟩ <;>
        intro hmoved hhalt h
      · cases h
      · exact absurd rfl (hhalt cause')
      · exact later hmoved h
    | _ => cases h

/-- A thread that comes to an instruction that it cannot carry out is faulty; the induction is on
the budget. -/
lemma resume_of_stumbles {m₀ : Machine World} (hm : m ∈ trail id budget m₀) {e : ScriptError}
    (h : Stumbles id e m m') : (resume id budget).run.run m₀ = (.error (.fault e), m') := by
  induction budget generalizing m₀ with
  | zero => cases hm
  | succ budget ih =>
    rw [trail] at hm
    split at hm
    · cases hm
    rw [resume, run_bind]
    rcases List.mem_cons.1 hm with rfl | hm
    · cases h with
      | step hstep => rw [hstep]
      | motion m₁ piece axis motion hstep hmotion =>
        rw [hstep]
        simp only [run_bind, hmotion]
    · revert hm
      rcases (Machine.step host id).run.run m₀ with ⟨(_ | _) | _ | status, m₁⟩ <;> intro hm
      · cases hm
      · cases hm
      · exact ih hm
      cases status with
      | motion piece axis motion =>
        simp only [run_bind] at hm ⊢
        revert hm
        rcases (applyMotion id piece axis motion).run.run m₁ with ⟨_ | _, m₂⟩ <;> intro hm
        · cases hm
        · exact ih hm
      | _ => cases hm

/-! ### Turns -/

/-- A thread that can go on is resumed. -/
lemma Turn.visit_of_start {T : Turn} (h : T.start? = some m) :
    ∃ t, T.environment.threads.get? T.thread = some t ∧
      m = ⟨m.world, T.environment.removeThread T.thread, { t with state := .ready }⟩ ∧
      T.visit = (resumeThread T.budget T.unit T.thread t
        (T.environment.removeThread T.thread)).on m.world := by
  obtain ⟨t, ht, h⟩ := Option.bind_eq_some_iff.1 h
  refine ⟨t, ht, ?_⟩
  simp only [visit, visitThread, ht, Action.on_get_bind]
  revert h
  cases T.world.readiness T.unit T.environment.program t.state <;> intro h <;> cases h
  · exact ⟨rfl, rfl⟩
  · exact ⟨rfl, rfl⟩

/-- A turn in which the thread is not resumed has an answer. -/
lemma Turn.visit_of_none {T : Turn} (h : T.start? = none) :
    ∃ env' w', T.visit = (.ok env', w') := by
  rw [start?] at h
  simp only [visit, visitThread]
  cases ht : T.environment.threads.get? T.thread with
  | none => exact ⟨_, _, rfl⟩
  | some t =>
    rw [ht, Option.bind_some] at h
    simp only [Action.on_get_bind]
    revert h
    cases T.world.readiness T.unit T.environment.program t.state <;> intro h
    · cases h
    · exact ⟨_, _, rfl⟩
    · cases h
    · exact ⟨_, _, rfl⟩

lemma Turn.trail_of_start {T : Turn} (h : T.start? = some m) :
    T.trail = World.trail T.unit T.budget m := by
  rw [trail, h]
  rfl

/-- The machine from which the thread is resumed is in order. -/
lemma Turn.fit_of_start {T : Turn} (hw : Sturdy T.world) (henv : T.environment.Counted)
    (h : T.start? = some m) : Fit Sturdy m := by
  obtain ⟨t, ht, hawake⟩ := Turn.start?_eq_some h
  have hthread : (⟨t.name, t.stack, t.frames, t.mask, t.result, t.resultLocals, .ready⟩ :
      Thread).Counted := (henv T.thread t ht).of_frames rfl
  cases hawake with
  | ready _ => exact ⟨hthread, henv.removeThread T.thread, hw⟩
  | missing _ => exact ⟨hthread, henv.removeThread T.thread, (quiet_note _ _).keeps hw⟩

lemma Turn.fit_of_mem_trail {T : Turn} (hw : Sturdy T.world) (henv : T.environment.Counted) :
    ∀ m ∈ T.trail, Fit Sturdy m := by
  cases hstart : T.start? with
  | none =>
    rw [Turn.trail_of_none hstart]
    exact fun m hm => absurd hm List.not_mem_nil
  | some m₀ =>
    rw [Turn.trail_of_start hstart]
    exact forall_mem_trail (fun m hm => fit_step hm T.unit)
      (fun piece axis motion m hm => fit_applyMotion hm T.unit piece axis motion)
      (Turn.fit_of_start hw henv hstart)

/-- A thread that is resumed stops everything only if its run does. -/
lemma resumeThread_eq_error {n : ThreadId} {t : Thread} {failure : Failure}
    (h : (resumeThread budget id n t env).on w = (.error failure, w')) :
    ∃ cause, failure = .halt cause ∧
      ((resume id budget).run.run ⟨w, env, { t with state := .ready }⟩).1 =
        .error (.halt cause) := by
  rw [resumeThread, Action.on_get_bind] at h
  revert h
  rcases (resume id budget).run.run ⟨w, env, { t with state := .ready }⟩ with
    ⟨(e | cause) | (_ | state), m⟩ <;> intro h <;> cases h
  exact ⟨cause, rfl, rfl⟩

lemma Turn.ends_of_sturdy {T : Turn} (hw : Sturdy T.world) (henv : T.environment.Counted) :
    (∃ env' w', T.visit = (.ok env', w') ∧ T.Leaves env') ∨
      T.visit.1 = .error (.halt .exhausted) ∧ T.trail.length = T.budget ∨
      ∃ m ∈ T.trail, m.StartsBeyond := by
  cases hstart : T.start? with
  | none =>
    obtain ⟨env', w', hvisit⟩ := Turn.visit_of_none hstart
    exact .inl ⟨env', w', hvisit, Turn.leaves_of_visit hvisit⟩
  | some m₀ =>
  obtain ⟨t, -, hm₀, hvisit⟩ := Turn.visit_of_start hstart
  cases hanswer : T.visit with
  | mk answer w' =>
  rcases answer with failure | env'
  · rw [hvisit] at hanswer
    obtain ⟨cause, rfl, hresume⟩ := resumeThread_eq_error hanswer
    rw [← hm₀] at hresume
    rcases resume_eq_halt (Turn.fit_of_start hw henv hstart) hresume with
      ⟨rfl, hlength⟩ | hbeyond
    · rw [Turn.trail_of_start hstart]
      exact .inr (.inl ⟨rfl, hlength⟩)
    · rw [Turn.trail_of_start hstart]
      exact .inr (.inr hbeyond)
  · exact .inl ⟨env', w', rfl, Turn.leaves_of_visit hanswer⟩

lemma Turn.visit_of_stumbles {T : Turn} (hm : m ∈ T.trail) {e : ScriptError}
    (h : Stumbles T.unit e m m') : ∃ t, T.environment.threads.get? T.thread = some t ∧
      T.visit = (.ok m.environment, m.world.note (.threadFaulted T.unit T.thread t.name e)) := by
  cases hstart : T.start? with
  | none =>
    rw [Turn.trail_of_none hstart] at hm
    cases hm
  | some m₀ =>
    obtain ⟨t, ht, hm₀, hvisit⟩ := Turn.visit_of_start hstart
    obtain ⟨henvironment, hworld⟩ := h.related
    rw [Turn.trail_of_start hstart] at hm
    have hresume := resume_of_stumbles hm h
    refine ⟨t, ht, ?_⟩
    rw [hm₀] at hresume
    rw [hvisit, resumeThread, Action.on_get_bind, hresume, henvironment, hworld]
    rfl

lemma isSome_of_pieceIndex? {u : UnitState} {name : String} {i : Nat}
    (h : u.pieceIndex? name = some i) : (u.pieces[i]?).isSome := by
  obtain ⟨hlt, -⟩ := List.findIdx?_eq_some_iff_getElem.1 h
  rw [List.getElem?_eq_getElem hlt]
  rfl

/-- In a sturdy world nothing that a thread does stops everything. -/
lemma Turn.unhalted {T : Turn} (hw : Sturdy T.world) (henv : T.environment.Counted) :
    T.Unhalted where
  sound m hm := sound_of_fit (Turn.fit_of_mem_trail hw henv m hm) T.unit
  ends := Turn.ends_of_sturdy hw henv
  pieces _ hi := isSome_of_pieceIndex? hi
  faults _ hm _ _ h := Turn.visit_of_stumbles hm h

/-! ### The turns of a tick -/

lemma unhalted_of_mem_unitTurns (hw : Sturdy w) : ∀ T ∈ unitTurns budget id w, T.Unhalted := by
  intro T hT
  cases henv : w.environment? id with
  | none =>
    rw [unitTurns_eq_nil henv] at hT
    cases hT
  | some env =>
    rw [unitTurns_eq henv] at hT
    have hvisit : ∀ {n : ThreadId} {w : World} {env env' : Environment} {w' : World},
        Sturdy w ∧ env.Counted → (visitThread budget id env n).on w = (.ok env', w') →
        Sturdy w' ∧ env'.Counted := by
      intro n w₁ env₁ env' w' h hon
      have hvisited := secure_visitThread id budget h.2 n w₁ h.1
      have hrun : (visitThread budget id env₁ n).run.run w₁ = (.ok env', w') := hon
      rw [hrun] at hvisited
      exact hvisited
    obtain ⟨hworld, hcounted⟩ := forall_mem_turnsOf (I := fun w env => Sturdy w ∧ env.Counted)
      hvisit ⟨hw.detachEnvironment id, hw.counted henv⟩ T hT
    exact Turn.unhalted hworld hcounted

lemma unhalted_of_mem_turns (hw : Sturdy w) :
    ∀ T ∈ (Operation.tick budget).turns w, T.Unhalted :=
  forall_mem_turnsOfUnits (fun hw => unhalted_of_mem_unitTurns hw)
    (fun {id w} hw => keeps_runScriptsNoting budget id w hw) (keeps_beginTick w hw)

/-! ### Where a tick stops -/

/-- If the visits to the threads of a unit stop, one of them does; the induction is on the threads.
-/
lemma exists_turn_of_foldlM {failure : Failure} {threads : List ThreadId}
    (h : ((threads.foldlM (visitThread budget id) env).on w).1 = .error failure) :
    ∃ T ∈ turnsOf budget id threads w env, T.visit.1 = .error failure := by
  induction threads generalizing w env with
  | nil => cases h
  | cons n rest ih =>
    rw [List.foldlM_cons, Action.on_bind] at h
    simp only [turnsOf, visitsOf, List.map_cons]
    cases hon : (visitThread budget id env n).on w with
    | mk answer w₁ =>
    rw [hon] at h
    rcases answer with failure' | env₁
    · cases h
      exact ⟨_, List.mem_cons_self, congrArg Prod.fst hon⟩
    · obtain ⟨T, hT, hvisit⟩ := ih h
      exact ⟨T, List.mem_cons_of_mem _ hT, hvisit⟩

lemma exists_turn_of_runUnitScripts {cause : Halt}
    (h : ((runUnitScripts budget id).on w).1 = .error (.halt cause)) :
    ∃ T ∈ unitTurns budget id w, T.visit.1 = .error (.halt cause) := by
  simp only [runUnitScripts, Action.on_get_bind, Action.on_require_bind] at h
  cases hu : w.unit id with
  | error refusal =>
    rw [hu] at h
    cases h
  | ok u =>
  simp only [hu] at h
  cases henv : u.environment with
  | none =>
    rw [henv] at h
    cases h
  | some env =>
    simp only [henv, Action.on_modify_bind] at h
    rw [unitTurns_eq (environment?_eq_some (unit_eq_ok.1 hu) henv)]
    refine exists_turn_of_foldlM ?_
    rw [Action.on_bind] at h
    revert h
    rcases (env.threads.keys.foldlM (visitThread budget id) env).on (w.detachEnvironment id) with
      ⟨_ | _, w₁⟩ <;> intro h
    · cases h
      rfl
    · cases h

/-- What the world refuses is noted, so that the tick stops only by the turn of a thread. -/
lemma exists_turn_of_runScriptsNoting {failure : Failure}
    (h : ((runScriptsNoting budget id).on w).1 = .error failure) :
    ∃ T ∈ unitTurns budget id w, T.visit.1 = .error failure := by
  rw [runScriptsNoting, Action.on_orElse] at h
  cases hon : (runUnitScripts budget id).on w with
  | mk answer w₁ =>
  rw [hon] at h
  rcases answer with (cause | cause) | _ <;> cases h
  exact exists_turn_of_runUnitScripts (congrArg Prod.fst hon)

/-- The induction is on the units. -/
lemma exists_turn_of_forM {failure : Failure} {ids : List UnitId}
    (h : ((ids.forM (runScriptsNoting budget)).on w).1 = .error failure) :
    ∃ T ∈ turnsOfUnits budget ids w, T.visit.1 = .error failure := by
  induction ids generalizing w with
  | nil => cases h
  | cons first rest ih =>
    rw [Action.on_forM_cons] at h
    rw [turnsOfUnits]
    cases hon : (runScriptsNoting budget first).on w with
    | mk answer w₁ =>
    rw [hon] at h
    rcases answer with failure' | _
    · cases h
      obtain ⟨T, hT, hvisit⟩ := exists_turn_of_runScriptsNoting (congrArg Prod.fst hon)
      exact ⟨T, List.mem_append_left _ hT, hvisit⟩
    · obtain ⟨T, hT, hvisit⟩ := ih h
      exact ⟨T, List.mem_append_right _ hT, hvisit⟩

lemma exists_turn_of_tick {failure : Failure} (h : ((tick budget).on w).1 = .error failure) :
    ∃ T ∈ (Operation.tick budget).turns w, T.visit.1 = .error failure := by
  refine exists_turn_of_forM ?_
  rw [tick, Action.on_modify_bind, Action.on_get_bind, Action.on_bind] at h
  revert h
  rcases (w.beginTick.units.keys.forM (runScriptsNoting budget)).on w.beginTick with
    ⟨_ | _, w₁⟩ <;> intro h <;> cases h
  rfl

/-- **No script stops a tick.**  In every battle, whatever the scripts of the units are: in each
turn of a thread in a tick, all that its instructions ask for is computed within words and looked up
where it is, and an instruction that cannot be carried out ends its thread only.  So are the pieces
moved on afterwards.  The tick is gone through with, unless a thread runs on until its budget is
used up, or starts one more thread when the numbers of threads are used up. -/
theorem no_script_stops_a_tick (h : Run s past w) (hs : s.Measured) (budget : Nat) :
    (∀ T ∈ (Operation.tick budget).turns w, T.Unhalted) ∧
    (∀ {id u}, (w.afterScripts budget).units.get? id = some u →
      u.stepPiecesChecked = .ok u.stepPieces) ∧
    (((tick budget).on w).1 = .ok () ∨
      ((tick budget).on w).1 = .error (.halt .exhausted) ∧
        (∃ T ∈ (Operation.tick budget).turns w, T.trail.length = T.budget) ∨
      ∃ T ∈ (Operation.tick budget).turns w, ∃ m ∈ T.trail, m.StartsBeyond) := by
  have hw := h.sturdy hs
  refine ⟨unhalted_of_mem_turns hw, fun {id u} hu => ?_, ?_⟩
  · exact UnitState.stepPiecesChecked_eq ((keeps_afterScripts budget w hw).bounded id u hu)
  · cases hanswer : ((tick budget).on w).1 with
    | ok _ => exact .inl rfl
    | error failure =>
      obtain ⟨T, hT, hvisit⟩ := exists_turn_of_tick hanswer
      rcases (unhalted_of_mem_turns hw T hT).ends with
        ⟨env', w', hok, -⟩ | ⟨hexhausted, hlength⟩ | hbeyond
      · rw [hok] at hvisit
        cases hvisit
      · rw [hexhausted] at hvisit
        cases hvisit
        exact .inr (.inl ⟨rfl, T, hT, hlength⟩)
      · exact .inr (.inr ⟨T, hT, hbeyond⟩)

namespace Sample

lemma measured_drill (pieces : List PieceDefinition) (p : Script.Program) :
    (drill pieces p).Measured where
  heights := by
    have hheights : (drill pieces p).terrain.heights.width = 4 ∧
        (drill pieces p).terrain.heights.height = 4 := ⟨rfl, rfl⟩
    exact ⟨by rw [hheights.1]; decide, by rw [hheights.2]; decide⟩
  yards := by
    have htypes : (drill pieces p).definitions.unitTypes.toList =
        [("TANK", unitType "TANK" true .always)] := rfl
    rw [htypes]
    intro e he yard hyard
    cases List.mem_singleton.1 he
    cases hyard
    exact ⟨by decide, by decide⟩

/-- A script that spins a piece with the greatest deceleration that there is, divides by zero,
measures the greatest distance and sleeps; the thread that it starts comes to a word that is no
instruction. -/
def mischief : Script.Program where
  words := #[
    Script.Opcode.word .start, 1, 0,
    Script.Opcode.word .pushConstant, 0x80000000, Script.Opcode.word .pushConstant, 0x80000000,
    Script.Opcode.word .spin, 0, 1,
    Script.Opcode.word .pushConstant, 7, Script.Opcode.word .pushConstant, 0,
    Script.Opcode.word (.binary .div),
    Script.Opcode.word .pushConstant, 15,
    Script.Opcode.word .pushConstant, 0x80000000, Script.Opcode.word .pushConstant, 0x80000000,
    Script.Opcode.word .pushConstant, 0, Script.Opcode.word .pushConstant, 0,
    Script.Opcode.word .getValueWithArgs,
    Script.Opcode.word .pushConstant, 1000, Script.Opcode.word .sleep,
    Script.Opcode.word .jump, 26,
    0xffffffff]
  functions := [⟨"Create", 0⟩, ⟨"Stray", 31⟩]
  pieces := ["base"]
  staticCount := 0

/-- Tanks with that script. -/
def rogue : Setup := drill [⟨"base", 0, none⟩] mischief

/-- One of them is put on the map. -/
def loose : List Step × World :=
  replay [.addPlayer (.new .human "" 0), .spawnUnit "tank" ⟨0⟩ 0 none] [] (lineup rogue)

end Sample

/-- In the first tick the thread does all of this in order; in the second one the other thread comes
to its end, and the tick goes on. -/
theorem no_script_stops_a_tick_rogue :
    let w := Sample.loose.2
    let w' := (Operation.tick 19).after w
    Run Sample.rogue Sample.loose.1 w ∧ Sample.rogue.Measured ∧
      (∃ T ∈ (Operation.tick 19).turns w, T.trail.length = 15 ∧ ∀ m ∈ T.trail, Sound T.unit m) ∧
      ((tick 19).on w).1 = .ok () ∧ ((tick 19).on w').1 = .ok () ∧
      ∃ T ∈ (Operation.tick 19).turns w', ∃ (m : Machine World) (name : String),
        T.visit = (.ok m.environment,
          m.world.note (.threadFaulted ⟨1⟩ ⟨1⟩ name (.unknownOpcode 0xffffffff 31))) := by
  obtain ⟨hnew, hcomplete, ⟨T, hT, hlength⟩, ⟨hfirst, hsecond⟩,
      ⟨unit, n, budget, w₁, env₁⟩, hT', ⟨rfl, rfl⟩, m, hm, hfault⟩ :
      World.new Sample.rogue = .ok (Sample.lineup Sample.rogue) ∧
      Operation.AllComplete
        [.addPlayer (.new .human "" 0), .spawnUnit "tank" ⟨0⟩ 0 none, .tick 19]
        (Sample.lineup Sample.rogue) ∧
      (∃ T ∈ (Operation.tick 19).turns Sample.loose.2, T.trail.length = 15) ∧
      (((tick 19).on Sample.loose.2).1 = .ok () ∧
        ((tick 19).on ((Operation.tick 19).after Sample.loose.2)).1 = .ok ()) ∧
      ∃ T ∈ (Operation.tick 19).turns ((Operation.tick 19).after Sample.loose.2),
        (T.unit = ⟨1⟩ ∧ T.thread = ⟨1⟩) ∧ ∃ m ∈ T.trail,
          ((Machine.step host ⟨1⟩).run.run m).1 =
            .error (.fault (.unknownOpcode 0xffffffff 31)) := by
    decide +kernel
  have hrun : Run Sample.rogue Sample.loose.1 Sample.loose.2 :=
    (Run.start hnew).replay ⟨hcomplete.1, hcomplete.2.1, trivial⟩
  have hmeasured : Sample.rogue.Measured := Sample.measured_drill _ _
  obtain ⟨hunhalted, -⟩ := no_script_stops_a_tick hrun hmeasured 19
  obtain ⟨hunhalted', -⟩ :=
    no_script_stops_a_tick (hrun.step (.tick 19) hcomplete.2.2.1) hmeasured 19
  have hstumbles : Stumbles ⟨1⟩ (.unknownOpcode 0xffffffff 31) m
      ((Machine.step host ⟨1⟩).run.run m).2 := .step (Prod.ext hfault rfl)
  obtain ⟨t, -, hvisit⟩ := (hunhalted' _ hT').faults m hm _ _ hstumbles
  exact ⟨hrun, hmeasured, ⟨T, hT, hlength, (hunhalted T hT).sound⟩, hfirst, hsecond, _, hT', m,
    t.name, hvisit⟩

end Lockstep.World
