import Lockstep.Proofs.Script.Signals
import Lockstep.Proofs.World.Fault
import Lockstep.Proofs.World.Integrity
/-!
# Turns and deeds

When the scripts of a unit run, each of its stored threads gets a turn; a function that is run at
once is a turn of its own.  A thread that is resumed in its turn carries out instructions, which are
its deeds.  `turns` and `deeds` are the record of a whole battle, and `Turned` says what becomes of
the script state of a unit in the course of some turns.
-/

namespace Lockstep.World

open Script (Environment Machine Numbered Passed Spared Thread ThreadState)

/-- A thread gets its turn. -/
structure Turn where
  /-- The unit. -/
  unit : UnitId
  /-- The thread. -/
  thread : ThreadId
  /-- How many steps the thread may take. -/
  budget : Nat
  /-- The world when the turn begins. -/
  world : World
  /-- The script state when the turn begins, before the thread is taken out. -/
  environment : Environment

/-- A thread carries out an instruction, or turns out to be unable to. -/
structure Deed where
  /-- The unit. -/
  unit : UnitId
  /-- The thread. -/
  thread : ThreadId
  /-- The machine that carries the instruction out. -/
  machine : Machine World

namespace Turn

/-- The thread is there and has to wait. -/
def Waits (T : Turn) : Prop :=
  ∃ t, T.environment.threads.get? T.thread = some t ∧
    T.world.readiness T.unit T.environment.program t.state = .waiting

/-- The machine from which the thread is resumed, if it is there and can go on. -/
def start? (T : Turn) : Option (Machine World) :=
  (T.environment.threads.get? T.thread).bind fun t =>
    let from_ (w : World) : Machine World :=
      ⟨w, T.environment.removeThread T.thread, { t with state := .ready }⟩
    match T.world.readiness T.unit T.environment.program t.state with
    | .ready => some (from_ T.world)
    | .missing piece => some (from_ (T.world.note (.awaitsMissingPiece T.unit piece)))
    | _ => none

/-- The machines from which the thread carries out instructions in its turn. -/
def trail (T : Turn) : List (Machine World) :=
  (T.start?.map (World.trail T.unit T.budget)).getD []

/-- What the thread does in its turn. -/
def deeds (T : Turn) : List Deed := T.trail.map fun m => ⟨T.unit, T.thread, m⟩

/-- The thread comes to its end in its turn. -/
inductive Ends (T : Turn) : Prop
  /-- It finishes. -/
  | finished {m m'} (start : T.start? = some m) (trail : Trail T.unit m T.trail (.ok none) m')
  /-- It is faulty. -/
  | faulted {m e m'} (start : T.start? = some m) (trail : Trail T.unit m T.trail (.error e) m')
  /-- It waits for a piece whose number is not in the table, which is a fault too. -/
  | lost {t piece isBusy} (stored : T.environment.threads.get? T.thread = some t)
    (awaits : Awaits t.state piece isBusy)
    (missing : T.environment.program.pieceName? piece = none)

/-- The script state that the turn of a stored thread leaves behind. -/
inductive Leaves (T : Turn) : Environment → Prop
  /-- The thread is not there any more. -/
  | gone (absent : T.environment.threads.get? T.thread = none) : T.Leaves T.environment
  /-- The thread has to wait. -/
  | waits (waits : T.Waits) : T.Leaves T.environment
  /-- The thread waits for a piece whose number is not in the table. -/
  | lost {t piece isBusy} (stored : T.environment.threads.get? T.thread = some t)
    (awaits : Awaits t.state piece isBusy)
    (missing : T.environment.program.pieceName? piece = none) :
    T.Leaves (T.environment.removeThread T.thread)
  /-- The thread finishes or is faulty. -/
  | stopped {m r m'} (start : T.start? = some m) (trail : Trail T.unit m T.trail r m')
    (stops : ∀ state, r ≠ .ok (some state)) : T.Leaves m'.environment
  /-- The thread is suspended and put back. -/
  | suspended {m state m'} (start : T.start? = some m)
    (trail : Trail T.unit m T.trail (.ok (some state)) m') :
    T.Leaves (m'.environment.putThread T.thread { m'.thread with state := state })

end Turn

/-! ### The record -/

/-- The turns of the threads of a list, one after the other. -/
def turnsOf (budget : Nat) (id : UnitId) (threads : List ThreadId) (w : World)
    (env : Environment) : List Turn :=
  (visitsOf budget id threads w env).map fun v => ⟨id, v.1, budget, v.2.1, v.2.2⟩

/-- The turns of the threads of a unit when its scripts run. -/
def unitTurns (budget : Nat) (id : UnitId) (w : World) : List Turn :=
  (unitVisits budget id w).map fun v => ⟨id, v.1, budget, v.2.1, v.2.2⟩

/-- The turns when the scripts of units run one after the other. -/
def turnsOfUnits (budget : Nat) : List UnitId → World → List Turn
  | [], _ => []
  | id :: rest, w =>
    unitTurns budget id w ++
      match (runScriptsNoting budget id).on w with
      | (.ok _, w') => turnsOfUnits budget rest w'
      | (.error _, _) => []

/-- The turn of a function of the script of a unit that is run at once. -/
def queryTurns (budget : Nat) (id : UnitId) (function : String) (params : List Int32) (w : World) :
    List Turn :=
  match (w.units.get? id).bind UnitState.environment with
  | none => []
  | some env =>
    match env.startNamed function params with
    | .ok (some n, env') => [⟨id, n, budget, w.detachEnvironment id, env'⟩]
    | _ => []

/-- The turns in the course of an operation. -/
def Operation.turns : Operation → World → List Turn
  | runQuery budget id function params, w => queryTurns budget id function params w
  | runUnitScripts budget id, w => unitTurns budget id w
  | tick budget, w => turnsOfUnits budget w.beginTick.units.keys w.beginTick
  | _, _ => []

/-- What threads do in some turns. -/
def deedsIn (l : List Turn) : List Deed := l.flatMap Turn.deeds

/-- What threads do in the course of an operation. -/
def Operation.deeds (o : Operation) (w : World) : List Deed := deedsIn (o.turns w)

/-- The turns so far. -/
def turns (past : List Step) : List Turn := past.flatMap fun st => st.operation.turns st.before

/-- What threads have done so far. -/
def deeds (past : List Step) : List Deed := deedsIn (turns past)

variable {w w' : World} {id : UnitId} {env env' env'' : Environment} {n : ThreadId} {t : Thread}
  {m m' : Machine World} {l l' : List Turn}

/-! ### A single turn -/

/-- A thread that is resumed carries out its instructions from where it starts. -/
lemma Turn.trail_of_start? {T : Turn} (h : T.start? = some m) :
    T.trail = World.trail T.unit T.budget m := by
  rw [trail, h, Option.map_some, Option.getD_some]

/-- A thread that waits for nothing starts as it is stored. -/
lemma Turn.start?_of_ready {T : Turn} (ht : T.environment.threads.get? T.thread = some t)
    (hready : t.state = .ready) :
    T.start? = some ⟨T.world, T.environment.removeThread T.thread, t⟩ := by
  simp only [start?, ht, Option.bind_some, hready, readiness]
  rw [← hready]

lemma Turn.leaves_of_resume {T : Turn}
    (hstart : T.start? = some ⟨w, T.environment.removeThread T.thread, { t with state := .ready }⟩)
    (h : (resumeThread T.budget T.unit T.thread t (T.environment.removeThread T.thread)).on w =
      (.ok env', w')) : T.Leaves env' := by
  simp only [resumeThread, Action.on_get_bind] at h
  rcases resume_trail T.unit T.budget
    ⟨w, T.environment.removeThread T.thread, { t with state := .ready }⟩ with
    ⟨cause, hcause⟩ | ⟨r, m, hresume, hruns⟩
  · revert h hcause
    rcases (resume T.unit T.budget).run.run
      ⟨w, T.environment.removeThread T.thread, { t with state := .ready }⟩ with ⟨_ | _, m⟩ <;>
      intro h hcause <;> cases hcause
    cases h
  · rw [hresume] at h
    rw [← Turn.trail_of_start? hstart] at hruns
    rcases r with e | _ | state <;> cases h
    · exact .stopped hstart hruns fun state hstate => by cases hstate
    · exact .stopped hstart hruns fun state hstate => by cases hstate
    · exact .suspended hstart hruns

/-- A visit that is gone through with leaves the script state that it answers. -/
lemma Turn.leaves_of_visit {T : Turn}
    (h : (visitThread T.budget T.unit T.environment T.thread).on T.world = (.ok env', w')) :
    T.Leaves env' := by
  rw [visitThread] at h
  cases ht : T.environment.threads.get? T.thread with
  | none =>
    rw [ht] at h
    cases h
    exact .gone ht
  | some t =>
  simp only [ht, Action.on_get_bind] at h
  have hr := hasReadiness T.world T.unit T.environment.program t.state
  cases hready : T.world.readiness T.unit T.environment.program t.state with
  | waiting =>
    simp only [hready] at h
    cases h
    rw [Passed.putThread_removeThread ht]
    exact .waits ⟨t, ht, hready⟩
  | faulty e =>
    rw [hready] at hr
    obtain ⟨piece, isBusy, hawaits, hp, rfl⟩ := hr.of_faulty
    simp only [hready] at h
    cases h
    exact .lost ht hawaits hp
  | ready =>
    simp only [hready] at h
    exact leaves_of_resume (by simp only [start?, ht, Option.bind_some, hready]) h
  | missing piece =>
    simp only [hready, Action.on_modify_bind] at h
    exact leaves_of_resume (by simp only [start?, ht, Option.bind_some, hready]) h

/-! ### The instructions of a turn -/

/-- A motion leaves the script state alone. -/
lemma environment_applyMotion (id : UnitId) (piece : UInt32) (axis : Axis)
    (motion : Script.Motion) (m : Machine World) :
    ((applyMotion id piece axis motion).run.run m).2.environment = m.environment :=
  ((scriptLaw_scripted id).respects_applyMotion piece axis motion m :
    Machine.Related Eq _ _ _).1.symm

lemma Proceeds.environment (h : Proceeds id m m') :
    m'.environment = ((Machine.step host id).run.run m).2.environment := by
  cases h with
  | step hstep => rw [hstep]
  | motion m₁ piece axis motion hstep hmotion =>
    have := environment_applyMotion id piece axis motion m₁
    rw [hmotion] at this
    rw [hstep]
    exact this

lemma Suspends.environment {state : ThreadState} (h : Suspends id m m' state) :
    m'.environment = ((Machine.step host id).run.run m).2.environment := by
  obtain ⟨status, hstep, -⟩ := h.exists_status
  rw [hstep]

lemma Stumbles.environment {e : ScriptError} (h : Stumbles id e m m') :
    m'.environment = ((Machine.step host id).run.run m).2.environment := by
  cases h with
  | step hstep => rw [hstep]
  | motion m₁ piece axis motion hstep hmotion =>
    obtain ⟨-, -, rfl⟩ := applyMotion_eq_fault hmotion
    rw [hstep]

/-- The induction is on the instructions. -/
lemma Trail.spared {l : List (Machine World)} {r : Except ScriptError (Option ThreadState)}
    (h : Trail id m l r m') (hm : Numbered m.environment) :
    Spared l m.environment m'.environment := by
  induction h with
  | finished => exact .refl _
  | @proceeds m m₁ l r m' _ hproceeds _ ih =>
    have hstep := Spared.step host id hm
    rw [← hproceeds.environment] at hstep
    exact hstep.append (ih (hstep.passed.numbered hm))
  | suspends _ hsuspends =>
    rw [hsuspends.environment]
    exact .step host id hm
  | stumbles _ hstumbles =>
    rw [hstumbles.environment]
    exact .step host id hm

lemma Turn.start?_eq_some {T : Turn} (h : T.start? = some m) :
    ∃ t, T.environment.threads.get? T.thread = some t ∧
      Awake T.world T.unit T.environment T.thread t m := by
  obtain ⟨t, ht, h⟩ := Option.bind_eq_some_iff.1 h
  have hr := hasReadiness T.world T.unit T.environment.program t.state
  refine ⟨t, ht, ?_⟩
  revert hr h
  cases T.world.readiness T.unit T.environment.program t.state <;> intro h hr <;> cases h
  · exact .ready hr
  · exact .missing hr

lemma Turn.not_waits {T : Turn} (h : T.start? = some m) : ¬T.Waits := by
  rintro ⟨t, ht, hwaits⟩
  simp [start?, ht, hwaits] at h

/-- A turn in which the thread is not resumed has no deeds. -/
lemma Turn.trail_of_none {T : Turn} (h : T.start? = none) : T.trail = [] := by
  rw [trail, h]
  rfl

lemma Turn.Waits.start?_eq_none {T : Turn} (h : T.Waits) : T.start? = none := by
  obtain ⟨t, ht, hwaits⟩ := h
  simp [start?, ht, hwaits]

lemma mem_deeds {T : Turn} {d : Deed} :
    d ∈ T.deeds ↔ d.unit = T.unit ∧ d.thread = T.thread ∧ d.machine ∈ T.trail := by
  obtain ⟨unit, thread, machine⟩ := d
  simp only [Turn.deeds, List.mem_map, Deed.mk.injEq]
  constructor
  · rintro ⟨m, hm, rfl, rfl, rfl⟩
    exact ⟨rfl, rfl, hm⟩
  · rintro ⟨rfl, rfl, hm⟩
    exact ⟨machine, hm, rfl, rfl, rfl⟩

@[simp] lemma deedsIn_nil : deedsIn [] = [] := rfl

lemma deedsIn_append (l l' : List Turn) : deedsIn (l ++ l') = deedsIn l ++ deedsIn l' :=
  List.flatMap_append

lemma deedsIn_singleton (T : Turn) : deedsIn [T] = T.deeds := List.flatMap_singleton ..

/-! ### What becomes of the script state -/

/-- In some turns of a unit a thread has been killed or has come to its end. -/
def Gone (l : List Turn) (n : ThreadId) : Prop :=
  (∃ d ∈ deedsIn l, d.machine.Kills n) ∨ ∃ T ∈ l, T.thread = n ∧ T.Ends

lemma deedsIn_subset (h : l ⊆ l') : deedsIn l ⊆ deedsIn l' := by
  intro d hd
  obtain ⟨T, hT, hd⟩ := List.mem_flatMap.1 hd
  exact List.mem_flatMap.2 ⟨T, h hT, hd⟩

lemma Gone.mono (hl : l ⊆ l') (h : Gone l n) : Gone l' n := by
  rcases h with ⟨d, hd, hkills⟩ | ⟨T, hT, hends⟩
  · exact .inl ⟨d, deedsIn_subset hl hd, hkills⟩
  · exact .inr ⟨T, hl hT, hends⟩

/-- What becomes of the script state of a unit in the course of some of its turns.  What has been
killed does not come back; whatever was stored, at the beginning or while something was done, is
still stored or has been killed or has come to its end in its turn; and a thread that has to wait
whenever it is its turn stays as it is. -/
structure Turned (l : List Turn) (env env' : Environment) : Prop where
  next : env.nextThread.toNat ≤ env'.nextThread.toNat
  program : env'.program = env.program
  numbered : Numbered env'
  absent : ∀ {n}, n.val.toNat < env.nextThread.toNat → env.threads.get? n = none →
    env'.threads.get? n = none ∧
      ∀ d ∈ deedsIn l, d.thread ≠ n ∧ d.machine.environment.threads.get? n = none
  killed : ∀ {d n}, d ∈ deedsIn l → d.machine.Kills n →
    n.val.toNat < env'.nextThread.toNat ∧ env'.threads.get? n = none
  later : (deedsIn l).Pairwise fun d d' => ∀ n, d.machine.Kills n →
    d'.thread ≠ n ∧ d'.machine.environment.threads.get? n = none
  accounted : ∀ {n}, (env.threads.get? n).isSome ∨
      (∃ d ∈ deedsIn l, (d.machine.environment.threads.get? n).isSome) →
    (env'.threads.get? n).isSome ∨ Gone l n
  waits : ∀ {n t}, env.threads.get? n = some t → (∀ d ∈ deedsIn l, ¬d.machine.Kills n) →
    (∀ T ∈ l, T.thread = n → T.environment.threads.get? n = some t → T.Waits) →
    env'.threads.get? n = some t ∧ ∀ d ∈ deedsIn l, d.thread ≠ n

namespace Turned

lemma append (h : Turned l env env') (h' : Turned l' env' env'') :
    Turned (l ++ l') env env'' where
  next := Nat.le_trans h.next h'.next
  program := h'.program.trans h.program
  numbered := h'.numbered
  absent hn hget := by
    obtain ⟨hget', hdeeds⟩ := h.absent hn hget
    obtain ⟨hget'', hdeeds'⟩ := h'.absent (Nat.lt_of_lt_of_le hn h.next) hget'
    refine ⟨hget'', fun d hd => ?_⟩
    rw [deedsIn_append] at hd
    exact (List.mem_append.1 hd).elim (hdeeds d) (hdeeds' d)
  killed hd hkills := by
    rw [deedsIn_append] at hd
    rcases List.mem_append.1 hd with hd | hd
    · obtain ⟨hn, hget⟩ := h.killed hd hkills
      exact ⟨Nat.lt_of_lt_of_le hn h'.next, (h'.absent hn hget).1⟩
    · exact h'.killed hd hkills
  later := by
    rw [deedsIn_append]
    refine List.pairwise_append.2 ⟨h.later, h'.later, fun d hd d' hd' n hkills => ?_⟩
    obtain ⟨hn, hget⟩ := h.killed hd hkills
    exact (h'.absent hn hget).2 d' hd'
  accounted := fun {n} hseen => by
    -- it is enough that the thread is seen in the second part
    have second : ((env'.threads.get? n).isSome ∨
        ∃ d ∈ deedsIn l', (d.machine.environment.threads.get? n).isSome) →
        (env''.threads.get? n).isSome ∨ Gone (l ++ l') n := fun hseen =>
      (h'.accounted hseen).imp_right (.mono (List.subset_append_right l l'))
    have first : ((env.threads.get? n).isSome ∨
        ∃ d ∈ deedsIn l, (d.machine.environment.threads.get? n).isSome) →
        (env''.threads.get? n).isSome ∨ Gone (l ++ l') n := fun hseen => by
      rcases h.accounted hseen with hsome | hgone
      · exact second (.inl hsome)
      · exact .inr (hgone.mono (List.subset_append_left l l'))
    rw [deedsIn_append] at hseen
    rcases hseen with hsome | ⟨d, hd, hsome⟩
    · exact first (.inl hsome)
    · rcases List.mem_append.1 hd with hd | hd
      · exact first (.inr ⟨d, hd, hsome⟩)
      · exact second (.inr ⟨d, hd, hsome⟩)
  waits hget hkills hwaits := by
    rw [deedsIn_append] at hkills ⊢
    obtain ⟨hget', hdeeds⟩ := h.waits hget
      (fun d hd => hkills d (List.mem_append_left _ hd))
      fun T hT => hwaits T (List.mem_append_left _ hT)
    obtain ⟨hget'', hdeeds'⟩ := h'.waits hget'
      (fun d hd => hkills d (List.mem_append_right _ hd))
      fun T hT => hwaits T (List.mem_append_right _ hT)
    exact ⟨hget'', fun d hd => (List.mem_append.1 hd).elim (hdeeds d) (hdeeds' d)⟩

/-- Nothing is done, and what is taken away has come to its end. -/
lemma of_idle (hl : deedsIn l = []) (hnext : env.nextThread.toNat ≤ env'.nextThread.toNat)
    (hprogram : env'.program = env.program) (hnumbered : Numbered env')
    (hnew : ∀ {n}, n.val.toNat < env.nextThread.toNat → env.threads.get? n = none →
      env'.threads.get? n = none)
    (hkept : ∀ {n t}, env.threads.get? n = some t → env'.threads.get? n = some t ∨
      ∃ T ∈ l, T.thread = n ∧ T.environment.threads.get? n = some t ∧ T.Ends ∧ ¬T.Waits) :
    Turned l env env' where
  next := hnext
  program := hprogram
  numbered := hnumbered
  absent hn hget := ⟨hnew hn hget, by simp [hl]⟩
  killed hd := by simp [hl] at hd
  later := by simp [hl]
  accounted hseen := by
    rcases hseen with hsome | ⟨d, hd, -⟩
    · obtain ⟨t, ht⟩ := Option.isSome_iff_exists.1 hsome
      rcases hkept ht with ht' | ⟨T, hT, hthread, -, hends, -⟩
      · exact .inl (Option.isSome_iff_exists.2 ⟨t, ht'⟩)
      · exact .inr (.inr ⟨T, hT, hthread, hends⟩)
    · simp [hl] at hd
  waits hget _ hwaits := by
    rcases hkept hget with hget' | ⟨T, hT, hthread, hstored, -, hnot⟩
    · exact ⟨hget', by simp [hl]⟩
    · exact absurd (hwaits T hT hthread hstored) hnot

lemma refl (henv : Numbered env) : Turned [] env env :=
  of_idle rfl (Nat.le_refl _) rfl henv (fun _ h => h) .inl

/-- A thread is started that does not run yet. -/
lemma of_startNamed {function : String} {params : List Int32} {o : Option ThreadId}
    (henv : Numbered env) (h : env.startNamed function params = .ok (o, env')) :
    Turned [] env env' := by
  cases o with
  | none =>
    cases Passed.startNamed_eq_none h
    exact .refl henv
  | some k =>
    obtain ⟨hid, -, t', -, hthreads, hpassed⟩ := Passed.startNamed_eq_some h
    refine of_idle rfl hpassed.nextThread hpassed.program (hpassed.numbered henv)
      (fun hn hget => hpassed.absent hn hget) fun {n t} ht => .inl ?_
    -- the new thread gets a number that no stored thread has
    have hne : ¬Ranked.rank n = Ranked.rank k := by
      rw [hid]
      exact Nat.ne_of_lt (henv ht)
    rw [hthreads, SortedTable.get?_insert, if_neg hne]
    exact ht

end Turned

/-- A thread runs in its turn.  The script states before and after the turn differ in the thread
itself from those between which it runs. -/
structure Ran (T : Turn) (env env₁ env' : Environment) : Prop where
  spared : Spared T.trail (T.environment.removeThread T.thread) env₁
  thread : T.thread.val.toNat < T.environment.nextThread.toNat
  numbered : Numbered env
  next : env.nextThread.toNat ≤ T.environment.nextThread.toNat
  program : T.environment.program = env.program
  before : ∀ {n}, n ≠ T.thread → T.environment.threads.get? n = env.threads.get? n
  new : ∀ {n}, n.val.toNat < env.nextThread.toNat → env.threads.get? n = none → n ≠ T.thread
  nextAfter : env'.nextThread = env₁.nextThread
  programAfter : env'.program = env₁.program
  after : ∀ {n}, n ≠ T.thread → env'.threads.get? n = env₁.threads.get? n
  own : ∀ {t}, env.threads.get? T.thread = some t →
    T.environment.threads.get? T.thread = some t ∧ ¬T.Waits ∧
      ((env'.threads.get? T.thread).isSome ∨ T.Ends)

namespace Ran

variable {T : Turn} {env₁ : Environment}

/-- The thread itself is out of the script state for the whole turn. -/
lemma removed (T : Turn) :
    (T.environment.removeThread T.thread).threads.get? T.thread = none := by
  rw [Environment.removeThread, SortedTable.get?_erase, if_pos rfl]

lemma others (h : Ran T env env₁ env') (hn : n ≠ T.thread) :
    (T.environment.removeThread T.thread).threads.get? n = env.threads.get? n := by
  rw [Environment.removeThread, SortedTable.get?_erase, if_neg (mt Ranked.rank_eq_iff.1 hn),
    h.before hn]

lemma ne_of_isSome (h : Ran T env env₁ env') (hm : m ∈ T.trail)
    (hsome : (m.environment.threads.get? n).isSome) : n ≠ T.thread := by
  rintro rfl
  rw [h.spared.absent h.thread (removed T) hm] at hsome
  cases hsome

lemma ne_of_kills (h : Ran T env env₁ env') (hm : m ∈ T.trail) (hkills : m.Kills n) :
    n ≠ T.thread := by
  obtain ⟨i, t, -, -, ht, -⟩ := hkills
  exact h.ne_of_isSome hm (by rw [ht]; rfl)

lemma numbered_removed (h : Ran T env env₁ env') :
    Numbered (T.environment.removeThread T.thread) := by
  intro n t ht
  by_cases hn : n = T.thread
  · rw [hn, removed] at ht
    cases ht
  · rw [h.others hn] at ht
    exact Nat.lt_of_lt_of_le (h.numbered ht) h.next

lemma numbered_after (h : Ran T env env₁ env') : Numbered env' := by
  intro n t ht
  rw [h.nextAfter]
  by_cases hn : n = T.thread
  · exact hn ▸ Nat.lt_of_lt_of_le h.thread h.spared.passed.nextThread
  · exact h.spared.passed.numbered h.numbered_removed (by rw [← h.after hn]; exact ht)

/-- What the thread does are the deeds of the turn. -/
lemma forall_deeds {P : Deed → Prop} :
    (∀ d ∈ deedsIn [T], P d) ↔ ∀ m ∈ T.trail, P ⟨T.unit, T.thread, m⟩ := by
  rw [deedsIn_singleton, Turn.deeds, List.forall_mem_map]

/-- Whatever was there besides the thread itself is still there or has been killed. -/
lemma accounted (h : Ran T env env₁ env') (hn : n ≠ T.thread)
    (hseen : (env.threads.get? n).isSome ∨
      ∃ d ∈ deedsIn [T], (d.machine.environment.threads.get? n).isSome) :
    (env₁.threads.get? n).isSome ∨ ∃ m ∈ T.trail, m.Kills n := by
  rcases hseen with hsome | ⟨d, hd, hsome⟩
  · by_cases hk : ∃ m ∈ T.trail, m.Kills n
    · exact .inr hk
    · obtain ⟨t, ht⟩ := Option.isSome_iff_exists.1 hsome
      rw [h.spared.kept (by rw [h.others hn, ht]) fun m hm hkm => hk ⟨m, hm, hkm⟩]
      exact .inl rfl
  · rw [deedsIn_singleton] at hd
    exact h.spared.seen (mem_deeds.1 hd).2.2 hsome

lemma turned (h : Ran T env env₁ env') : Turned [T] env env' where
  next := by
    rw [h.nextAfter]
    exact Nat.le_trans h.next h.spared.passed.nextThread
  program := by
    rw [h.programAfter, h.spared.passed.program]
    exact h.program
  numbered := h.numbered_after
  absent := by
    intro n hn hgone
    have hne := h.new hn hgone
    have hlt := Nat.lt_of_lt_of_le hn h.next
    have hremoved : (T.environment.removeThread T.thread).threads.get? n = none := by
      rw [h.others hne, hgone]
    rw [h.after hne]
    refine ⟨h.spared.passed.absent hlt hremoved, forall_deeds.2 fun m hm => ?_⟩
    exact ⟨fun heq => hne heq.symm, h.spared.absent hlt hremoved hm⟩
  killed := by
    intro d n hd hk
    rw [deedsIn_singleton] at hd
    obtain ⟨-, -, hm⟩ := mem_deeds.1 hd
    rw [h.nextAfter, h.after (h.ne_of_kills hm hk)]
    exact h.spared.killed hm hk
  later := by
    rw [deedsIn_singleton, Turn.deeds, List.pairwise_map]
    refine h.spared.later.imp_of_mem fun {m m'} hm hm' hlater n hk => ?_
    exact ⟨fun heq => h.ne_of_kills hm hk heq.symm, hlater n hk⟩
  accounted := by
    intro n hseen
    by_cases hn : n = T.thread
    · subst hn
      rcases hseen with hsome | ⟨d, hd, hsome⟩
      · obtain ⟨t, ht⟩ := Option.isSome_iff_exists.1 hsome
        exact (h.own ht).2.2.imp_right fun hends => .inr ⟨T, List.mem_cons_self, rfl, hends⟩
      · rw [deedsIn_singleton] at hd
        exact absurd rfl (h.ne_of_isSome (mem_deeds.1 hd).2.2 hsome)
    · rw [h.after hn]
      refine (h.accounted hn hseen).imp_right ?_
      rintro ⟨m, hm, hk⟩
      refine .inl ⟨⟨T.unit, T.thread, m⟩, ?_, hk⟩
      rw [deedsIn_singleton]
      exact mem_deeds.2 ⟨rfl, rfl, hm⟩
  waits := by
    intro n t ht hspare hwaits
    have hn : n ≠ T.thread := by
      rintro rfl
      obtain ⟨hstored, hnot, -⟩ := h.own ht
      exact hnot (hwaits T List.mem_cons_self rfl hstored)
    rw [h.after hn]
    exact ⟨h.spared.kept (by rw [h.others hn, ht]) (forall_deeds.1 hspare),
      forall_deeds.2 fun m hm heq => hn heq.symm⟩

end Ran

lemma numbered_removeThread (h : Numbered env) (n : ThreadId) :
    Numbered (env.removeThread n) := by
  intro k t ht
  rw [Environment.removeThread, SortedTable.get?_erase] at ht
  split at ht
  · cases ht
  · exact h ht

/-- A thread that waits for a piece whose number is not in the table is not resumed. -/
lemma readiness_lost {p : Script.Program} {state : ThreadState} {piece : UInt32}
    {isBusy : Piece → Bool} (h : Awaits state piece isBusy) (hp : p.pieceName? piece = none) :
    w.readiness id p state = .faulty (.unknownPiece piece) := by
  cases h <;> simp only [readiness, pieceReadiness, hp]

/-- The turn of a stored thread. -/
lemma Turn.Leaves.turned {T : Turn} (h : T.Leaves env') (hnumbered : Numbered T.environment) :
    Turned [T] T.environment env' := by
  have noDeeds : T.start? = none → deedsIn [T] = [] := fun hstart => by
    rw [deedsIn_singleton, Turn.deeds, Turn.trail_of_none hstart, List.map_nil]
  have ran : ∀ {m m' : Machine World} {r env₁}, T.start? = some m → Trail T.unit m T.trail r m' →
      (env₁.nextThread = m'.environment.nextThread ∧ env₁.program = m'.environment.program ∧
        ∀ {n}, n ≠ T.thread → env₁.threads.get? n = m'.environment.threads.get? n) →
      ((env₁.threads.get? T.thread).isSome ∨ T.Ends) → Turned [T] T.environment env₁ := by
    intro m m' r env₁ hstart htrail hafter hend
    obtain ⟨t, ht, hawake⟩ := Turn.start?_eq_some hstart
    have hm : m.environment = T.environment.removeThread T.thread := by cases hawake <;> rfl
    have hspared := htrail.spared (by rw [hm]; exact numbered_removeThread hnumbered T.thread)
    rw [hm] at hspared
    have hnew : ∀ {n : ThreadId}, T.environment.threads.get? n = none → n ≠ T.thread := by
      rintro n hn rfl
      rw [ht] at hn
      cases hn
    exact Ran.turned
      { spared := hspared
        thread := hnumbered ht
        numbered := hnumbered
        next := Nat.le_refl _
        program := rfl
        before := fun _ => rfl
        new := fun _ hn => hnew hn
        nextAfter := hafter.1
        programAfter := hafter.2.1
        after := hafter.2.2
        own := fun ht' => ⟨ht', Turn.not_waits hstart, hend⟩ }
  cases h with
  | gone habsent =>
    have hstart : T.start? = none := by simp [Turn.start?, habsent]
    exact .of_idle (noDeeds hstart) (Nat.le_refl _) rfl hnumbered (fun _ h => h) .inl
  | waits hwaits =>
    exact .of_idle (noDeeds hwaits.start?_eq_none) (Nat.le_refl _) rfl hnumbered (fun _ h => h) .inl
  | @lost t piece isBusy ht hawaits hp =>
    have hready : T.world.readiness T.unit T.environment.program t.state =
        .faulty (.unknownPiece piece) := readiness_lost hawaits hp
    have hstart : T.start? = none := by simp [Turn.start?, ht, hready]
    have hnot : ¬T.Waits := by
      rintro ⟨t', ht', hwaits⟩
      rw [ht] at ht'
      cases ht'
      rw [hready] at hwaits
      cases hwaits
    have hpassed := Passed.of_removeThread T.environment T.thread
    refine .of_idle (noDeeds hstart) (Nat.le_refl _) rfl
      (numbered_removeThread hnumbered T.thread) (fun hn hget => hpassed.absent hn hget) ?_
    intro n t' ht'
    by_cases hn : n = T.thread
    · exact .inr ⟨T, List.mem_cons_self, hn.symm, ht', .lost ht hawaits hp, hnot⟩
    · refine .inl ?_
      rw [Environment.removeThread, SortedTable.get?_erase, if_neg (mt Ranked.rank_eq_iff.1 hn)]
      exact ht'
  | @stopped m r m' hstart htrail hstops =>
    refine ran hstart htrail ⟨rfl, rfl, fun _ => rfl⟩ (.inr ?_)
    rcases r with e | _ | state
    · exact .faulted hstart htrail
    · exact .finished hstart htrail
    · exact absurd rfl (hstops state)
  | suspended hstart htrail =>
    refine ran hstart htrail ⟨rfl, rfl, fun hn => ?_⟩ (.inl ?_)
    · rw [Environment.putThread, SortedTable.get?_insert, if_neg (mt Ranked.rank_eq_iff.1 hn)]
    · rw [Environment.putThread, SortedTable.get?_insert, if_pos rfl]
      rfl

lemma turnsOf_cons {budget : Nat} {rest : List ThreadId} {w₁ : World} {env₁ : Environment}
    (h : (visitThread budget id env n).on w = (.ok env₁, w₁)) :
    turnsOf budget id (n :: rest) w env =
      ⟨id, n, budget, w, env⟩ :: turnsOf budget id rest w₁ env₁ := by
  simp only [turnsOf, visitsOf, h, List.map_cons]

/-- What stays true from visit to visit is true at the beginning of every turn; the induction is on
the threads. -/
lemma forall_mem_turnsOf {I : World → Environment → Prop} {budget : Nat}
    (hvisit : ∀ {n w env env' w'}, I w env →
      (visitThread budget id env n).on w = (.ok env', w') → I w' env')
    {threads : List ThreadId} (h : I w env) :
    ∀ T ∈ turnsOf budget id threads w env, I T.world T.environment := by
  induction threads generalizing w env with
  | nil => exact fun T hT => absurd hT List.not_mem_nil
  | cons n rest ih =>
    intro T hT
    simp only [turnsOf, visitsOf, List.map_cons] at hT
    rcases List.mem_cons.1 hT with rfl | hT
    · exact h
    · revert hT
      cases hon : (visitThread budget id env n).on w with
      | mk answer w₁ =>
      rcases answer with _ | env₁ <;> intro hT
      · cases hT
      · exact ih (hvisit h hon) T hT

/-- What is true of the turns of each unit is true when several units have their turns; the
induction is on the units. -/
lemma forall_mem_turnsOfUnits {J : World → Prop} {Q : Turn → Prop} {budget : Nat}
    (hunit : ∀ {id w}, J w → ∀ T ∈ unitTurns budget id w, Q T)
    (hrun : ∀ {id w}, J w → J ((runScriptsNoting budget id).on w).2)
    {ids : List UnitId} (hw : J w) : ∀ T ∈ turnsOfUnits budget ids w, Q T := by
  induction ids generalizing w with
  | nil => exact fun T hT => absurd hT List.not_mem_nil
  | cons first rest ih =>
    intro T hT
    have hnext : J ((runScriptsNoting budget first).on w).2 := hrun hw
    rw [turnsOfUnits] at hT
    rcases List.mem_append.1 hT with hT | hT
    · exact hunit hw T hT
    · revert hnext hT
      rcases (runScriptsNoting budget first).on w with ⟨_ | _, w₁⟩ <;> intro hnext hT
      · cases hT
      · exact ih hnext T hT

/-- The turns of all threads of a unit; the induction is on the threads. -/
theorem turned_turnsOf {budget : Nat} {threads : List ThreadId} (hnumbered : Numbered env)
    (h : (threads.foldlM (visitThread budget id) env).on w = (.ok env', w')) :
    Turned (turnsOf budget id threads w env) env env' := by
  induction threads generalizing w env with
  | nil =>
    cases h
    exact .refl hnumbered
  | cons n rest ih =>
    rw [List.foldlM_cons, Action.on_bind] at h
    cases hvisit : (visitThread budget id env n).on w with
    | mk answer w₁ =>
    rw [hvisit] at h
    rcases answer with _ | env₁
    · cases h
    have hturn : Turned [⟨id, n, budget, w, env⟩] env env₁ :=
      (Turn.leaves_of_visit hvisit).turned hnumbered
    rw [turnsOf_cons hvisit]
    exact hturn.append (ih hturn.numbered h)

/-! ### A turn among the others -/

/-- Each thread gets its turn. -/
lemma map_thread_turnsOf {budget : Nat} {threads : List ThreadId}
    (h : (threads.foldlM (visitThread budget id) env).on w = (.ok env', w')) :
    (turnsOf budget id threads w env).map Turn.thread = threads := by
  induction threads generalizing w env with
  | nil => rfl
  | cons n rest ih =>
    rw [List.foldlM_cons, Action.on_bind] at h
    cases hvisit : (visitThread budget id env n).on w with
    | mk answer w₁ =>
    rw [hvisit] at h
    rcases answer with _ | env₁
    · cases h
    · rw [turnsOf_cons hvisit, List.map_cons, ih h]

/-- The turn of a thread, with the turns of other threads before and after it. -/
structure Amid (env : Environment) (l₁ : List Turn) (T : Turn) (env₁ : Environment) (l₂ : List Turn)
    (env' : Environment) : Prop where
  before : Turned l₁ env T.environment
  leaves : T.Leaves env₁
  after : Turned l₂ env₁ env'
  others : ∀ T' ∈ l₁ ++ l₂, T'.thread ≠ T.thread

/-- Every turn stands amid those of the other threads; the induction is on the threads. -/
lemma amid_of_mem_turnsOf {budget : Nat} {threads : List ThreadId} {T : Turn}
    (hnumbered : Numbered env) (hthreads : threads.Nodup)
    (h : (threads.foldlM (visitThread budget id) env).on w = (.ok env', w'))
    (hT : T ∈ turnsOf budget id threads w env) :
    ∃ l₁ env₁ l₂, turnsOf budget id threads w env = l₁ ++ T :: l₂ ∧
      Amid env l₁ T env₁ l₂ env' := by
  induction threads generalizing w env with
  | nil => cases hT
  | cons n rest ih =>
    obtain ⟨hn, hrest⟩ := List.nodup_cons.1 hthreads
    rw [List.foldlM_cons, Action.on_bind] at h
    cases hvisit : (visitThread budget id env n).on w with
    | mk answer w₁ =>
    rw [hvisit] at h
    rcases answer with _ | env₁
    · cases h
    have hleaves : Turn.Leaves ⟨id, n, budget, w, env⟩ env₁ := Turn.leaves_of_visit hvisit
    have hturn : Turned [⟨id, n, budget, w, env⟩] env env₁ := hleaves.turned hnumbered
    have hlater : ∀ T' ∈ turnsOf budget id rest w₁ env₁, T'.thread ∈ rest := fun T' hT' => by
      rw [← map_thread_turnsOf h]
      exact List.mem_map_of_mem hT'
    rw [turnsOf_cons hvisit] at hT ⊢
    rcases List.mem_cons.1 hT with rfl | hT
    · refine ⟨[], env₁, _, rfl, .refl hnumbered, hleaves, turned_turnsOf hturn.numbered h, ?_⟩
      rintro T' hT' rfl
      exact hn (hlater T' hT')
    · obtain ⟨l₁, env₂, l₂, heq, hamid⟩ := ih hturn.numbered hrest h hT
      refine ⟨⟨id, n, budget, w, env⟩ :: l₁, env₂, l₂, by rw [heq, List.cons_append],
        hturn.append hamid.before, hamid.leaves, hamid.after, ?_⟩
      intro T' hT'
      rw [List.cons_append] at hT'
      rcases List.mem_cons.1 hT' with rfl | hT'
      · intro (heq : n = T.thread)
        exact hn (heq ▸ hlater T hT)
      · exact hamid.others T' hT'

namespace Amid

variable {T : Turn} {env₁ : Environment} {l₁ l₂ : List Turn}

/-- Unless it is killed before, a thread comes to its turn as it was stored. -/
lemma stored (h : Amid env l₁ T env₁ l₂ env') (ht : env.threads.get? T.thread = some t)
    (hspared : ∀ d ∈ deedsIn (l₁ ++ T :: l₂), ¬d.machine.Kills T.thread) :
    T.environment.threads.get? T.thread = some t := by
  have hbefore : ∀ d ∈ deedsIn l₁, ¬d.machine.Kills T.thread := fun d hd =>
    hspared d (deedsIn_subset (List.subset_append_left _ _) hd)
  exact (h.before.waits ht hbefore fun T' hT' hthread =>
    absurd hthread (h.others T' (List.mem_append_left _ hT'))).1

/-- Unless it is killed after its turn, a thread stays as it was put back. -/
lemma kept (h : Amid env l₁ T env₁ l₂ env') (ht : env₁.threads.get? T.thread = some t)
    (hspared : ∀ d ∈ deedsIn (l₁ ++ T :: l₂), ¬d.machine.Kills T.thread) :
    env'.threads.get? T.thread = some t := by
  have hafter : ∀ d ∈ deedsIn l₂, ¬d.machine.Kills T.thread := fun d hd =>
    hspared d (deedsIn_subset (List.subset_append_of_subset_right _ (List.subset_cons_self _ _)) hd)
  exact (h.after.waits ht hafter fun T' hT' hthread =>
    absurd hthread (h.others T' (List.mem_append_right _ hT'))).1

/-- All that the thread does is done in its turn. -/
lemma mem_trail (h : Amid env l₁ T env₁ l₂ env') {d : Deed}
    (hd : d ∈ deedsIn (l₁ ++ T :: l₂)) (hthread : d.thread = T.thread) : d.machine ∈ T.trail := by
  obtain ⟨T', hT', hd'⟩ := List.mem_flatMap.1 hd
  obtain ⟨-, hthread', hm⟩ := mem_deeds.1 hd'
  have hother : T' ∉ l₁ ++ l₂ := fun hmem => h.others T' hmem (hthread'.symm.trans hthread)
  rw [List.mem_append, not_or] at hother
  rcases List.mem_append.1 hT' with hT' | hT'
  · exact absurd hT' hother.1
  · rcases List.mem_cons.1 hT' with rfl | hT'
    · exact hm
    · exact absurd hT' hother.2

end Amid

/-- The turn of a function that is run at once. -/
lemma Turned.of_query {T : Turn} {function : String} {params : List Int32}
    {r : Except ScriptError (Option ThreadState)} (hnumbered : Numbered env)
    (hs : env.startNamed function params = .ok (some T.thread, T.environment))
    (hm : m.environment = T.environment.removeThread T.thread)
    (htrail : Trail T.unit m T.trail r m') : Turned [T] env m'.environment := by
  obtain ⟨hid, hnext, t', -, hthreads, hpassed⟩ := Passed.startNamed_eq_some hs
  have hthread : T.thread.val.toNat < T.environment.nextThread.toNat := by
    rw [hid]
    exact hnext ▸ Nat.lt_succ_self _
  have hspared := htrail.spared
    (by rw [hm]; exact numbered_removeThread (hpassed.numbered hnumbered) T.thread)
  rw [hm] at hspared
  -- the number of the thread is the next one, so that no thread was stored under it
  refine Ran.turned
    { spared := hspared
      thread := hthread
      numbered := hnumbered
      next := hpassed.nextThread
      program := hpassed.program
      before := fun hn => ?_
      new := ?_
      nextAfter := rfl
      programAfter := rfl
      after := fun _ => rfl
      own := fun ht => ?_ }
  · rw [hthreads, SortedTable.get?_insert, if_neg (mt Ranked.rank_eq_iff.1 hn)]
  · rintro n hn - rfl
    rw [hid] at hn
    exact Nat.lt_irrefl _ hn
  · have hlt := hnumbered ht
    rw [hid] at hlt
    exact absurd hlt (Nat.lt_irrefl _)

end Lockstep.World
