import Lockstep.Proofs.Respects
import Lockstep.Script.Machine
/-!
# What an instruction can touch

Whatever words a thread runs, it can change the script state of its unit in three ways only, by
starting a thread, by sending a signal and by writing a static variable, and the world in two, by an
effect on its own unit and by drawing a random number.  A relation that these five respect is
respected by every step and every run of the machine.
-/

namespace Lockstep.Script.Machine

variable {σ α : Type} {host : Host σ} {unit : UnitId}
  {E : Environment → Environment → Prop} {W : σ → σ → Prop}

/-- A step of a thread that goes on fetches the next instruction and carries it out. -/
lemma run_step (host : Host σ) (unit : UnitId) (m : Machine σ) :
    (step host unit).run.run m =
      (if m.thread.isFinished then pure (some .finished) else fetch >>= execute host unit :
        Exec σ (Option Status)).run.run m := rfl

/-- The script states and the worlds of two machines are related; about the threads nothing is
said. -/
def Related (E : Environment → Environment → Prop) (W : σ → σ → Prop) (m m' : Machine σ) : Prop :=
  E m.environment m'.environment ∧ W m.world m'.world

instance [IsPreorder Environment E] [IsPreorder σ W] : IsPreorder (Machine σ) (Related E W) where
  refl m := ⟨refl_of E m.environment, refl_of W m.world⟩
  trans _ _ _ h h' := ⟨trans_of E h.1 h'.1, trans_of W h.2 h'.2⟩

/-- The three ways in which a script writes its own state. -/
structure EnvironmentLaw (E : Environment → Environment → Prop) : Prop where
  /-- A thread is started. -/
  start : ∀ {env env' : Environment} {function params mask thread},
    env.startThread function params mask = .ok (thread, env') → E env env'
  /-- A signal is sent. -/
  signal : ∀ (env : Environment) (signal : UInt32), E env (env.signal signal none)
  /-- A static variable is written. -/
  static : ∀ {env env' : Environment} {index v}, env.setStatic index v = .ok env' → E env env'

/-- The five ways in which a script reaches what does not belong to its own thread. -/
structure Law (host : Host σ) (unit : UnitId) (E : Environment → Environment → Prop)
    (W : σ → σ → Prop) : Prop extends EnvironmentLaw E where
  /-- An effect is carried out. -/
  apply : ∀ {e w w'}, host.apply unit e w = .ok w' → W w w'
  /-- A random number is drawn. -/
  random : ∀ {low high w v w'}, host.random low high w = .ok (v, w') → W w w'

/-- The five ways as far as an instruction takes them: only one writes a static variable, only one
starts a thread and only one sends a signal. -/
structure LawAt (op : Opcode) (host : Host σ) (unit : UnitId)
    (E : Environment → Environment → Prop) (W : σ → σ → Prop) : Prop where
  /-- A thread is started. -/
  start : op = .start → ∀ {env env' : Environment} {function params mask thread},
    env.startThread function params mask = .ok (thread, env') → E env env'
  /-- A signal is sent. -/
  signal : op = .signal → ∀ (env : Environment) (signal : UInt32), E env (env.signal signal none)
  /-- A static variable is written. -/
  static : op = .popStatic → ∀ {env env' : Environment} {index v},
    env.setStatic index v = .ok env' → E env env'
  /-- An effect is carried out. -/
  apply : ∀ {e w w'}, host.apply unit e w = .ok w' → W w w'
  /-- A random number is drawn. -/
  random : ∀ {low high w v w'}, host.random low high w = .ok (v, w') → W w w'

lemma Law.at (law : Law host unit E W) (op : Opcode) : LawAt op host unit E W where
  start _ := law.start
  signal _ := law.signal
  static _ := law.static
  apply := law.apply
  random := law.random

variable [IsPreorder Environment E] [IsPreorder σ W]

/-! ### What stays within the thread -/

lemma respects_fault (e : ScriptError) : Respects (Related E W) (fault e : Exec σ α) :=
  Respects.throw _

lemma respects_modifyThread (f : Thread → Thread) :
    Respects (Related E W) (modifyThread f : Exec σ Unit) :=
  Respects.modify fun m => ⟨refl_of E m.environment, refl_of W m.world⟩

lemma respects_push (v : Int32) : Respects (Related E W) (push v : Exec σ Unit) :=
  respects_modifyThread _

lemma respects_pop : Respects (Related E W) (pop : Exec σ Int32) :=
  Respects.get.bind fun _ => (respects_modifyThread _).bind fun _ => .pure _

lemma respects_popMany (n : Nat) : Respects (Related E W) (popMany n : Exec σ (List Int32)) :=
  Respects.get.bind fun _ => (respects_modifyThread _).bind fun _ => .pure _

lemma respects_nextWord : Respects (Related E W) (nextWord : Exec σ UInt32) := by
  refine Respects.get.bind fun m => ?_
  split
  · exact respects_fault _
  · split
    · exact respects_fault _
    · exact (respects_modifyThread _).bind fun _ => .pure _

lemma respects_fetch : Respects (Related E W) (fetch : Exec σ Instruction) := by
  refine Respects.get.bind fun m => respects_nextWord.bind fun w => ?_
  split
  · exact respects_fault _
  · split
    · exact .pure _
    · exact respects_nextWord.bind fun _ => .pure _
    · exact respects_nextWord.bind fun _ => respects_nextWord.bind fun _ => .pure _

lemma respects_axisOf (w : UInt32) : Respects (Related E W) (axisOf w : Exec σ Axis) := by
  rw [axisOf]
  split
  · exact .pure _
  · exact respects_fault _

lemma respects_pieceName (index : UInt32) :
    Respects (Related E W) (pieceName index : Exec σ String) := by
  refine Respects.get.bind fun m => ?_
  split
  · exact .pure _
  · exact respects_fault _

lemma respects_jumpTo (target : UInt32) : Respects (Related E W) (jumpTo target : Exec σ Unit) :=
  respects_modifyThread _

lemma respects_getLocal (index : UInt32) :
    Respects (Related E W) (getLocal index : Exec σ Int32) := by
  refine Respects.get.bind fun m => ?_
  split
  · exact respects_fault _
  · split
    · exact .pure _
    · exact respects_fault _

lemma respects_setLocal (index : UInt32) (v : Int32) :
    Respects (Related E W) (setLocal index v : Exec σ Unit) := by
  refine Respects.get.bind fun m => ?_
  split
  · exact respects_fault _
  · split
    · exact respects_modifyThread _
    · exact respects_fault _

lemma respects_call (function : UInt32) (params : List Int32) :
    Respects (Related E W) (call function params : Exec σ Unit) := by
  refine Respects.get.bind fun m => ?_
  split
  · exact respects_fault _
  · exact respects_modifyThread _

lemma respects_getValue (number a b : Int32) :
    Respects (Related E W) (getValue host unit number a b) := by
  rw [getValue]
  split
  · exact respects_fault _
  · refine Respects.get.bind fun m => ?_
    split
    · exact .pure _
    · exact respects_fault _

/-! ### What goes beyond it -/

namespace LawAt

variable {op : Opcode} (law : LawAt op host unit E W)
include law

lemma respects_perform (e : Effect) : Respects (Related E W) (perform host unit e) := by
  refine Respects.get_bind fun m => ?_
  split
  · rename_i world h
    exact ⟨refl_of E m.environment, law.apply h⟩
  · exact refl_of (Related E W) m

lemma respects_draw (a b : Int32) : Respects (Related E W) (draw host a b) := by
  refine Respects.get_bind fun m => ?_
  split
  · rename_i v world h
    exact ⟨refl_of E m.environment, law.random h⟩
  · exact refl_of (Related E W) m

lemma respects_start (hop : op = .start) (function : UInt32) (params : List Int32) :
    Respects (Related E W) (Machine.start function params : Exec σ Unit) := by
  refine Respects.get_bind fun m => ?_
  split
  · rename_i thread environment h
    exact ⟨law.start hop h, refl_of W m.world⟩
  · exact refl_of (Related E W) m

lemma respects_setValue (number n : Int32) :
    Respects (Related E W) (setValue host unit number n) := by
  rw [setValue]
  split
  · exact respects_fault _
  · split
    · exact law.respects_perform _
    · exact .pure _
    · exact respects_fault _

end LawAt

/-- One case for each instruction: it is a sequence of reads and writes of the thread around at most
one of the five. -/
lemma LawAt.respects_execute {i : Instruction} (law : LawAt i.opcode host unit E W) :
    Respects (Related E W) (execute host unit i) := by
  rw [execute]
  generalize i.opcode = op at law ⊢
  cases op with
  | binary op =>
    exact respects_pop.bind fun _ => respects_pop.bind fun _ => (respects_push _).bind fun _ =>
      .pure _
  | unary op => exact respects_pop.bind fun _ => (respects_push _).bind fun _ => .pure _
  | random =>
    exact respects_pop.bind fun _ => respects_pop.bind fun _ =>
      (law.respects_draw _ _).bind fun _ => (respects_push _).bind fun _ => .pure _
  | jump => exact (respects_jumpTo _).bind fun _ => .pure _
  | jumpIfZero =>
    refine respects_pop.bind fun v => ?_
    split
    · exact (respects_jumpTo _).bind fun _ => .pure _
    · exact .pure _
  | move =>
    exact (respects_axisOf _).bind fun _ => respects_pop.bind fun _ => respects_pop.bind fun _ =>
      .pure _
  | moveNow => exact (respects_axisOf _).bind fun _ => respects_pop.bind fun _ => .pure _
  | turn =>
    exact (respects_axisOf _).bind fun _ => respects_pop.bind fun _ => respects_pop.bind fun _ =>
      .pure _
  | turnNow => exact (respects_axisOf _).bind fun _ => respects_pop.bind fun _ => .pure _
  | spin =>
    exact (respects_axisOf _).bind fun _ => respects_pop.bind fun _ => respects_pop.bind fun _ =>
      .pure _
  | stopSpin => exact (respects_axisOf _).bind fun _ => respects_pop.bind fun _ => .pure _
  | waitForMove => exact (respects_axisOf _).bind fun _ => .pure _
  | waitForTurn => exact (respects_axisOf _).bind fun _ => .pure _
  | sleep => exact respects_pop.bind fun _ => .pure _
  | explode =>
    exact (respects_pieceName _).bind fun _ => respects_pop.bind fun _ =>
      (law.respects_perform _).bind fun _ => .pure _
  | emitSmoke =>
    exact (respects_pieceName _).bind fun _ => respects_pop.bind fun _ =>
      (law.respects_perform _).bind fun _ => .pure _
  | showPiece | hidePiece | shade | dontShade =>
    exact (respects_pieceName _).bind fun _ => (law.respects_perform _).bind fun _ => .pure _
  | cache | dontCache => exact .pure _
  | attachUnit => exact respects_pop.bind fun _ => respects_pop.bind fun _ => .pure _
  | dropUnit | drop => exact respects_pop.bind fun _ => .pure _
  | call => exact (respects_popMany _).bind fun _ => (respects_call _ _).bind fun _ => .pure _
  | start =>
    exact (respects_popMany _).bind fun _ => (law.respects_start rfl _ _).bind fun _ => .pure _
  | leave => exact respects_pop.bind fun _ => (respects_modifyThread _).bind fun _ => .pure _
  | signal =>
    exact respects_pop.bind fun s =>
      (Respects.modify fun m => ⟨law.signal rfl m.environment _, refl_of W m.world⟩).bind fun _ =>
        .pure _
  | setMask => exact respects_pop.bind fun _ => (respects_modifyThread _).bind fun _ => .pure _
  | createLocal => exact (respects_modifyThread _).bind fun _ => .pure _
  | pushConstant => exact (respects_push _).bind fun _ => .pure _
  | pushLocal => exact (respects_getLocal _).bind fun _ => (respects_push _).bind fun _ => .pure _
  | popLocal => exact respects_pop.bind fun _ => (respects_setLocal _ _).bind fun _ => .pure _
  | pushStatic =>
    refine Respects.get.bind fun m => ?_
    split
    · exact (respects_push _).bind fun _ => .pure _
    · exact respects_fault _
  | popStatic =>
    refine respects_pop.bind fun v => Respects.get_bind fun m => ?_
    split
    · rename_i environment h
      exact ⟨law.static rfl h, refl_of W m.world⟩
    · exact refl_of (Related E W) m
  | getValue =>
    exact respects_pop.bind fun _ => (respects_getValue _ _ _).bind fun _ =>
      (respects_push _).bind fun _ => .pure _
  | getValueWithArgs =>
    exact respects_pop.bind fun _ => respects_pop.bind fun _ => respects_pop.bind fun _ =>
      respects_pop.bind fun _ => respects_pop.bind fun _ => (respects_getValue _ _ _).bind fun _ =>
      (respects_push _).bind fun _ => .pure _
  | setValue =>
    exact respects_pop.bind fun _ => respects_pop.bind fun _ =>
      (law.respects_setValue _ _).bind fun _ => .pure _

namespace Law

variable (law : Law host unit E W)
include law

theorem respects_step : Respects (Related E W) (step host unit) := by
  refine Respects.get.bind fun m => ?_
  split
  · exact .pure _
  · exact respects_fetch.bind fun i => (law.at i.opcode).respects_execute

end Law

end Lockstep.Script.Machine
