import Mathlib.Tactic.Lemma
import Lockstep.Script.Machine
/-!
# What instructions are made of

All instructions are made of few kinds of writes, put together by sequences and by looks at the
script state of the unit and at the frames of the thread.  None of them looks at the stack as a
whole: values are taken off its top, and put there, one after the other.  A property of computations
that goes through sequences and holds of each kind of write therefore holds of every step of the
machine; it is shown by one case for each constructor of `Routine`.
-/

namespace Lockstep.Script.Machine

variable {σ : Type} {host : Host σ} {unit : UnitId}

/-- The computations of which instructions are made. -/
inductive Routine (host : Host σ) (unit : UnitId) : {α : Type} → Exec σ α → Prop
  /-- Nothing is done. -/
  | pure {α : Type} (x : α) : Routine host unit (pure x : Exec σ α)
  /-- The thread is faulty. -/
  | fault {α : Type} (e : ScriptError) : Routine host unit (Machine.fault e : Exec σ α)
  /-- One thing is done after another. -/
  | bind {α β : Type} {a : Exec σ α} {f : α → Exec σ β} :
    Routine host unit a → (∀ x, Routine host unit (f x)) → Routine host unit (a >>= f)
  /-- What is done depends on the script state and the frames. -/
  | look {α : Type} {f : Machine σ → Exec σ α} :
    (∀ m m', m'.environment = m.environment → m'.thread.frames = m.thread.frames → f m' = f m) →
    (∀ m, Routine host unit (f m)) → Routine host unit (get >>= f)
  /-- A value is put on the stack. -/
  | push (v : Int32) : Routine host unit (Machine.push v)
  /-- A value is taken off the stack. -/
  | pop : Routine host unit Machine.pop
  /-- Values are taken off the stack. -/
  | popMany (n : Nat) : Routine host unit (Machine.popMany n)
  /-- The innermost frame is changed. -/
  | modifyFrame (f : Frame → Frame) : Routine host unit (modifyThread (·.modifyFrame f))
  /-- A function is entered. -/
  | enter (frame : Frame) :
    Routine host unit (modifyThread fun t => { t with frames := frame :: t.frames })
  /-- A function is left. -/
  | leave (v : Int32) : Routine host unit (modifyThread (·.leave v))
  /-- The mask of the thread is set. -/
  | setMask (mask : UInt32) : Routine host unit (modifyThread fun t => { t with mask := mask })
  /-- A linked value is read. -/
  | read (v : LinkedValue) (a b : Int32) :
    Routine host unit do
      let m ← get
      match readValue host unit m.environment.program m.world v a b with
      | .ok n => return n
      | .error e => Machine.fault e
  /-- An effect is asked for. -/
  | perform (e : Effect) : Routine host unit (Machine.perform host unit e)
  /-- A random number is drawn. -/
  | draw (a b : Int32) : Routine host unit (Machine.draw host a b)
  /-- A thread is started. -/
  | start (function : UInt32) (params : List Int32) :
    Routine host unit (Machine.start function params)
  /-- A signal is sent. -/
  | signal (s : UInt32) :
    Routine host unit (modify fun m => { m with environment := m.environment.signal s none })
  /-- A static variable is written. -/
  | setStatic {α : Type} (index : UInt32) (v : Int32) (x : α) :
    Routine host unit do
      let m ← get
      match m.environment.setStatic index v with
      | .ok environment =>
        set { m with environment := environment }
        return x
      | .error e => Machine.fault e

namespace Routine

/-! ### Looks at the thread and at the script state -/

lemma nextWord : Routine host unit Machine.nextWord := by
  refine .look (fun m m' henv hframes => by simp only [henv, hframes]) fun m => ?_
  split
  · exact .fault _
  · split
    · exact .fault _
    · exact (modifyFrame _).bind fun _ => .pure _

/-- The rest of a fetch, once the address is known. -/
lemma decode (address : Nat) (w : UInt32) :
    Routine host unit (match Opcode.ofWord? w with
      | none => Machine.fault (.unknownOpcode w address)
      | some op =>
        match op.operandCount with
        | 0 => return ⟨op, 0, 0⟩
        | 1 => do
          let first ← Machine.nextWord
          return ⟨op, first, 0⟩
        | _ => do
          let first ← Machine.nextWord
          let second ← Machine.nextWord
          return ⟨op, first, second⟩ : Exec σ Instruction) := by
  split
  · exact .fault _
  · split
    · exact .pure _
    · exact nextWord.bind fun _ => .pure _
    · exact nextWord.bind fun _ => nextWord.bind fun _ => .pure _

lemma fetch : Routine host unit Machine.fetch :=
  .look (fun m m' _ hframes => by simp only [Thread.address, hframes]) fun m =>
    nextWord.bind (decode ((m.thread.frames.head?.map Frame.address).getD 0))

lemma axisOf (w : UInt32) : Routine host unit (Machine.axisOf w) := by
  rw [Machine.axisOf]
  split
  · exact .pure _
  · exact .fault _

lemma pieceName (index : UInt32) : Routine host unit (Machine.pieceName index) := by
  refine .look (fun m m' henv _ => by simp only [henv]) fun m => ?_
  split
  · exact .pure _
  · exact .fault _

lemma jumpTo (target : UInt32) : Routine host unit (Machine.jumpTo target) := modifyFrame _

lemma getLocal (index : UInt32) : Routine host unit (Machine.getLocal index) := by
  refine .look (fun m m' _ hframes => by simp only [hframes]) fun m => ?_
  split
  · exact .fault _
  · split
    · exact .pure _
    · exact .fault _

lemma setLocal (index : UInt32) (v : Int32) : Routine host unit (Machine.setLocal index v) := by
  refine .look (fun m m' _ hframes => by simp only [hframes]) fun m => ?_
  split
  · exact .fault _
  · split
    · exact modifyFrame _
    · exact .fault _

lemma call (function : UInt32) (params : List Int32) :
    Routine host unit (Machine.call function params) := by
  refine .look (fun m m' henv _ => by simp only [henv]) fun m => ?_
  split
  · exact .fault _
  · exact enter _

lemma getStatic (index : UInt32) {α : Type} {f : Int32 → Exec σ α}
    (h : ∀ v, Routine host unit (f v)) :
    Routine host unit (do
      match (← get).environment.getStatic index with
      | .ok v => f v
      | .error e => Machine.fault e) := by
  refine .look (fun m m' henv _ => by simp only [henv]) fun m => ?_
  split
  · exact h _
  · exact .fault _

lemma getValue (number a b : Int32) :
    Routine host unit (Machine.getValue host unit number a b) := by
  rw [Machine.getValue]
  split
  · exact .fault _
  · exact read _ a b

lemma setValue (number n : Int32) : Routine host unit (Machine.setValue host unit number n) := by
  rw [Machine.setValue]
  split
  · exact .fault _
  · split
    · exact perform _
    · exact .pure _
    · exact .fault _

/-! ### Instructions -/

/-- One case for each instruction. -/
lemma execute (i : Instruction) : Routine host unit (Machine.execute host unit i) := by
  rw [Machine.execute]
  cases i.opcode with
  | binary op => exact pop.bind fun _ => pop.bind fun _ => (push _).bind fun _ => .pure _
  | unary op => exact pop.bind fun _ => (push _).bind fun _ => .pure _
  | random =>
    exact pop.bind fun _ => pop.bind fun _ => (draw _ _).bind fun _ => (push _).bind fun _ =>
      .pure _
  | jump => exact (jumpTo _).bind fun _ => .pure _
  | jumpIfZero =>
    refine pop.bind fun v => ?_
    split
    · exact (jumpTo _).bind fun _ => .pure _
    · exact .pure _
  | move | turn | spin =>
    exact (axisOf _).bind fun _ => pop.bind fun _ => pop.bind fun _ => .pure _
  | moveNow | turnNow | stopSpin => exact (axisOf _).bind fun _ => pop.bind fun _ => .pure _
  | waitForMove | waitForTurn => exact (axisOf _).bind fun _ => .pure _
  | sleep => exact pop.bind fun _ => .pure _
  | explode | emitSmoke =>
    exact (pieceName _).bind fun _ => pop.bind fun _ => (perform _).bind fun _ => .pure _
  | showPiece | hidePiece | shade | dontShade =>
    exact (pieceName _).bind fun _ => (perform _).bind fun _ => .pure _
  | cache | dontCache => exact .pure _
  | attachUnit => exact pop.bind fun _ => pop.bind fun _ => .pure _
  | dropUnit | drop => exact pop.bind fun _ => .pure _
  | call => exact (popMany _).bind fun _ => (call _ _).bind fun _ => .pure _
  | start => exact (popMany _).bind fun _ => (start _ _).bind fun _ => .pure _
  | leave => exact pop.bind fun _ => (leave _).bind fun _ => .pure _
  | signal => exact pop.bind fun s => (signal _).bind fun _ => .pure _
  | setMask => exact pop.bind fun _ => (setMask _).bind fun _ => .pure _
  | createLocal => exact (modifyFrame _).bind fun _ => .pure _
  | pushConstant => exact (push _).bind fun _ => .pure _
  | pushLocal => exact (getLocal _).bind fun _ => (push _).bind fun _ => .pure _
  | popLocal => exact pop.bind fun _ => (setLocal _ _).bind fun _ => .pure _
  | pushStatic => exact getStatic _ fun v => (push v).bind fun _ => .pure _
  | popStatic => exact pop.bind fun v => setStatic _ v _
  | getValue =>
    exact pop.bind fun _ => (getValue _ _ _).bind fun _ => (push _).bind fun _ => .pure _
  | getValueWithArgs =>
    exact pop.bind fun _ => pop.bind fun _ => pop.bind fun _ => pop.bind fun _ => pop.bind fun _ =>
      (getValue _ _ _).bind fun _ => (push _).bind fun _ => .pure _
  | setValue => exact pop.bind fun _ => pop.bind fun _ => (setValue _ _).bind fun _ => .pure _

theorem step : Routine host unit (Machine.step host unit) := by
  refine .look (fun m m' _ hframes => ?_) fun m => ?_
  · have hfinished : m'.thread.isFinished = m.thread.isFinished := by
      rw [Thread.isFinished, Thread.isFinished, hframes]
    simp only [hfinished]
  · split
    · exact .pure _
    · exact fetch.bind execute

end Routine

end Lockstep.Script.Machine
