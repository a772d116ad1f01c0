import Lockstep.Proofs.Script.Signals
/-!
# What becomes of the frames of a thread

Few instructions touch the frames of the thread that carries them out: a jump goes on elsewhere, a
call puts a frame on top, a return takes one off, and local variables are declared and written in
the innermost frame (`Thread.framesAfter`).  No instruction complains about an unknown opcode: that
is found out before, when the words are read.
-/

namespace Lockstep

/-- Something else is wrong than that a word names no opcode. -/
def ScriptError.Decoded : ScriptError → Prop
  | .unknownOpcode _ _ => False
  | _ => True

namespace Script

/-- The frames of a thread that has read the words of an instruction, once it has carried it out. -/
def Thread.framesAfter (p : Program) (i : Instruction) (t : Thread) : List Frame :=
  match i.opcode with
  | .jump => t.frames.modifyHead fun f => { f with address := i.first.toNat }
  | .jumpIfZero =>
    if t.top = 0 then t.frames.modifyHead fun f => { f with address := i.first.toNat }
    else t.frames
  | .call =>
    match p.function? i.first with
    | some f => Frame.enter f.address (t.topMany i.second.toNat) :: t.frames
    | none => t.frames
  | .leave => t.frames.tail
  | .createLocal => t.frames.modifyHead Frame.declare
  | .popLocal => t.frames.modifyHead fun f => { f with locals := f.locals.set i.first.toNat t.top }
  | _ => t.frames

lemma Thread.frames_modifyFrame (t : Thread) (f : Frame → Frame) :
    (t.modifyFrame f).frames = t.frames.modifyHead f := by
  obtain ⟨name, stack, _ | ⟨frame, rest⟩, mask, result, locals, state⟩ := t <;> rfl

lemma Thread.frames_leave (t : Thread) (v : Int32) : (t.leave v).frames = t.frames.tail := by
  obtain ⟨name, stack, _ | ⟨frame, rest⟩, mask, result, locals, state⟩ := t <;> rfl

/-- Something else has gone wrong than that a word names no opcode. -/
def Failure.Decoded : Failure → Prop
  | .fault e => e.Decoded
  | .halt _ => True

namespace Machine

variable {σ α β : Type} {host : Host σ} {unit : UnitId}

/-- A computation has ended with some frames, and if it has failed, then not for an unknown
opcode. -/
structure Leaves (frames : List Frame) (r : Except Failure α × Machine σ) : Prop where
  frames : r.2.thread.frames = frames
  decoded : ∀ {e}, r.1 = .error e → e.Decoded

namespace Leaves

variable {frames : List Frame}

lemma ok {x : α} {m : Machine σ} (h : m.thread.frames = frames) :
    Leaves frames ((.ok x, m) : Except Failure α × Machine σ) where
  frames := h
  decoded := by rintro _ ⟨⟩

lemma error {e : Failure} {m : Machine σ} (h : m.thread.frames = frames) (he : e.Decoded) :
    Leaves frames ((.error e, m) : Except Failure α × Machine σ) where
  frames := h
  decoded := by
    rintro _ ⟨⟩
    exact he

/-- The answer of a computation may be exchanged at its end. -/
lemma done {a : Exec σ α} {m : Machine σ} (h : Leaves frames (a.run.run m)) (x : β) :
    Leaves frames ((a >>= fun _ => pure x).run.run m) := by
  rw [run_bind]
  revert h
  rcases a.run.run m with ⟨e | _, m'⟩ <;> intro h
  · exact .error h.frames (h.decoded rfl)
  · exact .ok h.frames

end Leaves

/-! ### Instructions that leave the frames alone -/

/-- A computation leaves the frames alone, and no word that it deals with is unknown. -/
def Still (a : Exec σ α) : Prop := ∀ m, Leaves m.thread.frames (a.run.run m)

namespace Still

lemma pure (x : α) : Still (pure x : Exec σ α) := fun _ => .ok rfl

lemma bind {a : Exec σ α} {f : α → Exec σ β} (ha : Still a) (hf : ∀ x, Still (f x)) :
    Still (a >>= f) := by
  intro m
  have hfirst := ha m
  rw [run_bind]
  revert hfirst
  rcases a.run.run m with ⟨e | x, m'⟩ <;> intro hfirst
  · exact .error hfirst.frames (hfirst.decoded rfl)
  · have hrest := hf x m'
    rwa [hfirst.frames] at hrest

lemma get_bind {f : Machine σ → Exec σ α} (hf : ∀ m, Still (f m)) : Still (get >>= f) :=
  fun m => hf m m

lemma fault {e : ScriptError} (h : e.Decoded) : Still (Machine.fault e : Exec σ α) :=
  fun _ => .error rfl h

lemma push (v : Int32) : Still (Machine.push v : Exec σ Unit) := fun _ => .ok rfl

lemma pop : Still (Machine.pop : Exec σ Int32) := fun _ => .ok rfl

lemma popMany (n : Nat) : Still (Machine.popMany n : Exec σ (List Int32)) :=
  fun _ => .ok rfl

lemma axisOf (w : UInt32) : Still (Machine.axisOf w : Exec σ Axis) := by
  rw [Machine.axisOf]
  split
  · exact .pure _
  · exact .fault trivial

lemma pieceName (index : UInt32) : Still (Machine.pieceName index : Exec σ String) := by
  refine .get_bind fun m => ?_
  split
  · exact .pure _
  · exact .fault trivial

lemma getLocal (index : UInt32) : Still (Machine.getLocal index : Exec σ Int32) := by
  refine .get_bind fun m => ?_
  split
  · exact .fault trivial
  · split
    · exact .pure _
    · exact .fault trivial

lemma getStatic (index : UInt32) {f : Int32 → Exec σ α} (hf : ∀ v, Still (f v)) :
    Still (do
      match (← get).environment.getStatic index with
      | .ok v => f v
      | .error e => Machine.fault e) := by
  refine .get_bind fun m => ?_
  rw [Environment.getStatic]
  cases m.environment.statics[index.toNat]? with
  | some v => exact hf v
  | none => exact .fault trivial

lemma setStatic (index : UInt32) (v : Int32) (x : α) :
    Still (do
      let m ← get
      match m.environment.setStatic index v with
      | .ok environment =>
        set { m with environment := environment }
        return x
      | .error e => Machine.fault e : Exec σ α) := by
  intro m
  rw [run_get_bind, Environment.setStatic]
  by_cases hindex : index.toNat < m.environment.statics.length
  · rw [if_pos hindex]
    exact .ok rfl
  · rw [if_neg hindex]
    exact .error rfl trivial

lemma perform (e : Effect) : Still (Machine.perform host unit e) := by
  intro m
  rw [Machine.perform, run_get_bind]
  cases host.apply unit e m.world with
  | ok world => exact .ok rfl
  | error cause => exact .error rfl trivial

lemma draw (a b : Int32) : Still (Machine.draw host a b) := by
  intro m
  rw [Machine.draw, run_get_bind]
  cases host.random (min a b) (max a b) m.world with
  | ok drawn => exact .ok rfl
  | error cause => exact .error rfl trivial

lemma start (function : UInt32) (params : List Int32) :
    Still (Machine.start function params : Exec σ Unit) := by
  intro m
  rw [Machine.start, run_get_bind, Environment.startThread]
  cases m.environment.program.function? function with
  | none => exact .error rfl trivial
  | some f =>
  simp only
  cases Overflow.successor m.environment.nextThread with
  | error cause => exact .error rfl trivial
  | ok next => exact .ok rfl

end Still

lemma decoded_of_readValue {program : Program} {world : σ} {v : LinkedValue} {a b : Int32}
    {e : ScriptError} (h : readValue host unit program world v a b = .error e) : e.Decoded := by
  have own {f : UnitView → Int32} (h : (ownUnit host unit world).map f = .error e) : e.Decoded := by
    rw [ownUnit] at h
    cases hview : host.unit? unit world <;> rw [hview] at h <;> cases h
    trivial
  have place {f : Vector3 → Int32} (h : (pieceAt host unit program world a).map f = .error e) :
      e.Decoded := by
    rw [pieceAt] at h
    split at h
    · cases h
      trivial
    · split at h <;> cases h
      trivial
  cases v <;> first | exact own h | exact place h | cases h

lemma Still.getValue (number a b : Int32) : Still (Machine.getValue host unit number a b) := by
  rw [Machine.getValue]
  split
  · exact .fault trivial
  · refine .get_bind fun m => ?_
    split
    · exact .pure _
    · exact .fault (decoded_of_readValue ‹_›)

lemma Still.setValue (number n : Int32) : Still (Machine.setValue host unit number n) := by
  rw [Machine.setValue]
  split
  · exact .fault trivial
  · split
    · exact .perform _
    · exact .pure _
    · exact .fault trivial

/-! ### All instructions -/

lemma leaves_jumpTo (target : UInt32) (m : Machine σ) :
    Leaves (m.thread.frames.modifyHead fun f => { f with address := target.toNat })
      ((jumpTo target : Exec σ Unit).run.run m) :=
  .ok (Thread.frames_modifyFrame ..)

lemma leaves_call (function : UInt32) (params : List Int32) (m : Machine σ) :
    Leaves (match m.environment.program.function? function with
        | some f => Frame.enter f.address params :: m.thread.frames
        | none => m.thread.frames)
      ((call function params : Exec σ Unit).run.run m) := by
  rw [call, run_get_bind]
  cases m.environment.program.function? function with
  | none => exact .error rfl trivial
  | some f => exact .ok rfl

/-- A variable that there is not is not written. -/
lemma leaves_setLocal (index : UInt32) (v : Int32) (m : Machine σ) :
    Leaves (m.thread.frames.modifyHead fun f => { f with locals := f.locals.set index.toNat v })
      ((setLocal index v : Exec σ Unit).run.run m) := by
  rw [setLocal, run_get_bind]
  cases hframes : m.thread.frames with
  | nil => exact .error hframes trivial
  | cons frame rest =>
    simp only
    split
    · refine .ok ((Thread.frames_modifyFrame ..).trans ?_)
      rw [hframes]
    · rename_i hout
      rw [List.modifyHead_cons, List.set_eq_of_length_le (Nat.le_of_not_lt hout)]
      exact .error hframes trivial

/-- One case for each instruction.  The frames after it depend neither on the host nor on whether
the instruction is faulty. -/
theorem leaves_execute (host : Host σ) (unit : UnitId) (i : Instruction) (m : Machine σ) :
    Leaves (m.thread.framesAfter m.environment.program i) ((execute host unit i).run.run m) := by
  have still {a : Exec σ (Option Status)} (h : Still a) :
      Leaves m.thread.frames (a.run.run m) := h m
  obtain ⟨op, first, second⟩ := i
  cases op with
  | jump => exact (leaves_jumpTo first m).done _
  | jumpIfZero =>
    show Leaves _ ((if m.thread.top = 0 then jumpTo first >>= fun _ => pure none else pure none :
      Exec σ (Option Status)).run.run { m with thread := m.thread.pop })
    simp only [Thread.framesAfter]
    split
    · exact (leaves_jumpTo first { m with thread := m.thread.pop }).done _
    · exact .ok rfl
  | call => exact (leaves_call first _ { m with thread := m.thread.dropMany second.toNat }).done _
  | leave => exact .ok (Thread.frames_leave m.thread.pop m.thread.top)
  | createLocal => exact .ok (Thread.frames_modifyFrame ..)
  | popLocal => exact (leaves_setLocal first _ { m with thread := m.thread.pop }).done _
  -- all others leave the frames alone
  | binary op =>
    exact still (.bind .pop fun _ => .bind .pop fun _ => .bind (.push _) fun _ => .pure _)
  | unary op => exact still (.bind .pop fun _ => .bind (.push _) fun _ => .pure _)
  | random =>
    exact still (.bind .pop fun _ => .bind .pop fun _ => .bind (.draw _ _) fun _ =>
      .bind (.push _) fun _ => .pure _)
  | move | turn | spin =>
    exact still (.bind (.axisOf _) fun _ => .bind .pop fun _ => .bind .pop fun _ => .pure _)
  | moveNow | turnNow | stopSpin =>
    exact still (.bind (.axisOf _) fun _ => .bind .pop fun _ => .pure _)
  | waitForMove | waitForTurn => exact still (.bind (.axisOf _) fun _ => .pure _)
  | sleep | dropUnit | drop => exact still (.bind .pop fun _ => .pure _)
  | explode | emitSmoke =>
    exact still (.bind (.pieceName _) fun _ => .bind .pop fun _ => .bind (.perform _) fun _ =>
      .pure _)
  | showPiece | hidePiece | shade | dontShade =>
    exact still (.bind (.pieceName _) fun _ => .bind (.perform _) fun _ => .pure _)
  | cache | dontCache => exact still (.pure _)
  | attachUnit => exact still (.bind .pop fun _ => .bind .pop fun _ => .pure _)
  | start => exact still (.bind (.popMany _) fun _ => .bind (.start _ _) fun _ => .pure _)
  | signal | setMask => exact .ok rfl
  | pushConstant => exact still (.bind (.push _) fun _ => .pure _)
  | pushLocal => exact still (.bind (.getLocal _) fun _ => .bind (.push _) fun _ => .pure _)
  | pushStatic => exact still (.getStatic _ fun _ => .bind (.push _) fun _ => .pure _)
  | popStatic => exact still (.bind .pop fun v => .setStatic _ v _)
  | getValue =>
    exact still (.bind .pop fun _ => .bind (.getValue _ _ _) fun _ => .bind (.push _) fun _ =>
      .pure _)
  | getValueWithArgs =>
    exact still (.bind .pop fun _ => .bind .pop fun _ => .bind .pop fun _ => .bind .pop fun _ =>
      .bind .pop fun _ => .bind (.getValue _ _ _) fun _ => .bind (.push _) fun _ => .pure _)
  | setValue =>
    exact still (.bind .pop fun _ => .bind .pop fun _ => .bind (.setValue _ _) fun _ => .pure _)

theorem frames_step (host : Host σ) (unit : UnitId) {m : Machine σ} {i : Instruction}
    (h : m.instruction? = some i) :
    ((step host unit).run.run m).2.thread.frames =
      m.fetched.thread.framesAfter m.environment.program i := by
  rw [step_of_instruction h, (leaves_execute host unit i m.fetched).frames, environment_fetched]

end Machine

end Script

end Lockstep
