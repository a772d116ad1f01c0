import Lockstep.Proofs.Script.Signals
/-!
# Instructions as words

An instruction stands in the stream of words as the word of its opcode with its operands behind it.
Where one stands it is fetched, and then its words have been read (`Machine.fetch_of_spells`);
conversely what has been fetched has been read word by word (`Machine.fetched_eq`).
-/

namespace Lockstep.Script

lemma Opcode.operandCount_le (op : Opcode) : op.operandCount ≤ 2 := by
  cases op <;> simp [operandCount]

/-- An opcode and its operands stand in the stream of words from an address on. -/
structure Program.Spells (p : Program) (address : Nat) (op : Opcode) (operands : List UInt32) :
    Prop where
  complete : operands.length = op.operandCount
  words : op.word :: operands <+: p.words.toList.drop address

lemma Program.Spells.word {p : Program} {address : Nat} {op : Opcode} {operands : List UInt32}
    (h : p.Spells address op operands) (k : Nat) (hk : k < (op.word :: operands).length) :
    p.words[address + k]? = some (op.word :: operands)[k] := by
  have hword := List.prefix_iff_getElem?.1 h.words k hk
  rwa [List.getElem?_drop, Array.getElem?_toList] at hword

namespace Machine

variable {σ : Type} {m m' : Machine σ} {i : Instruction} {frame : Frame} {rest : List Frame}

/-- A machine that has read a number of words. -/
def readOn (m : Machine σ) (n : Nat) : Machine σ :=
  { m with thread := m.thread.modifyFrame fun f => { f with address := f.address + n } }

lemma readOn_readOn (m : Machine σ) (k l : Nat) : (m.readOn k).readOn l = m.readOn (k + l) := by
  simp only [readOn, modifyFrame_modifyFrame, Function.comp_def, Nat.add_assoc]

lemma frames_readOn (h : m.thread.frames = frame :: rest) (n : Nat) :
    (m.readOn n).thread.frames = { frame with address := frame.address + n } :: rest := by
  simp only [readOn, Thread.modifyFrame, h]

lemma run_nextWord (h : m.thread.frames = frame :: rest) :
    (nextWord : Exec σ UInt32).run.run m =
      match m.environment.program.words[frame.address]? with
      | some w => (.ok w, m.readOn 1)
      | none => (.error (.fault (.pastEnd frame.address)), m) := by
  rw [nextWord, run_get_bind]
  simp only [h]
  cases m.environment.program.words[frame.address]? <;> rfl

/-- The word after those that have been read. -/
lemma run_nextWord_readOn (h : m.thread.frames = frame :: rest) (n : Nat) :
    (nextWord : Exec σ UInt32).run.run (m.readOn n) =
      match m.environment.program.words[frame.address + n]? with
      | some w => (.ok w, m.readOn (n + 1))
      | none => (.error (.fault (.pastEnd (frame.address + n))), m.readOn n) := by
  rw [run_nextWord (frames_readOn h n), readOn_readOn]
  rfl

/-- At the end of the stream there is nothing to be fetched. -/
lemma fetch_pastEnd (h : m.thread.frames = frame :: rest)
    (hend : m.environment.program.words[frame.address]? = none) :
    (fetch : Exec σ Instruction).run.run m = (.error (.fault (.pastEnd frame.address)), m) := by
  rw [fetch, run_get_bind, run_bind, run_nextWord h, hend]

lemma step_of_frames {host : Host σ} {unit : UnitId} (h : m.thread.frames = frame :: rest) :
    (step host unit).run.run m = (fetch >>= execute host unit).run.run m := by
  rw [run_step, if_neg (by simp [Thread.isFinished, h])]

lemma step_pastEnd {host : Host σ} {unit : UnitId} (h : m.thread.frames = frame :: rest)
    (hend : m.environment.program.words[frame.address]? = none) :
    (step host unit).run.run m = (.error (.fault (.pastEnd frame.address)), m) := by
  rw [step_of_frames h, run_bind, fetch_pastEnd h hend]

/-- A word that names no opcode cannot be carried out. -/
lemma step_unknownOpcode {host : Host σ} {unit : UnitId} {w : UInt32}
    (h : m.thread.frames = frame :: rest)
    (hw : m.environment.program.words[frame.address]? = some w) (hop : Opcode.ofWord? w = none) :
    (step host unit).run.run m =
      (.error (.fault (.unknownOpcode w frame.address)), m.readOn 1) := by
  have haddress : m.thread.address = frame.address := by rw [Thread.address, h]; rfl
  rw [step_of_frames h, run_bind, fetch, run_get_bind, run_bind, run_nextWord h, hw, haddress]
  simp only [hop]
  rfl

/-- Where an opcode stands with its operands, these are fetched. -/
theorem fetch_of_spells {op : Opcode} {operands : List UInt32}
    (h : m.thread.frames = frame :: rest)
    (hspells : m.environment.program.Spells frame.address op operands) :
    (fetch : Exec σ Instruction).run.run m =
      (.ok ⟨op, operands.getD 0 0, operands.getD 1 0⟩, m.readOn (1 + op.operandCount)) := by
  have hop := hspells.word 0 (by simp)
  rw [Nat.add_zero] at hop
  rw [fetch, run_get_bind, run_bind, run_nextWord h, hop]
  simp only [List.getElem_cons_zero, Opcode.ofWord?_word]
  have hle := op.operandCount_le
  rw [← hspells.complete] at hle ⊢
  rcases operands with _ | ⟨first, _ | ⟨second, _ | _⟩⟩
  · rfl
  · have hfirst := hspells.word 1 (by simp)
    simp only [List.length_singleton, run_bind, run_nextWord_readOn h, hfirst]
    rfl
  · have hfirst := hspells.word 1 (by simp)
    have hsecond := hspells.word 2 (by simp)
    simp only [List.length_cons, List.length_nil, run_bind, run_nextWord_readOn h, hfirst, hsecond]
    rfl
  · simp only [List.length_cons] at hle
    omega

/-- A computation that answers has been answered by its parts. -/
lemma exists_of_run_bind {α β : Type} {a : Exec σ α} {f : α → Exec σ β} {x : β}
    (h : (a >>= f).run.run m = (.ok x, m')) :
    ∃ y m₁, a.run.run m = (.ok y, m₁) ∧ (f y).run.run m₁ = (.ok x, m') := by
  rw [run_bind] at h
  rcases ha : a.run.run m with ⟨e | y, m₁⟩ <;> rw [ha] at h
  · cases h
  · exact ⟨y, m₁, rfl, h⟩

lemma eq_readOn_of_nextWord {w : UInt32} (h : m.thread.frames = frame :: rest)
    (hw : (nextWord : Exec σ UInt32).run.run m = (.ok w, m')) : m' = m.readOn 1 := by
  rw [run_nextWord h] at hw
  split at hw <;> cases hw
  rfl

/-- What has been fetched is an opcode with its operands, which have been read. -/
theorem fetched_eq (h : m.instruction? = some i) :
    m.fetched = m.readOn (1 + i.opcode.operandCount) := by
  have hunfinished := unfinished_of_instruction h
  cases hframes : m.thread.frames with
  | nil => simp [Thread.isFinished, hframes] at hunfinished
  | cons frame rest =>
  have hfetch := fetch_eq_ok h
  generalize m.fetched = m' at hfetch ⊢
  rw [fetch, run_get_bind] at hfetch
  obtain ⟨w, m₁, hw, hfetch⟩ := exists_of_run_bind hfetch
  obtain rfl := eq_readOn_of_nextWord hframes hw
  cases hop : Opcode.ofWord? w with
  | none =>
    simp only [hop] at hfetch
    cases hfetch
  | some op =>
  simp only [hop] at hfetch
  split at hfetch
  · rename_i hcount
    cases hfetch
    rw [hcount]
  · rename_i hcount
    obtain ⟨first, m₂, hfirst, hfetch⟩ := exists_of_run_bind hfetch
    obtain rfl := eq_readOn_of_nextWord (frames_readOn hframes 1) hfirst
    cases hfetch
    rw [hcount, readOn_readOn]
  · rename_i hzero hone
    have hcount : op.operandCount = 2 := by
      change op.operandCount ≠ 0 at hzero
      change op.operandCount ≠ 1 at hone
      have hop := op.operandCount_le
      omega
    obtain ⟨first, m₂, hfirst, hfetch⟩ := exists_of_run_bind hfetch
    obtain rfl := eq_readOn_of_nextWord (frames_readOn hframes 1) hfirst
    obtain ⟨second, m₃, hsecond, hfetch⟩ := exists_of_run_bind hfetch
    obtain rfl := eq_readOn_of_nextWord (frames_readOn (frames_readOn hframes 1) 1) hsecond
    cases hfetch
    rw [hcount, readOn_readOn, readOn_readOn]

end Machine

end Lockstep.Script
