import Lockstep.Proofs.Script.Chart
import Lockstep.Proofs.Script.Layout
import Lockstep.Script.Recorder
/-!
# Assembled scripts

Where every opcode has been written down with its operands, the boundaries between items are a chart
of the assembled script (`Program.charted_of_assemble`), so that threads come across the opcodes
that were written down and no others.  Two things are up to whoever writes a script: a jump that is
written down as an opcode with an address has to lead to a boundary, and a label has to stand where
the operand of a jump, a single word, can name its place.
-/

namespace Lockstep.Script

open Assembly

namespace Assembly

variable {items : List Item}

/-- Jumps that are written down as opcodes lead to boundaries. -/
def Direct (items : List Item) : Prop :=
  ∀ op operands, .op op operands ∈ items → op.IsJump → ∀ w ∈ operands, Boundary items w.toNat

/-- In a script of less than 2 ^ 32 words every place can be named by an operand. -/
lemma near_of_extent (h : extent items < UInt32.size) : Near items := by
  rintro item - label a - ⟨before, after, rfl, -, rfl⟩
  rw [extent_append] at h
  exact Nat.lt_of_le_of_lt (Nat.le_add_right ..) h

end Assembly

variable {items : List Item} {pieces : List String} {staticCount : Nat} {p : Program} {item : Item}
  {a : Nat} {ws : List UInt32}

/-- At the place of an item that takes words, its opcode is read with its operands, and what is read
as a target is a boundary. -/
lemma Program.spells_of_standsAt (hcomplete : item.Complete) (hdirect : Direct items)
    (hitem : StandsAt items item a) (hsize : 0 < item.size) (hws : Encodes items a item ws)
    (hstands : ws <+: p.words.toList.drop a) :
    ∃ op operands, p.Spells a op operands ∧ 1 + op.operandCount = item.size ∧
      (op.IsJump → Boundary items (operands.getD 0 0).toNat) := by
  cases hws with
  | word => exact hcomplete.elim
  | op op operands =>
    have hcount : operands.length = op.operandCount := hcomplete
    refine ⟨op, operands, ⟨hcount, hstands⟩, ?_, fun hjump => ?_⟩
    · rw [Item.size, hcount, Nat.add_comm]
    · have hone : op.operandCount = 1 := by rcases hjump with rfl | rfl <;> rfl
      rw [hone] at hcount
      obtain ⟨w, rfl⟩ := List.length_eq_one_iff.1 hcount
      exact hdirect op [w] hitem.mem hjump w List.mem_cons_self
  | function | label => exact absurd hsize (Nat.lt_irrefl 0)
  | jump hlabel => exact ⟨.jump, _, ⟨rfl, hstands⟩, rfl, fun _ => hlabel.standsAt.boundary⟩
  | jumpIfZero hlabel =>
    exact ⟨.jumpIfZero, _, ⟨rfl, hstands⟩, rfl, fun _ => hlabel.standsAt.boundary⟩
  | pushHere =>
    exact ⟨.pushConstant, _, ⟨rfl, hstands⟩, rfl, fun hjump => by
      rcases hjump with h | h <;> cases h⟩

/-- The boundaries are a chart of the assembled script. -/
theorem Program.charted_of_assemble (hcomplete : ∀ item ∈ items, item.Complete) (hnear : Near items)
    (hdirect : Direct items) (h : Program.assemble items pieces staticCount = .ok p) :
    p.Charted (Boundary items) where
  reads {a} ha := by
    rcases ha with ⟨item, hsize, hitem⟩ | rfl
    · obtain ⟨ws, hws, hstands⟩ := Program.drop_words h hitem
      obtain ⟨op, operands, hspells, hcount, hjump⟩ := Program.spells_of_standsAt
        (hcomplete item hitem.mem) hdirect hitem hsize (hnear.encodes hitem.mem hws) hstands
      refine .inr ⟨op, operands, hspells, ?_, hjump⟩
      rw [hcount]
      exact hitem.boundary_next
    · refine .inl (Nat.le_of_eq ?_)
      rw [← Array.length_toList, length_emit (Program.assemble_eq_ok h).1]
  functions f hf := by
    rw [(Program.assemble_eq_ok h).2] at hf
    obtain ⟨before, after, rfl, haddress⟩ := exists_of_mem_functions hf
    rw [haddress, Nat.zero_add]
    exact boundary_of_append before _

/-- A script in which every opcode has its operands and every label that is used is defined, where
an operand can name its place, can be assembled.  Each item then stands at its place, a jump with
the address where its label stands for the last time; and if jumps that are written down as opcodes
lead to boundaries as well, threads get to boundaries only, whatever happens to them, and none of
them ever comes across an unknown opcode. -/
theorem assembled_never_misdecodes (hcomplete : ∀ item ∈ items, item.Complete)
    (hdefined : ∀ item ∈ items, ∀ label, item.target? = some label → .label label ∈ items)
    (hnear : Near items) (hdirect : Direct items) (pieces : List String) (staticCount : Nat) :
    ∃ p, Program.assemble items pieces staticCount = .ok p ∧ p.words.size = extent items ∧
      (∀ item a, StandsAt items item a →
        ∃ ws, Encodes items a item ws ∧ ws <+: p.words.toList.drop a) ∧
      ∀ {σ : Type} (host : Host σ) (unit : UnitId) {env : Environment},
        (∀ {t}, Session host unit p env (some t) →
          (t.isFinished = false → Boundary items t.address) ∧
          ∀ world w a, ((Machine.step host unit).run.run ⟨world, env, t⟩).1 ≠
            .error (.fault (.unknownOpcode w a))) ∧
        (Session host unit p env none → ∀ {budget n world answer m},
          Machine.resumeStored host unit budget n world env = some (answer, m) →
          Session host unit p m.environment none ∧
            ∀ w a, answer ≠ .error (.fault (.unknownOpcode w a))) := by
  obtain ⟨p, hp⟩ := Program.exists_assemble hdefined pieces staticCount
  have hchart := Program.charted_of_assemble hcomplete hnear hdirect hp
  refine ⟨p, hp, ?_, fun item a hitem => ?_, fun host unit env => ⟨fun h => ⟨?_, ?_⟩, ?_⟩⟩
  · rw [← Array.length_toList, length_emit (Program.assemble_eq_ok hp).1]
  · obtain ⟨ws, hws, hstands⟩ := Program.drop_words hp hitem
    exact ⟨ws, hnear.encodes hitem.mem hws, hstands⟩
  · exact h.onChart_address hchart
  · exact fun world w a herror => h.decoded_step hchart herror
  · intro h budget n world answer m hresume
    obtain ⟨hsession, hdecoded⟩ := h.resumeStored hchart hresume
    exact ⟨hsession, fun w a herror => hdecoded herror⟩

/-- Every opcode of a script has its operands and every label that is used is defined, and yet a
thread comes across an unknown opcode. -/
def Assembly.Misdecodes (items : List Item) : Prop :=
  (∀ item ∈ items, item.Complete) ∧
    (∀ item ∈ items, ∀ label, item.target? = some label → .label label ∈ items) ∧
    ∃ p env t w a, Program.assemble items [] 0 = .ok p ∧
      Session Recorder.host ⟨0⟩ p env (some t) ∧
      ((Machine.step Recorder.host ⟨0⟩).run.run ⟨.new 0, env, t⟩).1 =
        .error (.fault (.unknownOpcode w a))

namespace Sample

/-- A script with a loop, a call, a jump ahead and one to its first word. -/
def looping : List Item :=
  [.function "Main", .label "again"] ++ Item.call 1 0 ++ [.jumpIfZero "end", .jump "again"] ++
    Item.push 3 ++ [.label "end", .op .jump [0], .function "Sub"] ++ Item.leave

/-- A script that jumps to the operand of its jump. -/
def strayJump : List Item := [.function "Main", .op .jump [1]]

/-- A script that jumps over a number of words. -/
def jumpOver (n : Nat) : List Item :=
  .function "Main" :: .jump "far" :: (List.replicate n (.op .drop []) ++ [.label "far"])

end Sample

/-- A script with a loop and a call. -/
theorem assembled_never_misdecodes_looping :
    ∃ p, Program.assemble Sample.looping [] 0 = .ok p ∧ p.words.size = 14 ∧
      ∀ {env t}, Session Recorder.host ⟨0⟩ p env (some t) → ∀ world w a,
        ((Machine.step Recorder.host ⟨0⟩).run.run ⟨world, env, t⟩).1 ≠
          .error (.fault (.unknownOpcode w a)) := by
  have hcomplete : ∀ item ∈ Sample.looping, item.Complete := by
    simp [Sample.looping, Item.call, Item.push, Item.leave, Item.Complete, Opcode.operandCount]
  have hdefined : ∀ item ∈ Sample.looping, ∀ label, item.target? = some label →
      .label label ∈ Sample.looping := by
    simp [Sample.looping, Item.call, Item.push, Item.leave, Item.target?]
  have hnear : Near Sample.looping := near_of_extent (by decide)
  have hdirect : Direct Sample.looping := by
    intro op operands hmem hjump w hw
    have hzero : w = 0 := by
      rcases hjump with rfl | rfl <;>
        simp [Sample.looping, Item.call, Item.push, Item.leave] at hmem
      rw [hmem] at hw
      exact List.mem_singleton.1 hw
    rw [hzero]
    exact boundary_of_append [] Sample.looping
  obtain ⟨p, hp, hsize, -, hsession⟩ :=
    assembled_never_misdecodes hcomplete hdefined hnear hdirect [] 0
  exact ⟨p, hp, hsize, fun h => ((hsession Recorder.host ⟨0⟩).1 h).2⟩

/-- A jump ahead gets the address of its label. -/
example : ((Program.assemble ([.function "Main", .jump "end"] ++ Item.push 1 ++ [.label "end"] ++
    Item.leave) [] 0).toOption.bind fun p => p.words[1]?) = some 4 := by decide

/-- A thread that jumps to the second word of its jump takes it for an opcode. -/
lemma exists_step_unknownOpcode (hfunction : p.function? 0 = some ⟨"Main", 0⟩)
    (hspells : p.Spells 0 .jump [1]) : ∃ env t, Session Recorder.host ⟨0⟩ p env (some t) ∧
      ((Machine.step Recorder.host ⟨0⟩).run.run ⟨.new 0, env, t⟩).1 =
        .error (.fault (.unknownOpcode 1 1)) := by
  have hstart : (Environment.new p).startThread 0 [] 0 = .ok (⟨0⟩,
      { Environment.new p with
        threads := (Environment.new p).threads.insert ⟨0⟩ (.start "Main" 0 [] 0)
        nextThread := 1 }) := by
    have hprogram : (Environment.new p).program = p := rfl
    rw [Environment.startThread, hprogram, hfunction]
    rfl
  have hnew : Session Recorder.host ⟨0⟩ p (.new p) none := .new
  have hsession := (hnew.start hstart).resume (n := ⟨0⟩) .ready
    (by rw [SortedTable.get?_insert, if_pos rfl])
  generalize henv : Environment.removeThread _ _ = env at hsession
  have hprogram : env.program = p := by rw [← henv]; rfl
  let m : Machine Recorder := ⟨.new 0, env, .start "Main" 0 [] 0⟩
  have hframes : m.thread.frames = [Frame.enter 0 []] := rfl
  have hi : m.instruction? = some ⟨.jump, 1, 0⟩ := by
    rw [Machine.instruction?, Machine.fetch_of_spells hframes (hprogram ▸ hspells)]
    rfl
  have hafter : ((Machine.step Recorder.host ⟨0⟩).run.run m).2.thread.frames = [⟨1, [], 0⟩] := by
    rw [Machine.frames_step Recorder.host ⟨0⟩ hi, Machine.fetched_eq hi, Thread.framesAfter,
      Machine.frames_readOn hframes]
    rfl
  have hprogram' : ((Machine.step Recorder.host ⟨0⟩).run.run m).2.environment.program = p :=
    (Machine.passed_step Recorder.host ⟨0⟩ m).program.trans hprogram
  refine ⟨_, _, hsession.step (m := m), ?_⟩
  exact congrArg Prod.fst (Machine.step_unknownOpcode (m := ⟨Recorder.new 0, _, _⟩) hafter
    (by rw [hprogram']; exact hspells.word 1 (by decide)) (by decide))

lemma Assembly.misdecodes_strayJump : Misdecodes Sample.strayJump := by
  refine ⟨?_, ?_, ?_⟩
  · simp [Sample.strayJump, Item.Complete, Opcode.operandCount]
  · simp [Sample.strayJump, Item.target?]
  · obtain ⟨env, t, hsession, hstep⟩ := exists_step_unknownOpcode
      (p := ⟨#[Opcode.word .jump, 1], [⟨"Main", 0⟩], [], 0⟩) rfl ⟨rfl, by simp⟩
    exact ⟨_, env, t, 1, 1, rfl, hsession, hstep⟩

/-- What is left of the address of the label in an operand is an address within the jump. -/
lemma Assembly.misdecodes_jumpOver {n : Nat} (hn : UInt32.ofNat (n + 2) = 1) :
    Misdecodes (Sample.jumpOver n) := by
  have hmem : ∀ item ∈ Sample.jumpOver n, item = .function "Main" ∨ item = .jump "far" ∨
      item = .op .drop [] ∨ item = .label "far" := by
    intro item hitem
    simp only [Sample.jumpOver, List.mem_cons, List.mem_append, List.mem_replicate,
      List.not_mem_nil, or_false] at hitem
    tauto
  have hdefined : ∀ item ∈ Sample.jumpOver n, ∀ label, item.target? = some label →
      .label label ∈ Sample.jumpOver n := by
    intro item hitem label htarget
    rcases hmem item hitem with rfl | rfl | rfl | rfl <;> cases htarget
    simp [Sample.jumpOver]
  obtain ⟨p, hp⟩ := Program.exists_assemble hdefined [] 0
  have hfunction : p.function? 0 = some ⟨"Main", 0⟩ := by
    rw [Program.function?, (Program.assemble_eq_ok hp).2]
    rfl
  have hdefines : Defines (Sample.jumpOver n) "far" (n + 2) := by
    refine ⟨.function "Main" :: .jump "far" :: List.replicate n (.op .drop []), [], rfl,
      List.not_mem_nil, ?_⟩
    rw [extent_cons, extent_cons, extent_replicate]
    simp only [Item.size, List.length_nil]
    omega
  have hspells : p.Spells 0 .jump [1] := by
    obtain ⟨ws, hws, hstands⟩ := Program.drop_words hp
      (⟨[.function "Main"], _, rfl, rfl⟩ : StandsAt (Sample.jumpOver n) (.jump "far") 0)
    rw [wordsOf, target, get?_labels_empty.2 hdefines] at hws
    cases hws
    rw [hn] at hstands
    exact ⟨rfl, hstands⟩
  obtain ⟨env, t, hsession, hstep⟩ := exists_step_unknownOpcode hfunction hspells
  refine ⟨fun item hitem => ?_, hdefined, p, env, t, 1, 1, hp, hsession, hstep⟩
  rcases hmem item hitem with rfl | rfl | rfl | rfl <;> trivial

/-- Neither may a jump that is written down as an opcode lead anywhere, nor may a label stand
anywhere. -/
theorem assembled_may_misdecode :
    Misdecodes Sample.strayJump ∧ Misdecodes (Sample.jumpOver (2 ^ 32 - 1)) :=
  ⟨misdecodes_strayJump, misdecodes_jumpOver (by decide)⟩

end Lockstep.Script
