import Lockstep.Proofs.InStep
import Lockstep.Proofs.Script.Routine
/-!
# Two threads abreast

Two machines run the same program with the same frames; their worlds and their stacks may differ, as
long as the host answers the two worlds alike (`Host.Impartial`) and values come off the two stacks
alike (`StackLaw`).  Then the threads go on step by step with the same outcome
(`Routine.inStep`): an instruction only ever sees answers of the host and values from the top.
-/

namespace Lockstep

variable {ε α β : Type}

/-- Two results that are related, or the same failure. -/
inductive Alike (S : α → β → Prop) : Except ε α → Except ε β → Prop
  | ok {x : α} {y : β} : S x y → Alike S (.ok x) (.ok y)
  | error (e : ε) : Alike S (.error e) (.error e)

namespace Script

variable {σ : Type} {host : Host σ} {unit : UnitId} {S : σ → σ → Prop}
  {K : List Int32 → List Int32 → Prop}

/-- A host that does not tell related worlds apart. -/
structure Host.Impartial (host : Host σ) (S : σ → σ → Prop) : Prop where
  random : ∀ {w w'} (low high : Int32), S w w' →
    Alike (fun p q => p.1 = q.1 ∧ S p.2 q.2) (host.random low high w) (host.random low high w')
  unit? : ∀ {w w'} (id : UnitId), S w w' → host.unit? id w = host.unit? id w'
  piecePosition? : ∀ {w w'} (id : UnitId) (piece : String), S w w' →
    host.piecePosition? id piece w = host.piecePosition? id piece w'
  groundHeight : ∀ {w w'} (x z : Scalar), S w w' →
    host.groundHeight x z w = host.groundHeight x z w'
  minUnit : ∀ {w w'}, S w w' → host.minUnit w = host.minUnit w'
  maxUnit : ∀ {w w'}, S w w' → host.maxUnit w = host.maxUnit w'
  apply : ∀ {w w'} (id : UnitId) (e : Effect), S w w' →
    Alike S (host.apply id e w) (host.apply id e w')

/-- Stacks that nobody can tell apart by taking values off and putting values on. -/
structure StackLaw (K : List Int32 → List Int32 → Prop) : Prop where
  top : ∀ {l l'}, K l l' → l.headD 0 = l'.headD 0
  pop : ∀ {l l'}, K l l' → K l.tail l'.tail
  push : ∀ {l l'} (v : Int32), K l l' → K (v :: l) (v :: l')

lemma stackLaw_eq : StackLaw Eq where
  top h := congrArg (List.headD · 0) h
  pop h := congrArg List.tail h
  push v h := congrArg (v :: ·) h

namespace StackLaw

lemma drop (law : StackLaw K) (n : Nat) {l l' : List Int32} (h : K l l') :
    K (l.drop n) (l'.drop n) := by
  induction n generalizing l l' with
  | zero => exact h
  | succ n ih =>
    rw [← List.drop_tail, ← List.drop_tail]
    exact ih (law.pop h)

/-- The topmost values are the top and the topmost values below it. -/
lemma topMany_succ (t : Thread) (n : Nat) : t.topMany (n + 1) = t.top :: t.pop.topMany n := by
  rw [Thread.topMany, Thread.topMany, Thread.top, Thread.pop]
  cases t.stack with
  | nil => simp [List.replicate_succ]
  | cons v l => simp

lemma topMany (law : StackLaw K) (n : Nat) {t : Thread} {l : List Int32} (h : K t.stack l) :
    t.topMany n = { t with stack := l }.topMany n := by
  induction n generalizing t l with
  | zero => simp [Thread.topMany]
  | succ n ih =>
    rw [topMany_succ, topMany_succ]
    exact congr_arg₂ _ (law.top h) (ih (law.pop h))

end StackLaw

namespace Machine

/-- Two machines at the same place of the same program. -/
inductive Abreast (S : σ → σ → Prop) (K : List Int32 → List Int32 → Prop) :
    Machine σ → Machine σ → Prop
  | mk {w w' : σ} {env : Environment} {t : Thread} {l : List Int32} (world : S w w')
    (stack : K t.stack l) : Abreast S K ⟨w, env, t⟩ ⟨w', env, { t with stack := l }⟩

lemma readValue_eq (law : host.Impartial S) {w w' : σ} (h : S w w') (program : Program)
    (v : LinkedValue) (a b : Int32) :
    readValue host unit program w v a b = readValue host unit program w' v a b := by
  have hown : ownUnit host unit w = ownUnit host unit w' := by
    rw [ownUnit, ownUnit, law.unit? unit h]
  have hofUnit (number : Int32) (f : UnitView → Int32) :
      ofUnit host number w f = ofUnit host number w' f := by
    rw [ofUnit, ofUnit, law.unit? _ h]
  have hpieceAt (number : Int32) :
      pieceAt host unit program w number = pieceAt host unit program w' number := by
    simp only [pieceAt, law.piecePosition? unit _ h]
  have hground (x z : Scalar) := law.groundHeight x z h
  have hmin := law.minUnit h
  have hmax := law.maxUnit h
  cases v <;> simp only [readValue, hown, hofUnit, hpieceAt, hground, hmin, hmax]

/-- Whatever is done with a thread but to its stack is done to both threads. -/
lemma inStep_modifyThread {f : Thread → Thread}
    (h : ∀ (t : Thread) (l : List Int32), f { t with stack := l } = { f t with stack := l })
    (hstack : ∀ t : Thread, (f t).stack = t.stack) :
    InStep (Abreast S K) (modifyThread f : Exec σ Unit) (modifyThread f) := by
  refine .modify ?_
  rintro _ _ (@⟨w, w', env, t, l, hw, hl⟩)
  show Abreast S K ⟨w, env, f t⟩ ⟨w', env, f { t with stack := l }⟩
  rw [h t l]
  exact .mk hw ((hstack t).symm ▸ hl)

lemma stack_modifyFrame (t : Thread) (f : Frame → Frame) : (t.modifyFrame f).stack = t.stack := by
  rw [Thread.modifyFrame]
  split <;> rfl

lemma modifyFrame_stack (t : Thread) (f : Frame → Frame) (l : List Int32) :
    { t with stack := l }.modifyFrame f = { t.modifyFrame f with stack := l } := by
  obtain ⟨name, stack, _ | ⟨frame, rest⟩, mask, result, resultLocals, state⟩ := t <;> rfl

lemma stack_leave (t : Thread) (v : Int32) : (t.leave v).stack = t.stack := by
  rw [Thread.leave]
  split <;> rfl

lemma leave_stack (t : Thread) (v : Int32) (l : List Int32) :
    { t with stack := l }.leave v = { t.leave v with stack := l } := by
  obtain ⟨name, stack, _ | ⟨frame, rest⟩, mask, result, resultLocals, state⟩ := t <;> rfl

/-- Machines that are abreast stay so, with the same outcome, through any routine. -/
theorem Routine.inStep (law : host.Impartial S) (hK : StackLaw K) {a : Exec σ α}
    (h : Routine host unit a) : InStep (Abreast S K) a a := by
  induction h with
  | pure x => exact .pure x
  | fault e => exact .throw _
  | bind _ _ iha ihf => exact iha.bind ihf
  | look hlocal _ ih =>
    refine .get_bind ?_
    rintro _ _ (@⟨w, w', env, t, l, hw, hl⟩)
    rw [hlocal ⟨w, env, t⟩ ⟨w', env, { t with stack := l }⟩ rfl rfl]
    exact ih ⟨w, env, t⟩
  | push v =>
    refine .modify ?_
    rintro _ _ ⟨hw, hl⟩
    exact .mk hw (hK.push v hl)
  | pop =>
    refine .get_bind ?_
    rintro _ _ (@⟨w, w', env, t, l, hw, hl⟩)
    have htop : t.top = { t with stack := l }.top := hK.top hl
    simp only [← htop]
    refine .bind (.modify ?_) fun _ => .pure _
    rintro _ _ ⟨hw, hl⟩
    exact .mk hw (hK.pop hl)
  | popMany n =>
    refine .get_bind ?_
    rintro _ _ (@⟨w, w', env, t, l, hw, hl⟩)
    simp only [← hK.topMany n hl]
    refine .bind (.modify ?_) fun _ => .pure _
    rintro _ _ ⟨hw, hl⟩
    exact .mk hw (hK.drop n hl)
  | modifyFrame f =>
    exact inStep_modifyThread (fun t => modifyFrame_stack t f) (stack_modifyFrame · f)
  | enter frame => exact inStep_modifyThread (fun _ _ => rfl) fun _ => rfl
  | leave v => exact inStep_modifyThread (fun t => leave_stack t v) (stack_leave · v)
  | setMask mask => exact inStep_modifyThread (fun _ _ => rfl) fun _ => rfl
  | read v a b =>
    refine .get_bind ?_
    rintro _ _ ⟨hw, hl⟩
    simp only [readValue_eq law hw]
    split
    · exact .pure _
    · exact .throw _
  | perform e =>
    refine .get_bind ?_
    rintro _ _ (@⟨w, w', env, t, l, hw, hl⟩)
    have happly := law.apply unit e hw
    revert happly
    generalize host.apply unit e w = result, host.apply unit e w' = result'
    rintro (hw₁ | cause)
    · exact .set (.mk hw₁ hl)
    · exact .throw _
  | draw a b =>
    refine .get_bind ?_
    rintro _ _ (@⟨w, w', env, t, l, hw, hl⟩)
    have hrandom := law.random (min a b) (max a b) hw
    revert hrandom
    generalize host.random (min a b) (max a b) w = result
    generalize host.random (min a b) (max a b) w' = result'
    rintro (@⟨⟨v, w₁⟩, ⟨_, w₁'⟩, rfl, hw₁⟩ | cause)
    · exact .bind (.set (.mk hw₁ hl)) fun _ => .pure _
    · exact .throw _
  | start function params =>
    refine .get_bind ?_
    rintro _ _ (@⟨w, w', env, t, l, hw, hl⟩)
    simp only
    split
    · exact .set (.mk hw hl)
    · exact .throw _
  | signal s =>
    refine .modify ?_
    rintro _ _ ⟨hw, hl⟩
    exact .mk hw hl
  | setStatic index v x =>
    refine .get_bind ?_
    rintro _ _ (@⟨w, w', env, t, l, hw, hl⟩)
    simp only
    split
    · exact .bind (.set (.mk hw hl)) fun _ => .pure _
    · exact .throw _

end Machine

end Script

end Lockstep
