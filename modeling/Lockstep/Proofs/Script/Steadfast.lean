import Lockstep.Proofs.Fixed.Checked
import Lockstep.Proofs.Script.Frames
import Lockstep.Proofs.Script.Signals
/-!
# Instructions that cannot stop everything

A faulty instruction ends its own thread.  It takes more to stop the whole computation: an effect on
the unit that the world does not come through, a draw from a range without numbers, or a thread for
which there is no number left.  Against a host that comes through all effects and draws
(`Host.Steadfast`), only the last of them remains, whatever words a thread runs.
-/

namespace Lockstep.Script

/-- A failure that ends a thread, and not the whole computation. -/
def Failure.IsFault : Failure → Prop
  | fault _ => True
  | halt _ => False

/-- So many threads have been started that the counter of their numbers can go no further. -/
def Environment.Spent (env : Environment) : Prop := env.nextThread.toNat + 1 = UInt32.size

instance (env : Environment) : Decidable env.Spent := inferInstanceAs (Decidable (_ = _))

variable {σ α β : Type} {host : Host σ} {unit : UnitId} {P : σ → Prop}

/-- `BinaryOp.apply`, checked.  Sums, differences and products go around, and what is divided by
zero is caught before. -/
def BinaryOp.applyChecked (op : BinaryOp) (a b : Int32) : Except Trap Int32 :=
  match op with
  | .div => if b = 0 then .ok 0 else if b.toInt = 0 then .error .divisor else .ok (a / b)
  | op => .ok (op.apply a b)

lemma BinaryOp.applyChecked_eq (op : BinaryOp) (a b : Int32) :
    op.applyChecked a b = .ok (op.apply a b) := by
  cases op with
  | div =>
    simp only [applyChecked, apply]
    by_cases hzero : b = 0
    · rw [if_pos hzero, if_pos hzero]
    · have hne : b.toInt ≠ 0 := fun h => hzero (Int32.toInt_inj.1 h)
      rw [if_neg hzero, if_neg hzero, if_neg hne]
  | _ => rfl

/-- In worlds with a property the host comes through all effects on the unit and through all draws
from ranges that are not the wrong way around, and the world keeps the property. -/
structure Host.Steadfast (host : Host σ) (unit : UnitId) (P : σ → Prop) : Prop where
  /-- An effect is carried out. -/
  apply : ∀ e {w}, P w → ∃ w', host.apply unit e w = .ok w' ∧ P w'
  /-- A random number is drawn. -/
  random : ∀ {low high w}, low ≤ high → P w → ∃ v w', host.random low high w = .ok (v, w') ∧ P w'

lemma startThread_eq_halt {env : Environment} {function mask : UInt32} {params : List Int32}
    {cause : Halt} (h : env.startThread function params mask = .error (.halt cause)) :
    env.Spent := by
  rw [Environment.startThread] at h
  split at h
  · cases h
  · split at h
    · rename_i hnext
      have hlt := env.nextThread.toNat_lt
      rw [Overflow.successor] at hnext
      split at hnext
      · cases hnext
      · rw [Environment.Spent]
        simp only [UInt32.size] at *
        omega
    · cases h

namespace Machine

/-- All frames have as many variables as they have counted, and the world has a property. -/
structure Fit (P : σ → Prop) (m : Machine σ) : Prop where
  thread : m.thread.Counted
  environment : m.environment.Counted
  world : P m.world

/-- The next instruction starts a thread, for which there is no number left. -/
def StartsBeyond (m : Machine σ) : Prop :=
  (∃ i, m.instruction? = some i ∧ i.opcode = .start) ∧ m.environment.Spent

/-- A fit machine stays fit, and at most its thread comes to its end. -/
abbrev Safe (P : σ → Prop) (a : Exec σ α) : Prop :=
  Secures (Fit P) (fun _ => True) Failure.IsFault a

namespace Safe

lemma pure (x : α) : Safe P (pure x : Exec σ α) := Secures.pure trivial

lemma bind {a : Exec σ α} {f : α → Exec σ β} (ha : Safe P a) (hf : ∀ x, Safe P (f x)) :
    Safe P (a >>= f) := Secures.bind ha fun x _ => hf x

lemma get : Safe P (get : Exec σ (Machine σ)) := fun _ hm => ⟨hm, trivial⟩

end Safe

/-! ### What stays within the thread -/

lemma safe_fault (e : ScriptError) : Safe P (fault e : Exec σ α) := Secures.throw trivial

lemma safe_modifyThread {f : Thread → Thread} (hf : ∀ t : Thread, t.Counted → (f t).Counted) :
    Safe P (modifyThread f : Exec σ Unit) :=
  Secures.modify (fun m hm => ⟨hf m.thread hm.thread, hm.environment, hm.world⟩) trivial

lemma safe_push (v : Int32) : Safe P (push v : Exec σ Unit) :=
  safe_modifyThread fun _ ht => ht.of_frames rfl

lemma safe_pop : Safe P (pop : Exec σ Int32) := by
  have hpop : Safe P (modifyThread Thread.pop : Exec σ Unit) :=
    safe_modifyThread fun _ ht => ht.of_frames rfl
  exact Safe.get.bind fun _ => hpop.bind fun _ => .pure _

lemma safe_popMany (n : Nat) : Safe P (popMany n : Exec σ (List Int32)) := by
  have hdrop : Safe P (modifyThread (·.dropMany n) : Exec σ Unit) :=
    safe_modifyThread fun _ ht => ht.of_frames rfl
  exact Safe.get.bind fun _ => hdrop.bind fun _ => .pure _

lemma safe_setMask (mask : UInt32) :
    Safe P (modifyThread fun t => { t with mask := mask } : Exec σ Unit) :=
  safe_modifyThread fun _ ht => ht.of_frames rfl

/-- A thread that goes on at another address has the same variables. -/
lemma safe_modifyAddress (g : Nat → Nat) :
    Safe P (modifyThread (·.modifyFrame fun f => { f with address := g f.address }) :
      Exec σ Unit) :=
  safe_modifyThread fun _ ht => ht.modifyFrame fun _ hf => hf

lemma safe_nextWord : Safe P (nextWord : Exec σ UInt32) := by
  refine Safe.get.bind fun m => ?_
  split
  · exact safe_fault _
  · split
    · exact safe_fault _
    · exact (safe_modifyAddress (· + 1)).bind fun _ => .pure _

lemma safe_fetch : Safe P (fetch : Exec σ Instruction) := by
  refine Safe.get.bind fun m => safe_nextWord.bind fun w => ?_
  split
  · exact safe_fault _
  · split
    · exact .pure _
    · exact safe_nextWord.bind fun _ => .pure _
    · exact safe_nextWord.bind fun _ => safe_nextWord.bind fun _ => .pure _

lemma safe_axisOf (w : UInt32) : Safe P (axisOf w : Exec σ Axis) := by
  rw [axisOf]
  split
  · exact .pure _
  · exact safe_fault _

lemma safe_pieceName (index : UInt32) : Safe P (pieceName index : Exec σ String) := by
  refine Safe.get.bind fun m => ?_
  split
  · exact .pure _
  · exact safe_fault _

lemma safe_jumpTo (target : UInt32) : Safe P (jumpTo target : Exec σ Unit) :=
  safe_modifyAddress fun _ => target.toNat

lemma safe_getLocal (index : UInt32) : Safe P (getLocal index : Exec σ Int32) := by
  refine Safe.get.bind fun m => ?_
  split
  · exact safe_fault _
  · split
    · exact .pure _
    · exact safe_fault _

lemma safe_setLocal (index : UInt32) (v : Int32) : Safe P (setLocal index v : Exec σ Unit) := by
  refine Safe.get.bind fun m => ?_
  split
  · exact safe_fault _
  · split
    · refine safe_modifyThread fun t ht => ht.modifyFrame fun f hf => ?_
      rw [Frame.Counted, List.length_set]
      exact hf
    · exact safe_fault _

lemma safe_call (function : UInt32) (params : List Int32) :
    Safe P (call function params : Exec σ Unit) := by
  refine Safe.get.bind fun m => ?_
  split
  · exact safe_fault _
  · exact safe_modifyThread fun t ht => ht.enter _ params

lemma safe_getValue (number a b : Int32) : Safe P (getValue host unit number a b) := by
  rw [getValue]
  split
  · exact safe_fault _
  · refine Safe.get.bind fun m => ?_
    split
    · exact .pure _
    · exact safe_fault _

lemma safe_signal (signal : UInt32) :
    Safe P (modify fun m => { m with environment := m.environment.signal signal none } :
      Exec σ Unit) :=
  Secures.modify (fun _ hm => ⟨hm.thread, hm.environment.signal signal none, hm.world⟩) trivial

/-! ### What goes beyond it -/

lemma safe_perform (hhost : host.Steadfast unit P) (e : Effect) :
    Safe P (perform host unit e) := by
  refine Secures.get_bind fun m hm => ?_
  obtain ⟨w', hw', hP⟩ := hhost.apply e hm.world
  rw [hw']
  exact ⟨⟨hm.thread, hm.environment, hP⟩, trivial⟩

lemma min_le_max (a b : Int32) : min a b ≤ max a b := by
  show (if a ≤ b then a else b) ≤ if a ≤ b then b else a
  split
  · assumption
  · simp only [Int32.le_iff_toInt_le] at *
    omega

/-- The range is put the right way around before the draw. -/
lemma safe_draw (hhost : host.Steadfast unit P) (a b : Int32) : Safe P (draw host a b) := by
  refine Secures.get_bind fun m hm => ?_
  obtain ⟨v, w', hw', hP⟩ := hhost.random (min_le_max a b) hm.world
  rw [hw']
  exact ⟨⟨hm.thread, hm.environment, hP⟩, trivial⟩

lemma safe_setValue (hhost : host.Steadfast unit P) (number n : Int32) :
    Safe P (setValue host unit number n) := by
  rw [setValue]
  split
  · exact safe_fault _
  · split
    · exact safe_perform hhost _
    · exact .pure _
    · exact safe_fault _

/-- No instruction but a start can stop everything. -/
lemma safe_execute (hhost : host.Steadfast unit P) {i : Instruction} (hop : i.opcode ≠ .start) :
    Safe P (execute host unit i) := by
  rw [execute]
  cases h : i.opcode with
  | start => exact absurd h hop
  | binary =>
    exact safe_pop.bind fun _ => safe_pop.bind fun _ => (safe_push _).bind fun _ => .pure _
  | unary => exact safe_pop.bind fun _ => (safe_push _).bind fun _ => .pure _
  | random =>
    exact safe_pop.bind fun _ => safe_pop.bind fun _ => (safe_draw hhost _ _).bind fun _ =>
      (safe_push _).bind fun _ => .pure _
  | jump => exact (safe_jumpTo _).bind fun _ => .pure _
  | jumpIfZero =>
    refine safe_pop.bind fun v => ?_
    split
    · exact (safe_jumpTo _).bind fun _ => .pure _
    · exact .pure _
  | move | turn | spin =>
    exact (safe_axisOf _).bind fun _ => safe_pop.bind fun _ => safe_pop.bind fun _ => .pure _
  | moveNow | turnNow | stopSpin =>
    exact (safe_axisOf _).bind fun _ => safe_pop.bind fun _ => .pure _
  | waitForMove | waitForTurn => exact (safe_axisOf _).bind fun _ => .pure _
  | sleep => exact safe_pop.bind fun _ => .pure _
  | explode | emitSmoke =>
    exact (safe_pieceName _).bind fun _ => safe_pop.bind fun _ =>
      (safe_perform hhost _).bind fun _ => .pure _
  | showPiece | hidePiece | shade | dontShade =>
    exact (safe_pieceName _).bind fun _ => (safe_perform hhost _).bind fun _ => .pure _
  | cache | dontCache => exact .pure _
  | attachUnit => exact safe_pop.bind fun _ => safe_pop.bind fun _ => .pure _
  | dropUnit | drop => exact safe_pop.bind fun _ => .pure _
  | call => exact (safe_popMany _).bind fun _ => (safe_call _ _).bind fun _ => .pure _
  | leave =>
    exact safe_pop.bind fun v => (safe_modifyThread fun _ ht => ht.leave v).bind fun _ => .pure _
  | signal => exact safe_pop.bind fun _ => (safe_signal _).bind fun _ => .pure _
  | setMask => exact safe_pop.bind fun _ => (safe_setMask _).bind fun _ => .pure _
  | createLocal =>
    exact (safe_modifyThread fun _ ht => ht.modifyFrame fun _ hf => hf.declare).bind fun _ =>
      .pure _
  | pushConstant => exact (safe_push _).bind fun _ => .pure _
  | pushLocal => exact (safe_getLocal _).bind fun _ => (safe_push _).bind fun _ => .pure _
  | popLocal => exact safe_pop.bind fun _ => (safe_setLocal _ _).bind fun _ => .pure _
  | pushStatic =>
    refine Safe.get.bind fun m => ?_
    split
    · exact (safe_push _).bind fun _ => .pure _
    · exact safe_fault _
  | popStatic =>
    refine safe_pop.bind fun v => Secures.get_bind fun m hm => ?_
    cases hset : m.environment.setStatic i.first v with
    | ok environment => exact ⟨⟨hm.thread, hm.environment.setStatic hset, hm.world⟩, trivial⟩
    | error e => exact ⟨hm, trivial⟩
  | getValue =>
    exact safe_pop.bind fun _ => (safe_getValue _ _ _).bind fun _ => (safe_push _).bind fun _ =>
      .pure _
  | getValueWithArgs =>
    exact safe_pop.bind fun _ => safe_pop.bind fun _ => safe_pop.bind fun _ =>
      safe_pop.bind fun _ => safe_pop.bind fun _ => (safe_getValue _ _ _).bind fun _ =>
      (safe_push _).bind fun _ => .pure _
  | setValue =>
    exact safe_pop.bind fun _ => safe_pop.bind fun _ => (safe_setValue hhost _ _).bind fun _ =>
      .pure _

variable {m : Machine σ}

lemma Fit.fetched (hm : Fit P m) : Fit P m.fetched := (safe_fetch m hm).1

/-- A step keeps a machine fit; it stops everything only if a thread is started for which there is
no number left. -/
theorem Fit.step (hhost : host.Steadfast unit P) (hm : Fit P m) :
    Fit P ((step host unit).run.run m).2 ∧
      ∀ cause, ((step host unit).run.run m).1 = .error (.halt cause) → m.StartsBeyond := by
  cases hi : m.instruction? with
  | none =>
    rcases step_of_none host unit hi with hstep | ⟨e, hfetch, hstep⟩
    · rw [hstep]
      exact ⟨hm, nofun⟩
    · have hfault := (safe_fetch m hm).2
      rw [hfetch] at hfault
      rw [hstep]
      refine ⟨hm.fetched, fun cause hcause => ?_⟩
      cases hcause
      exact absurd hfault id
  | some i =>
  by_cases hop : i.opcode = .start
  · have hdrop : (m.fetched.thread.dropMany i.second.toNat).Counted :=
      hm.fetched.thread.of_frames rfl
    rw [step_start hi hop]
    cases hstart : m.environment.startThread i.first (m.thread.topMany i.second.toNat)
      m.thread.mask with
    | ok p => exact ⟨⟨hdrop, hm.environment.startThread hstart, hm.world⟩, nofun⟩
    | error failure =>
      refine ⟨⟨hdrop, hm.environment, hm.world⟩, fun cause hcause => ?_⟩
      cases hcause
      exact ⟨⟨i, hi, hop⟩, startThread_eq_halt hstart⟩
  · obtain ⟨hfit, hfault⟩ := safe_execute hhost hop m.fetched hm.fetched
    rw [step_of_instruction hi]
    refine ⟨hfit, fun cause hcause => ?_⟩
    rw [hcause] at hfault
    exact absurd hfault id

end Machine

end Lockstep.Script
