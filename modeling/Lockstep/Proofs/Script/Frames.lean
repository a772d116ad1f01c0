import Mathlib.Tactic.Lemma
import Lockstep.Script.Machine
/-!
# Counting local variables

A frame counts the local variables that have been declared, and nothing that a thread does lets the
counter get beyond the variables that there are.  This holds of the frames of a thread, and of all
threads that are stored.
-/

namespace Lockstep.Script

/-- A frame has as many variables as it has counted. -/
def Frame.Counted (f : Frame) : Prop := f.declared ≤ f.locals.length

/-- All frames of a thread have as many variables as they have counted. -/
def Thread.Counted (t : Thread) : Prop := ∀ f ∈ t.frames, f.Counted

/-- All threads that are stored have as many variables as they have counted. -/
def Environment.Counted (env : Environment) : Prop :=
  ∀ n t, env.threads.get? n = some t → t.Counted

lemma Frame.counted_enter (address : Nat) (params : List Int32) :
    (Frame.enter address params).Counted := Nat.zero_le _

/-- A variable is added when the counter has caught up with the variables. -/
lemma Frame.Counted.declare {f : Frame} (h : f.Counted) : f.declare.Counted := by
  rw [Frame.Counted] at h
  simp only [Frame.Counted, Frame.declare]
  split
  · rw [List.length_append, List.length_singleton]
    omega
  · omega

namespace Thread

variable {t t' : Thread}

lemma counted_start (name : String) (address : Nat) (params : List Int32) (mask : UInt32) :
    (Thread.start name address params mask).Counted := by
  intro f hf
  cases List.mem_singleton.1 hf
  exact Frame.counted_enter address params

lemma Counted.of_frames (h : t.Counted) (hframes : t'.frames = t.frames) : t'.Counted := by
  rw [Counted, hframes]
  exact h

lemma Counted.modifyFrame (h : t.Counted) {g : Frame → Frame}
    (hg : ∀ f, f.Counted → (g f).Counted) : (t.modifyFrame g).Counted := by
  rcases t with ⟨name, stack, _ | ⟨frame, rest⟩, mask, result, locals, state⟩
  · exact h
  · intro f hf
    rcases List.mem_cons.1 hf with rfl | hf
    · exact hg frame (h frame List.mem_cons_self)
    · exact h f (List.mem_cons_of_mem frame hf)

lemma Counted.enter (h : t.Counted) (address : Nat) (params : List Int32) :
    Thread.Counted { t with frames := Frame.enter address params :: t.frames } := by
  intro f hf
  rcases List.mem_cons.1 hf with rfl | hf
  · exact Frame.counted_enter address params
  · exact h f hf

lemma Counted.leave (h : t.Counted) (v : Int32) : (t.leave v).Counted := by
  rcases t with ⟨name, stack, _ | ⟨frame, rest⟩, mask, result, locals, state⟩
  · exact h
  · exact fun f hf => h f (List.mem_cons_of_mem frame hf)

end Thread

namespace Environment

variable {env env' : Environment} {n : ThreadId} {t : Thread}

lemma counted_new (program : Program) : (Environment.new program).Counted := by
  intro n t h
  cases h

lemma Counted.of_threads (h : env.Counted) (hthreads : env'.threads = env.threads) :
    env'.Counted := by
  rw [Counted, hthreads]
  exact h

lemma Counted.putThread (h : env.Counted) (n : ThreadId) (ht : t.Counted) :
    (env.putThread n t).Counted := by
  intro k t' hget
  rw [Environment.putThread, SortedTable.get?_insert] at hget
  split at hget
  · cases hget
    exact ht
  · exact h k t' hget

lemma Counted.removeThread (h : env.Counted) (n : ThreadId) : (env.removeThread n).Counted := by
  intro k t hget
  rw [Environment.removeThread, SortedTable.get?_erase] at hget
  split at hget
  · cases hget
  · exact h k t hget

lemma Counted.signal (h : env.Counted) (signal : UInt32) (sender : Option ThreadId) :
    (env.signal signal sender).Counted := by
  intro n t hget
  refine h n t (SortedTable.get?_eq_some_iff.2 ?_)
  exact (List.mem_filter.1 (SortedTable.get?_eq_some_iff.1 hget)).1

lemma Counted.setStatic (h : env.Counted) {index : UInt32} {v : Int32}
    (hset : env.setStatic index v = .ok env') : env'.Counted := by
  rw [Environment.setStatic] at hset
  split at hset
  · cases hset
    exact h.of_threads rfl
  · cases hset

lemma Counted.startThread (h : env.Counted) {function : UInt32} {params : List Int32}
    {mask : UInt32} (hstart : env.startThread function params mask = .ok (n, env')) :
    env'.Counted := by
  rw [Environment.startThread] at hstart
  split at hstart
  · cases hstart
  · split at hstart
    · cases hstart
    · cases hstart
      exact (h.putThread _ (Thread.counted_start _ _ params mask)).of_threads rfl

lemma Counted.startNamed (h : env.Counted) {name : String} {params : List Int32}
    {answer : Option ThreadId} (hstart : env.startNamed name params = .ok (answer, env')) :
    env'.Counted := by
  rw [Environment.startNamed] at hstart
  split at hstart
  · cases hstart
    exact h
  · rename_i function _
    cases hthread : env.startThread function params 0 with
    | error failure =>
      rw [hthread] at hstart
      cases hstart
    | ok p =>
      rw [hthread] at hstart
      cases hstart
      exact h.startThread hthread

end Environment

end Lockstep.Script
