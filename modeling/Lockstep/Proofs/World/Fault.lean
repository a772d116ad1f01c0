import Lockstep.Proofs.Script.Fault
import Lockstep.Proofs.World.Run
import Lockstep.Proofs.World.Resume
import Lockstep.Script.Recorder
/-!
# Faulty threads leave no trace

A thread that turns out to be faulty is given up, and what its last instruction would have done has
not been done in part either.  For a thread of a unit this includes motions: the number of a piece
is looked up before anything moves.
-/

namespace Lockstep.World

open Script (Environment Machine Motion Program Thread)
open Script.Machine (Advances Related atomic_step related_of_step_eq_some run_eq_fault
  run_pieceName)

variable {id : UnitId} {m m' : Machine World} {e : ScriptError}

/-- A motion is faulty only if there is no such piece, which is found out before all else. -/
lemma applyMotion_eq_fault {piece : UInt32} {axis : Axis} {motion : Motion}
    (h : (applyMotion id piece axis motion).run.run m = (.error (.fault e), m')) :
    m.environment.program.pieceName? piece = none ∧ e = .unknownPiece piece ∧ m' = m := by
  rw [applyMotion, run_bind, run_pieceName] at h
  cases hpiece : m.environment.program.pieceName? piece with
  | none =>
    rw [hpiece] at h
    cases h
    exact ⟨rfl, rfl, rfl⟩
  | some name =>
    rw [hpiece] at h
    simp only [run_get_bind] at h
    -- what the world answers to the motion is no fault
    split at h <;> cases h

/-- Whatever a thread cannot carry out has touched the thread only. -/
lemma Stumbles.related (h : Stumbles id e m m') : Related Eq Eq m m' := by
  cases h with
  | step h => exact atomic_step m m' e h
  | motion m₁ piece axis motion hstep hmotion =>
    obtain ⟨-, -, rfl⟩ := applyMotion_eq_fault hmotion
    exact related_of_step_eq_some hstep

/-- A thread that is faulty has gone on up to where it stumbles. -/
lemma Runs.stumbles (h : Runs id m (.error e) m') :
    ∃ m₁, Relation.ReflTransGen (Proceeds id) m m₁ ∧ Stumbles id e m₁ m' := by
  generalize hr : (Except.error e : Except ScriptError (Option Script.ThreadState)) = r at h
  induction h with
  | step hstep _ ih =>
    obtain ⟨m₁, hpath, hlast⟩ := ih hr
    exact ⟨m₁, .head (.step hstep) hpath, hlast⟩
  | motion hstep hmotion _ ih =>
    obtain ⟨m₁, hpath, hlast⟩ := ih hr
    exact ⟨m₁, .head (.motion _ _ _ _ hstep hmotion) hpath, hlast⟩
  | faulty hstep =>
    cases hr
    exact ⟨_, .refl, .step hstep⟩
  | faultyMotion hstep hmotion =>
    cases hr
    exact ⟨_, .refl, .motion _ _ _ _ hstep hmotion⟩
  | _ => cases hr

lemma resume_eq_fault {budget : Nat}
    (h : (resume id budget).run.run m = (.error (.fault e), m')) : Runs id m (.error e) m' := by
  rcases resume_cases id budget m with ⟨cause, hcause⟩ | ⟨r, m₁, hr, hruns⟩
  · rw [h] at hcause
    cases hcause
  · rw [h] at hr
    rcases r with e | state <;> cases hr
    exact hruns

/-- A thread that is faulty, be it run against any host or for a unit of the world, has carried out
some instructions one after the other; the next one is faulty.  The world and the script state, with
its variables and all other threads, are as they were before that one. -/
theorem fault_leaves_no_trace :
    (∀ {σ : Type} (host : Script.Host σ) (unit : UnitId) (budget : Nat) (m m' : Machine σ)
        (e : ScriptError), (Machine.run host unit budget).run.run m = (.error (.fault e), m') →
      ∃ m₁, Relation.ReflTransGen (Advances host unit) m m₁ ∧
        (Machine.step host unit).run.run m₁ = (.error (.fault e), m') ∧
        m'.world = m₁.world ∧ m'.environment = m₁.environment) ∧
    (∀ (id : UnitId) (budget : Nat) (m m' : Machine World) (e : ScriptError),
        (resume id budget).run.run m = (.error (.fault e), m') →
      ∃ m₁, Relation.ReflTransGen (Proceeds id) m m₁ ∧ Stumbles id e m₁ m' ∧
        m'.world = m₁.world ∧ m'.environment = m₁.environment) := by
  constructor
  · intro σ host unit budget m m' e h
    obtain ⟨m₁, hpath, hlast⟩ := run_eq_fault h
    obtain ⟨henvironment, hworld⟩ := atomic_step m₁ m' e hlast
    exact ⟨m₁, hpath, hlast, hworld.symm, henvironment.symm⟩
  · intro id budget m m' e h
    obtain ⟨m₁, hpath, hlast⟩ := (resume_eq_fault h).stumbles
    obtain ⟨henvironment, hworld⟩ := hlast.related
    exact ⟨m₁, hpath, hlast, hworld.symm, henvironment.symm⟩

namespace Sample

/-- A script that writes a variable which exists and then one which does not. -/
def strayWrite : Program where
  words := #[Script.Opcode.word .pushConstant, 3, Script.Opcode.word .popStatic, 0,
    Script.Opcode.word .pushConstant, 5, Script.Opcode.word .popStatic, 9]
  functions := [⟨"Create", 0⟩]
  pieces := []
  staticCount := 1

/-- A script that writes a variable and then moves a piece which does not exist. -/
def strayMotion : Program where
  words := #[Script.Opcode.word .pushConstant, 3, Script.Opcode.word .popStatic, 0,
    Script.Opcode.word .pushConstant, 5, Script.Opcode.word .moveNow, 7, 1]
  functions := [⟨"Create", 0⟩]
  pieces := ["base"]
  staticCount := 1

/-- The first function of a script is about to be run. -/
def about {σ : Type} (world : σ) (program : Program) : Machine σ :=
  ⟨world, .new program, .start "Create" 0 [] 0⟩

end Sample

/-- A write of a missing variable, and a motion of a missing piece, each after a write. -/
theorem fault_leaves_no_trace_stray :
    (∃ m', (Machine.run Script.Recorder.host ⟨0⟩ 9).run.run
        (Sample.about (.new 0) Sample.strayWrite) = (.error (.fault (.noStatic 9 1)), m') ∧
      ∃ m₁, Relation.ReflTransGen (Advances Script.Recorder.host ⟨0⟩)
          (Sample.about (.new 0) Sample.strayWrite) m₁ ∧
        m'.world = m₁.world ∧ m'.environment = m₁.environment) ∧
    (∃ m', (resume ⟨0⟩ 9).run.run (Sample.about Sample.start Sample.strayMotion) =
        (.error (.fault (.unknownPiece 7)), m') ∧
      ∃ m₁, Relation.ReflTransGen (Proceeds ⟨0⟩) (Sample.about Sample.start Sample.strayMotion) m₁ ∧
        m'.world = m₁.world ∧ m'.environment = m₁.environment) := by
  have hwrite : (Machine.run Script.Recorder.host ⟨0⟩ 9).run.run
      (Sample.about (.new 0) Sample.strayWrite) = (.error (.fault (.noStatic 9 1)), _) :=
    Prod.ext (by decide +kernel) rfl
  have hmotion : (resume ⟨0⟩ 9).run.run (Sample.about Sample.start Sample.strayMotion) =
      (.error (.fault (.unknownPiece 7)), _) := Prod.ext (by decide +kernel) rfl
  obtain ⟨m₁, hpath, -, hsame⟩ := fault_leaves_no_trace.1 _ _ _ _ _ _ hwrite
  obtain ⟨m₂, hpath', -, hsame'⟩ := fault_leaves_no_trace.2 _ _ _ _ _ hmotion
  exact ⟨⟨_, hwrite, m₁, hpath, hsame⟩, _, hmotion, m₂, hpath', hsame'⟩

end Lockstep.World
