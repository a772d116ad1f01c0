import Lockstep.Proofs.Script.Frame
import Lockstep.Proofs.World.Pieces
import Lockstep.World.Tick
/-!
# What reaches the world from the scripts of a unit

Whatever words the threads of a unit run, only few kinds of writes ever come of it: numbers are
drawn, events are told and notices made; pieces and flags of the unit are changed; its yard is
opened or closed; and units on its footprint are told to leave it.  A relation between worlds that
these respect is respected by every thread that is resumed, visited or run for its answer.  While
threads run, the script state is taken out of the unit; a relation that respects this too is
respected by all that the scripts of a unit do.
-/

namespace Lockstep.World

open Script (Effect Environment Exec Machine Motion Thread)

/-- A change of what the scripts of a unit may write in the unit itself. -/
def Personal (f : UnitState → UnitState) : Prop :=
  ∀ u, f u = { u with
    pieces := (f u).pieces
    activated := (f u).activated
    inBuildStance := (f u).inBuildStance
    fireOrders := (f u).fireOrders
    moveOrders := (f u).moveOrders
    armored := (f u).armored }

/-- A thread is resumed as often as it only waits for a motion to be set going; the induction is on
the budget. -/
lemma respects_resume_of {id : UnitId} {R : Machine World → Machine World → Prop}
    [IsPreorder (Machine World) R] (hstep : Respects R (Machine.step host id))
    (hmotion : ∀ piece axis motion, Respects R (applyMotion id piece axis motion)) (budget : Nat) :
    Respects R (resume id budget) := by
  induction budget with
  | zero => exact Respects.throw _
  | succ budget ih =>
    rw [resume]
    refine hstep.bind fun status => ?_
    split
    · exact ih
    · exact .pure _
    · exact (hmotion _ _ _).bind fun _ => ih
    · exact .pure _
    · exact .pure _
    · exact Respects.get.bind fun _ => .pure _

/-- To start a thread is to make a notice if the scripts of the unit are running, or else to put the
script state with the new thread in its place. -/
lemma respects_startScript {R : World → World → Prop} [IsPreorder World R] {id : UnitId}
    {function : String} {params : List Int32} (hnote : ∀ (n : Notice) (w : World), R w (w.note n))
    (hstart : ∀ {w u env thread env'}, w.units.get? id = some u → u.environment = some env →
      env.startNamed function params = .ok (thread, env') → R w (w.attachEnvironment id env')) :
    Respects R (startScript id function params) := by
  intro w
  show R w ((startScript id function params).on w).2
  simp only [startScript, Action.on_get_bind, Action.on_require_bind]
  cases hu : w.unit id with
  | error cause => exact refl_of R w
  | ok u =>
  simp only
  cases henv : u.environment with
  | none => exact hnote _ w
  | some env =>
  simp only
  cases hs : env.startNamed function params with
  | error failure => cases failure <;> exact refl_of R w
  | ok started => exact hstart (unit_eq_ok.1 hu) henv hs

/-- What the scripts of a unit tell: something that happens to the unit while it is on the map. -/
def OfScript (id : UnitId) : Event → Prop
  | .activated unit | .deactivated unit | .effect unit _ _ => unit = id
  | .spawned _ | .removed _ => False

/-- The writes that come of the scripts of a unit are respected, but for those on its yard. -/
structure CalmLaw (id : UnitId) (W : World → World → Prop) : Prop where
  /-- Numbers are drawn. -/
  draw : ∀ (w : World) random, W w { w with random := random }
  /-- Events are told. -/
  tell : ∀ {e : Event}, OfScript id e → ∀ w : World, W w (w.tell e)
  /-- Notices are made. -/
  note : ∀ (n : Notice) (w : World), W w (w.note n)
  /-- The unit itself is changed; no speeds are made that are not words. -/
  own : ∀ {f}, Personal f → ∀ w : World, (w.Bounded → ∀ u, u.Bounded → (f u).Bounded) →
    W w (w.modifyUnit id f)
  /-- Others are told to leave the footprint. -/
  leave : Respects W (emitBuggerOff id)

/-- The writes that come of the scripts of a unit are respected. -/
structure ScriptLaw (id : UnitId) (W : World → World → Prop) : Prop extends CalmLaw id W where
  /-- The yard is opened or closed. -/
  yard : ∀ isOpen, Respects W (trySetYardOpen id isOpen)

variable {id : UnitId} {W : World → World → Prop} {w w' : World}

namespace CalmLaw

lemma mono {W' : World → World → Prop} (law : CalmLaw id W) (h : ∀ w w', W w w' → W' w w') :
    CalmLaw id W' where
  draw w random := h _ _ (law.draw w random)
  tell he w := h _ _ (law.tell he w)
  note n w := h _ _ (law.note n w)
  own hf w hbounded := h _ _ (law.own hf w hbounded)
  leave := law.leave.mono h

variable (law : CalmLaw id W) [IsPreorder World W]
include law

/-! ### Effects and motions -/

lemma respects_updateUnit {f : UnitState → UnitState} (hf : Personal f)
    (hpieces : ∀ u, (f u).pieces = u.pieces) : Respects W (updateUnit id f) :=
  Respects.get.bind fun _ => (Action.respects_require _).bind fun _ =>
    .modify fun w => law.own hf w fun _ u hu => hu.of_pieces (hpieces u)

lemma respects_updatePiece (name : String) {f : Piece → Except Overflow Piece}
    (hf : ∀ {p q : Piece}, p.Bounded → f p = .ok q → q.Bounded) :
    Respects W (updatePiece id name f) := by
  refine World.respects_updatePiece (fun {w u i p q} hu hp hq => ?_) name
  refine law.own (fun u => rfl) w fun hw v hv => ?_
  exact hv.setPiece i (hf (hw id u hu p (List.mem_of_getElem? hp)) hq)

/-- A refusal leaves a notice and nothing else. -/
lemma of_reporting {operation : String} {a : Action Unit} (ha : Respects W a)
    (h : reporting operation a w = .ok w') : W w w' := by
  have hw : W w (a.on w).2 := ha w
  rw [reporting] at h
  revert hw h
  rcases a.on w with ⟨(cause | cause) | _, w₁⟩ <;> intro h hw
  · cases h
    exact trans_of W hw (law.note _ w₁)
  · cases h
  · cases h
    exact hw

lemma of_applyEffect {e : Effect} (hyard : ∀ isOpen, e ≠ .yard isOpen)
    (h : applyEffect id e w = .ok w') : W w w' := by
  cases e with
  | visible piece value =>
    have hpiece : Respects W (setPieceVisible id piece value) :=
      law.respects_updatePiece piece fun h => .of_ok (h.of_turns rfl)
    exact law.of_reporting hpiece h
  | shaded piece value =>
    have hpiece : Respects W (setPieceShaded id piece value) :=
      law.respects_updatePiece piece fun h => .of_ok (h.of_turns rfl)
    exact law.of_reporting hpiece h
  | emit piece effect =>
    cases h
    exact law.tell (e := .effect id piece effect) rfl w
  | activation value =>
    refine law.of_reporting ?_ h
    refine (law.respects_updateUnit ?_ ?_).bind fun _ => .modify (law.tell ?_)
    · exact fun _ => rfl
    · exact fun _ => rfl
    · cases value <;> rfl
  | buildStance value =>
    refine law.of_reporting (law.respects_updateUnit ?_ ?_) h <;> exact fun _ => rfl
  | yard value => exact absurd rfl (hyard value)
  | buggerOff value =>
    refine law.of_reporting ?_ h
    rw [setBuggerOff]
    split
    · exact law.leave
    · exact .pure _
  | moveOrders value =>
    refine law.of_reporting (law.respects_updateUnit ?_ ?_) h <;> exact fun _ => rfl
  | fireOrders value =>
    refine law.of_reporting (law.respects_updateUnit ?_ ?_) h <;> exact fun _ => rfl
  | armored value =>
    refine law.of_reporting (law.respects_updateUnit ?_ ?_) h <;> exact fun _ => rfl

omit [IsPreorder World W] in
lemma of_random {low high v : Int32} (h : host.random low high w = .ok (v, w')) : W w w' := by
  simp only [host] at h
  cases hr : w.random.betweenSigned low high with
  | error cause => rw [hr] at h; cases h
  | ok p =>
    rw [hr] at h
    cases h
    exact law.draw w _

lemma respects_motionAction (piece : String) (axis : Axis) (m : Motion) :
    Respects W (motionAction id piece axis m) := by
  cases m with
  | move position speed =>
    exact law.respects_updatePiece piece fun h => .of_ok (h.moveTo axis _ _)
  | moveNow position =>
    exact law.respects_updatePiece piece fun h => .of_ok (h.moveNow axis _)
  | turn angle speed =>
    exact law.respects_updatePiece piece fun h =>
      .of_ok (h.turnTo axis _ (fitsSigned_toInt _))
  | turnNow angle =>
    exact law.respects_updatePiece piece fun h => .of_ok (h.turnNow axis _)
  | spin targetSpeed acceleration =>
    exact law.respects_updatePiece piece fun h hq => h.spin (fitsSigned_toInt _) hq
  | stopSpin deceleration => exact law.respects_updatePiece piece fun h hq => h.stopSpin hq

lemma respects_applyMotion {E : Environment → Environment → Prop} [IsPreorder Environment E]
    (piece : UInt32) (axis : Axis) (motion : Motion) :
    Respects (Machine.Related E W) (applyMotion id piece axis motion) := by
  refine (Machine.respects_pieceName piece).bind fun name => Respects.get_bind fun m => ?_
  have hm : W m.world ((motionAction id name axis motion).on m.world).2 :=
    law.respects_motionAction name axis motion m.world
  revert hm
  rcases (motionAction id name axis motion).on m.world with ⟨(cause | cause) | _, w₁⟩ <;> intro hm
  · exact ⟨refl_of E m.environment, trans_of W hm (law.note _ w₁)⟩
  · exact ⟨refl_of E m.environment, hm⟩
  · exact ⟨refl_of E m.environment, hm⟩

end CalmLaw

namespace ScriptLaw

lemma mono {W' : World → World → Prop} (law : ScriptLaw id W) (h : ∀ w w', W w w' → W' w w') :
    ScriptLaw id W' where
  toCalmLaw := law.toCalmLaw.mono h
  yard isOpen := (law.yard isOpen).mono h

variable (law : ScriptLaw id W) [IsPreorder World W]
include law

lemma of_applyEffect {e : Effect} (h : applyEffect id e w = .ok w') : W w w' := by
  by_cases hyard : ∃ isOpen, e = .yard isOpen
  · obtain ⟨isOpen, rfl⟩ := hyard
    exact law.of_reporting ((law.yard isOpen).bind fun _ => .pure _) h
  · exact law.toCalmLaw.of_applyEffect (not_exists.1 hyard) h

/-! ### Threads -/

/-- No matter what is asked of the script state, the world sees only the few writes. -/
lemma machineLaw {E : Environment → Environment → Prop} (hE : Machine.EnvironmentLaw E) :
    Machine.Law host id E W where
  toEnvironmentLaw := hE
  apply := law.of_applyEffect
  random := law.of_random

section Resume

variable {E : Environment → Environment → Prop} [IsPreorder Environment E]

lemma respects_resume (hE : Machine.EnvironmentLaw E) (budget : Nat) :
    Respects (Machine.Related E W) (resume id budget) :=
  respects_resume_of (law.machineLaw hE).respects_step law.respects_applyMotion budget

end Resume

omit law [IsPreorder World W] in
/-- A law that asks for nothing. -/
lemma environmentLaw_true : Machine.EnvironmentLaw fun _ _ => True :=
  ⟨fun _ => trivial, fun _ _ => trivial, fun _ => trivial⟩

lemma of_resume (budget : Nat) (m : Machine World) :
    W m.world (((resume id budget).run.run m).2).world :=
  have : IsPreorder Environment fun _ _ => True :=
    { refl := fun _ => trivial, trans := fun _ _ _ _ _ => trivial }
  (law.respects_resume environmentLaw_true budget m).2

lemma respects_resumeThread (budget : Nat) (thread : ThreadId) (t : Thread)
    (env : Environment) : Respects W (resumeThread budget id thread t env) := by
  refine Respects.get_bind fun w => ?_
  have hm := law.of_resume budget ⟨w, env, { t with state := .ready }⟩
  revert hm
  rcases (resume id budget).run.run ⟨w, env, { t with state := .ready }⟩ with
    ⟨(error | cause) | (_ | state), m⟩ <;> intro hm
  · exact trans_of W hm (law.note _ m.world)
  · exact hm
  · exact hm
  · exact hm

lemma respects_visitThread (budget : Nat) (env : Environment) (thread : ThreadId) :
    Respects W (visitThread budget id env thread) := by
  rw [visitThread]
  split
  · exact .pure _
  · refine Respects.get.bind fun w => ?_
    split
    · exact .pure _
    · exact Respects.bind (.modify (law.note _)) fun _ => .pure _
    · exact law.respects_resumeThread _ _ _ _
    · exact Respects.bind (.modify (law.note _)) fun _ => law.respects_resumeThread _ _ _ _

lemma respects_runForAnswer (budget : Nat) (function : String) (t : Thread) (env : Environment) :
    Respects W (runForAnswer budget id function t env) := by
  refine Respects.get_bind fun w => ?_
  have hm := law.of_resume budget ⟨w, env, t⟩
  revert hm
  rcases (resume id budget).run.run ⟨w, env, t⟩ with
    ⟨(error | cause) | (_ | state), m⟩ <;> intro hm
  · exact trans_of W hm (law.note _ m.world)
  · exact hm
  · exact hm
  · exact hm

/-! ### The script state in and out of the unit -/

variable (hdetach : ∀ w : World, W w (w.detachEnvironment id))
  (hattach : ∀ (env : Environment) (w : World), W w (w.attachEnvironment id env))
include hdetach hattach

theorem respects_runUnitScripts (budget : Nat) : Respects W (runUnitScripts budget id) := by
  refine Respects.get.bind fun _ => (Action.respects_require _).bind fun u => ?_
  split
  · exact .pure _
  · exact Respects.bind (.modify hdetach) fun _ =>
      Respects.bind (.foldlM (fun env thread _ => law.respects_visitThread budget env thread) _)
        fun env => .modify (hattach env)

theorem respects_runQuery (budget : Nat) (function : String) (params : List Int32) :
    Respects W (runQuery budget id function params) := by
  refine Respects.get.bind fun _ => (Action.respects_require _).bind fun u => ?_
  split
  · exact .pure _
  · refine Respects.bind (.modify hdetach) fun _ => ?_
    -- whatever the answer is, the script state that comes with it is put back
    have attach : ∀ (answer : Option (List Int32)) (env : Environment), Respects W
        (do modify (·.attachEnvironment id env); return answer : Action (Option (List Int32))) :=
      fun answer env => Respects.bind (.modify (hattach env)) fun _ => .pure _
    split
    · exact Respects.bind (.throw _) fun p => attach p.1 p.2
    · exact Respects.bind (.pure _) fun p => attach p.1 p.2
    · exact Respects.bind (.pure _) fun p => attach p.1 p.2
    · split
      · exact Respects.bind (.pure _) fun p => attach p.1 p.2
      · exact Respects.bind (law.respects_runForAnswer _ _ _ _) fun p => attach p.1 p.2

end ScriptLaw

end Lockstep.World
