import Lockstep.Proofs.Script.Steadfast
import Lockstep.Proofs.World.Course
import Lockstep.Proofs.World.Reading
/-!
# Worlds in which scripts come through

In a sturdy world all units stand on the map, the sides of all grids are words, and so are the
speeds of all pieces; and all threads that are stored have counted no more variables than they have.
Every operation of a battle keeps a world sturdy, whether it answers, is refused or stops.  In such
a world the host comes through whatever a script asks for, and through the motions that it sets
going.
-/

namespace Lockstep

/-- The sides of all grids that a battle begins with are words. -/
structure Setup.Measured (s : Setup) : Prop where
  heights : s.terrain.heights.Measured
  yards : ∀ e ∈ s.definitions.unitTypes.toList, ∀ yard ∈ e.2.yardMap, yard.Measured

namespace World

open Script (Effect Environment Exec Failure Host Machine Motion Thread ThreadState)
open Script.Machine (Fit Safe)

/-- A world in which scripts can run, whatever they are. -/
structure Sturdy (w : World) : Prop extends Measured w, Ordered w where
  bounded : w.Bounded
  counted : ∀ {id env}, w.environment? id = some env → env.Counted
  nextUnit : 0 < w.nextUnit.toNat

/-- A write that keeps a world sturdy. -/
def Keeps (w w' : World) : Prop := Sturdy w → Sturdy w'

instance : IsPreorder World Keeps where
  refl _ h := h
  trans _ _ _ h h' hw := h' (h hw)

variable {w w' : World} {id : UnitId} {u : UnitState} {env : Environment}

namespace Sturdy

/-- A write on the plan has to leave the pieces and the threads in order. -/
lemma change (hw : Sturdy w) (h : Change w w') (hbounded : w'.Bounded)
    (hcounted : ∀ {id env}, w'.environment? id = some env → env.Counted) : Sturdy w' where
  toMeasured := hw.toMeasured.ground h.ground
  toOrdered := hw.toOrdered.change h
  bounded := hbounded
  counted := hcounted
  nextUnit := Nat.lt_of_lt_of_le hw.nextUnit h.nextUnit_le

lemma change_of_scripts (hw : Sturdy w) (h : Change w w') (hbounded : w'.Bounded)
    (hscripts : SameScripts w w') : Sturdy w' := by
  refine hw.change h hbounded fun {id env} henv => ?_
  rw [hscripts.environment? id] at henv
  exact hw.counted henv

lemma setEnvironment (hw : Sturdy w) (id : UnitId) {e : Option Environment}
    (he : ∀ env ∈ e, env.Counted) :
    Sturdy (w.modifyUnit id fun u => { u with environment := e }) := by
  have hplan : SamePlan w (w.modifyUnit id fun u => { u with environment := e }) :=
    samePlan_modifyUnit (f := fun u => { u with environment := e }) (fun _ => rfl) w
  have hbounded : (w.modifyUnit id fun u => { u with environment := e }).Bounded :=
    hw.bounded.modifyUnit (f := fun u => { u with environment := e })
      (fun _ hu => hu.of_pieces rfl) id
  refine hw.change (.calm hplan) hbounded fun {other env} henv => ?_
  rw [environment?_eq_join, modifyUnit, environments_modify] at henv
  split at henv
  · cases hu : w.units.get? other with
    | none => rw [hu] at henv; cases henv
    | some u =>
      rw [hu] at henv
      exact he env henv
  · rw [← environment?_eq_join] at henv
    exact hw.counted henv

lemma detachEnvironment (hw : Sturdy w) (id : UnitId) : Sturdy (w.detachEnvironment id) :=
  hw.setEnvironment id nofun

lemma attachEnvironment (hw : Sturdy w) (id : UnitId) (henv : env.Counted) :
    Sturdy (w.attachEnvironment id env) := by
  refine hw.setEnvironment id fun env' henv' => ?_
  cases henv'
  exact henv

/-- A unit that is put on the map has to be in order. -/
lemma tryAddUnit (hw : Sturdy w) (hu : u.Bounded)
    (henv : ∀ env, u.environment = some env → env.Counted) :
    Sturdy ((World.tryAddUnit u).on w).2 := by
  rcases tryAddUnit_cases u w with ⟨answer, hon, -⟩ | ⟨t, r, next, g, w', hon, hw', h⟩
  · rw [hon]
    exact hw
  · have hchange : Change w w' := by
      rcases h with h | ⟨yard, h⟩
      · exact .place _ _ t r h
      · exact .build _ _ t r yard h
    have hunits : w'.units = w.units.insert ⟨w.nextUnit⟩ u := by rw [hw']
    rw [hon]
    refine hw.change hchange ((hw.bounded.insert hu ⟨w.nextUnit⟩).of_units hunits) ?_
    intro other env' henv'
    rw [environment?, hunits, SortedTable.get?_insert] at henv'
    split at henv'
    · exact henv env' henv'
    · exact hw.counted henv'

lemma removeUnit (hw : Sturdy w) (id : UnitId) : Sturdy (w.removeUnit id) := by
  by_cases hid : w.unitExists id = true
  · have hunits : (w.removeUnit id).units = w.units.erase id := by
      rw [World.removeUnit, if_pos hid]
    have herase : ∀ {other u}, (w.removeUnit id).units.get? other = some u →
        w.units.get? other = some u := by
      intro other u hu
      rw [hunits, SortedTable.get?_erase] at hu
      split at hu
      · cases hu
      · exact hu
    refine hw.change (.remove id (removed_removeUnit hid))
      (fun other u hu => hw.bounded other u (herase hu)) fun {other env} henv => ?_
    obtain ⟨u, hu, henv⟩ := Option.bind_eq_some_iff.1 henv
    exact hw.counted (environment?_eq_some (herase hu) henv)
  · rw [World.removeUnit, if_neg hid]
    exact hw

end Sturdy

/-! ### Scripts -/

lemma Quiet.keeps (h : Quiet w w') : Keeps w w' := fun hw =>
  hw.change_of_scripts (.calm h.plan) (h.bounded hw.bounded) h.scripts

lemma keeps_trySetYardOpen (isOpen : Bool) : Respects Keeps (trySetYardOpen id isOpen) := by
  intro w hw
  have hscripts : SameScripts w ((trySetYardOpen id isOpen).on w).2 :=
    (scripted_trySetYardOpen isOpen w).scripts
  show Sturdy ((trySetYardOpen id isOpen).on w).2
  rcases trySetYardOpen_cases id isOpen w with ⟨h, -⟩ | ⟨b, t, r, yard, g, -, hw', h⟩
  · rw [h]
    exact hw
  · refine hw.change_of_scripts (.toggle id b isOpen t r yard h) ?_ hscripts
    have hunits : ((trySetYardOpen id isOpen).on w).2.units =
        (w.modifyUnit id fun u => { u with yardOpen := isOpen }).units := by rw [hw']; rfl
    exact (hw.bounded.modifyUnit (f := fun u => { u with yardOpen := isOpen })
      (fun _ hu => hu.of_pieces rfl) id).of_units hunits

lemma scriptLaw_keeps (id : UnitId) : ScriptLaw id Keeps where
  draw _ _ := Quiet.keeps (.of_units rfl rfl rfl rfl rfl rfl rfl (Nat.le_refl _))
  tell _ w := (quiet_tell _ w).keeps
  note n w := (quiet_note n w).keeps
  own hf w hbounded := (quiet_modifyUnit hf.steady w hbounded).keeps
  yard := keeps_trySetYardOpen
  leave := quiet_emitBuggerOff.mono fun _ _ => Quiet.keeps

lemma reporting_eq_ok {operation : String} {a : Action Unit}
    (h : ∀ cause, (a.on w).1 ≠ .error (.halt cause)) : ∃ w', reporting operation a w = .ok w' := by
  rw [reporting]
  revert h
  rcases a.on w with ⟨(cause | cause) | _, w'⟩ <;> intro h
  · exact ⟨_, rfl⟩
  · exact absurd rfl (h cause)
  · exact ⟨_, rfl⟩

lemma updateUnit_ne_halt (id : UnitId) (f : UnitState → UnitState) (w : World) (cause : Halt) :
    ((updateUnit id f).on w).1 ≠ .error (.halt cause) := by
  simp only [updateUnit, Action.on_get_bind, Action.on_require_bind]
  cases w.unit id <;> intro h <;> cases h

lemma updatePiece_ne_halt {name : String} {f : Piece → Except Overflow Piece}
    (hf : ∀ p, ∃ q, f p = .ok q) (w : World) (cause : Halt) :
    ((updatePiece id name f).on w).1 ≠ .error (.halt cause) := by
  simp only [updatePiece, Action.on_get_bind, Action.on_require_bind]
  intro h
  cases hu : w.unit id with
  | error cause => rw [hu] at h; cases h
  | ok u =>
  simp only [hu] at h
  cases hi : u.pieceIndex? name with
  | none => rw [hi] at h; cases h
  | some i =>
  simp only [hi] at h
  cases hp : u.pieces[i]? with
  | none => rw [hp] at h; cases h
  | some p =>
    obtain ⟨q, hq⟩ := hf p
    simp only [hp, hq, Action.on_checked_bind] at h
    cases h

/-- The world comes through whatever a script asks for. -/
lemma exists_applyEffect (hw : Sturdy w) (id : UnitId) (e : Effect) :
    ∃ w', applyEffect id e w = .ok w' := by
  cases e with
  | visible piece value =>
    exact reporting_eq_ok (updatePiece_ne_halt (fun _ => ⟨_, rfl⟩) w)
  | shaded piece value =>
    exact reporting_eq_ok (updatePiece_ne_halt (fun _ => ⟨_, rfl⟩) w)
  | emit piece effect => exact ⟨_, rfl⟩
  | activation value =>
    refine reporting_eq_ok fun cause => ?_
    have hupdate := updateUnit_ne_halt id (fun u => { u with activated := value }) w cause
    rw [setActivation, Action.on_bind]
    revert hupdate
    rcases (updateUnit id fun u => { u with activated := value }).on w with ⟨_ | _, w'⟩ <;>
      intro hupdate
    · exact hupdate
    · exact fun h => by cases h
  | yard value =>
    refine reporting_eq_ok fun cause => ?_
    have hyard :=
      (trySetYardOpenChecked_agrees hw.toMeasured hw.toOrdered id value).ne_halt cause
    rw [setYardOpen, Action.on_bind]
    revert hyard
    rcases (trySetYardOpen id value).on w with ⟨_ | _, w'⟩ <;> intro hyard
    · exact fun h => hyard (by cases h; rfl)
    · exact fun h => by cases h
  | buggerOff value =>
    refine reporting_eq_ok fun cause => ?_
    rw [setBuggerOff]
    split
    · exact (emitBuggerOffChecked_agrees hw.toMeasured hw.toOrdered id).ne_halt cause
    · exact fun h => by cases h
  | buildStance value => exact reporting_eq_ok (updateUnit_ne_halt id _ w)
  | moveOrders value => exact reporting_eq_ok (updateUnit_ne_halt id _ w)
  | fireOrders value => exact reporting_eq_ok (updateUnit_ne_halt id _ w)
  | armored value => exact reporting_eq_ok (updateUnit_ne_halt id _ w)

theorem steadfast_host (id : UnitId) : Host.Steadfast host id Sturdy where
  apply := by
    intro e w hw
    obtain ⟨w', h⟩ := exists_applyEffect hw id e
    exact ⟨w', h, (scriptLaw_keeps id).of_applyEffect h hw⟩
  random := by
    intro low high w hrange hw
    have hdraw : ∃ v random, w.random.betweenSigned low high = .ok (v, random) := by
      rw [Random.Generator.betweenSigned, if_pos hrange]
      exact ⟨_, _, rfl⟩
    obtain ⟨v, random, hdraw⟩ := hdraw
    refine ⟨v, { w with random := random }, ?_, (scriptLaw_keeps id).draw w random hw⟩
    show (w.random.betweenSigned low high).map _ = _
    rw [hdraw]
    rfl

/-- A rate per tick is far from the ends of a word, so that its size is a word too. -/
lemma exists_sizeOf_perTick (n : Int32) :
    ∃ size, Piece.sizeOf (Script.perTick n).toInt = .ok size := by
  have hsize : (n.toInt.tdiv 30).natAbs = n.toInt.natAbs / 30 := Int.natAbs_tdiv ..
  have hle := n.le_toInt
  have hlt := n.toInt_lt
  have hfits : Overflow.FitsSigned ((Script.perTick n).toInt.natAbs : Int) := by
    rw [Script.toInt_perTick, hsize, Overflow.FitsSigned]
    omega
  rw [Piece.sizeOf, Overflow.signed, if_pos hfits]
  exact ⟨_, rfl⟩

lemma motionAction_ne_halt (id : UnitId) (piece : String) (axis : Axis) (motion : Motion)
    (w : World) (cause : Halt) :
    ((motionAction id piece axis motion).on w).1 ≠ .error (.halt cause) := by
  cases motion with
  | spin targetSpeed acceleration =>
    refine updatePiece_ne_halt (fun p => ?_) w cause
    obtain ⟨size, hsize⟩ := exists_sizeOf_perTick acceleration
    rw [Piece.spin, hsize]
    exact ⟨_, rfl⟩
  | stopSpin deceleration =>
    refine updatePiece_ne_halt (fun p => ?_) w cause
    obtain ⟨size, hsize⟩ := exists_sizeOf_perTick deceleration
    rw [Piece.stopSpin]
    cases p.turns.get axis with
    | none => exact ⟨_, rfl⟩
    | some turn =>
      simp only [hsize]
      exact ⟨_, rfl⟩
  | move position speed => exact updatePiece_ne_halt (fun _ => ⟨_, rfl⟩) w cause
  | moveNow position => exact updatePiece_ne_halt (fun _ => ⟨_, rfl⟩) w cause
  | turn angle speed => exact updatePiece_ne_halt (fun _ => ⟨_, rfl⟩) w cause
  | turnNow angle => exact updatePiece_ne_halt (fun _ => ⟨_, rfl⟩) w cause

lemma safe_applyMotion (id : UnitId) (piece : UInt32) (axis : Axis) (motion : Motion) :
    Safe Sturdy (applyMotion id piece axis motion) := by
  refine (Machine.safe_pieceName piece).bind fun name => Secures.get_bind fun m hm => ?_
  have hkeeps : Sturdy ((motionAction id name axis motion).on m.world).2 :=
    (scriptLaw_keeps id).respects_motionAction name axis motion m.world hm.world
  have hhalt := motionAction_ne_halt id name axis motion m.world
  revert hkeeps hhalt
  rcases (motionAction id name axis motion).on m.world with ⟨(cause | cause) | _, w'⟩ <;>
    intro hkeeps hhalt
  · exact ⟨⟨hm.thread, hm.environment, (quiet_note _ w').keeps hkeeps⟩, trivial⟩
  · exact absurd rfl (hhalt cause)
  · exact ⟨⟨hm.thread, hm.environment, hkeeps⟩, trivial⟩

/-! ### Threads that run -/

lemma fit_resume (id : UnitId) (budget : Nat) {m : Machine World} (hm : Fit Sturdy m) :
    Fit Sturdy ((resume id budget).run.run m).2 := by
  have : IsPreorder (Machine World) fun m m' => Fit Sturdy m → Fit Sturdy m' :=
    { refl := fun _ h => h, trans := fun _ _ _ h h' hm => h' (h hm) }
  have hstep : Respects (fun m m' => Fit Sturdy m → Fit Sturdy m') (Machine.step host id) :=
    fun m hm => (hm.step (steadfast_host id)).1
  have hmotion : ∀ piece axis motion,
      Respects (fun m m' => Fit Sturdy m → Fit Sturdy m') (applyMotion id piece axis motion) :=
    fun piece axis motion => (safe_applyMotion id piece axis motion).respects
  exact respects_resume_of hstep hmotion budget m hm

/-- Whatever a thread leaves behind, its script state and the world stay in order. -/
abbrev Secure {α : Type} (Q : α → Prop) (a : Action α) : Prop :=
  Secures Sturdy Q (fun _ => True) a

lemma secure_resumeThread (budget : Nat) (n : ThreadId) {t : Thread} (ht : t.Counted)
    (henv : env.Counted) : Secure Environment.Counted (resumeThread budget id n t env) := by
  refine Secures.get_bind fun w hw => ?_
  have hstart : Fit Sturdy ⟨w, env, { t with state := .ready }⟩ := ⟨ht.of_frames rfl, henv, hw⟩
  have hfit := fit_resume id budget hstart
  revert hfit
  rcases (resume id budget).run.run ⟨w, env, { t with state := .ready }⟩ with
    ⟨(e | cause) | (_ | state), m⟩ <;> intro hfit
  · exact ⟨(quiet_note _ m.world).keeps hfit.world, hfit.environment⟩
  · exact ⟨hfit.world, trivial⟩
  · exact ⟨hfit.world, hfit.environment⟩
  · exact ⟨hfit.world, hfit.environment.putThread n (hfit.thread.of_frames rfl)⟩

lemma secure_visitThread (id : UnitId) (budget : Nat) (henv : env.Counted) (n : ThreadId) :
    Secure Environment.Counted (visitThread budget id env n) := by
  have hrest := henv.removeThread n
  have note : ∀ notice : Notice, Secure (fun _ => True) (modify (·.note notice) : Action Unit) :=
    fun notice => .modify (fun w => (quiet_note notice w).keeps) trivial
  rw [visitThread]
  split
  · exact .pure henv
  · rename_i t ht
    have ht := henv n t ht
    refine Secures.get_bind fun w hw => ?_
    split
    · exact ⟨hw, hrest.putThread n ht⟩
    · exact Secures.bind (note _) (fun _ _ => .pure hrest) w hw
    · exact secure_resumeThread budget n ht hrest w hw
    · exact Secures.bind (note _) (fun _ _ => secure_resumeThread budget n ht hrest) w hw

lemma keeps_runUnitScripts (budget : Nat) (id : UnitId) :
    Respects Keeps (runUnitScripts budget id) := by
  intro w hw
  show Sturdy ((runUnitScripts budget id).on w).2
  simp only [runUnitScripts, Action.on_get_bind, Action.on_require_bind]
  cases hu : w.unit id with
  | error cause => exact hw
  | ok u =>
  simp only
  cases henv : u.environment with
  | none => exact hw
  | some env =>
    have hcounted := hw.counted (environment?_eq_some (unit_eq_ok.1 hu) henv)
    have hvisits : Secure Environment.Counted
        (env.threads.keys.foldlM (visitThread budget id) env) :=
      .foldlM (fun _ henv n _ => secure_visitThread id budget henv n) hcounted
    have hattach : ∀ env' : Environment, env'.Counted →
        Secure (fun _ => True) (modify (·.attachEnvironment id env') : Action Unit) :=
      fun env' henv' => .modify (fun w hw => hw.attachEnvironment id henv') trivial
    exact (Secures.bind hvisits hattach _ (hw.detachEnvironment id)).1

lemma keeps_runScriptsNoting (budget : Nat) (id : UnitId) :
    Respects Keeps (runScriptsNoting budget id) :=
  Action.respects_orElse (keeps_runUnitScripts budget id) fun _ =>
    .modify fun w => (quiet_note _ w).keeps

lemma secure_runForAnswer (id : UnitId) (budget : Nat) (function : String) {t : Thread}
    (ht : t.Counted) (henv : env.Counted) :
    Secure (fun p => p.2.Counted) (runForAnswer budget id function t env) := by
  refine Secures.get_bind fun w hw => ?_
  have hfit := fit_resume id budget (m := ⟨w, env, t⟩) ⟨ht, henv, hw⟩
  revert hfit
  rcases (resume id budget).run.run ⟨w, env, t⟩ with ⟨(e | cause) | (_ | state), m⟩ <;>
    intro hfit
  · exact ⟨(quiet_note _ m.world).keeps hfit.world, hfit.environment⟩
  · exact ⟨hfit.world, trivial⟩
  · exact ⟨hfit.world, hfit.environment⟩
  · exact ⟨hfit.world, hfit.environment⟩

lemma keeps_runQuery (budget : Nat) (id : UnitId) (function : String) (params : List Int32) :
    Respects Keeps (runQuery budget id function params) := by
  intro w hw
  show Sturdy ((runQuery budget id function params).on w).2
  simp only [runQuery, Action.on_get_bind, Action.on_require_bind]
  cases hu : w.unit id with
  | error cause => exact hw
  | ok u =>
  simp only
  cases henv : u.environment with
  | none => exact hw
  | some env =>
  have hcounted := hw.counted (environment?_eq_some (unit_eq_ok.1 hu) henv)
  have hdetached := hw.detachEnvironment id
  have attach : ∀ p : Option (List Int32) × Environment, p.2.Counted → Secure (fun _ => True)
      (do modify (·.attachEnvironment id p.2); return p.1 : Action (Option (List Int32))) :=
    fun p hp => Secures.bind (Q := fun _ => True)
      (.modify (fun w hw => hw.attachEnvironment id hp) trivial) fun _ _ => .pure trivial
  simp only [Action.on_modify_bind]
  cases hs : env.startNamed function params with
  | error failure =>
    cases failure with
    | fault e => exact (attach (none, env) hcounted _ hdetached).1
    | halt cause => exact hdetached
  | ok p =>
  obtain ⟨o, env₁⟩ := p
  have hcounted₁ := hcounted.startNamed hs
  cases o with
  | none => exact (attach (none, env₁) hcounted₁ _ hdetached).1
  | some n =>
  simp only
  cases ht : env₁.threads.get? n with
  | none => exact (attach (none, env₁) hcounted₁ _ hdetached).1
  | some t =>
    have hrun := secure_runForAnswer id budget function (hcounted₁ n t ht)
      (hcounted₁.removeThread n)
    exact (Secures.bind hrun attach _ hdetached).1

/-! ### The other operations -/

lemma keeps_startScript (function : String) (params : List Int32) :
    Respects Keeps (startScript id function params) := by
  refine respects_startScript (fun n w => (quiet_note n w).keeps) ?_
  intro w u env thread env' hu henv hs hw
  have hcounted := hw.counted (environment?_eq_some hu henv)
  exact hw.attachEnvironment id (hcounted.startNamed hs)

/-- The pieces of a new unit do not turn. -/
lemma bounded_createUnit {typeName : String} {owner : PlayerId} {position : Vector3}
    {rotation : Option Angle} (h : w.createUnit typeName owner position rotation = .ok u) :
    u.Bounded := by
  rw [createUnit] at h
  obtain ⟨_, -, h⟩ := exists_of_bind_eq_ok h
  obtain ⟨t, -, h⟩ := exists_of_bind_eq_ok h
  obtain ⟨m, -, h⟩ := exists_of_bind_eq_ok h
  obtain ⟨_, -, h⟩ := exists_of_bind_eq_ok h
  cases h
  intro p hp
  obtain ⟨d, -, rfl⟩ := List.mem_map.1 hp
  exact (Piece.bounded_new d.name d.origin (parentIndex? m d)).of_turns rfl

lemma counted_createUnit {typeName : String} {owner : PlayerId} {position : Vector3}
    {rotation : Option Angle} (h : w.createUnit typeName owner position rotation = .ok u) :
    ∀ env, u.environment = some env → env.Counted := by
  intro env henv
  obtain ⟨program, hcreated⟩ := createUnit_eq_ok h
  rw [hcreated.environment] at henv
  cases henv
  exact Environment.counted_new program

lemma keeps_trySpawnUnit (typeName : String) (owner : PlayerId) (position : Vector3)
    (rotation : Option Angle) : Respects Keeps (trySpawnUnit typeName owner position rotation) := by
  intro w hw
  show Sturdy ((trySpawnUnit typeName owner position rotation).on w).2
  simp only [trySpawnUnit, Action.on_get_bind, Action.on_require_bind]
  cases hu : w.createUnit typeName owner position rotation with
  | error cause => exact hw
  | ok u =>
  simp only
  cases w.definitions.unitType typeName with
  | error cause => exact hw
  | ok t =>
  have hlift : (liftToSea w.terrain.seaLevel t u).pieces = u.pieces ∧
      (liftToSea w.terrain.seaLevel t u).environment = u.environment := by
    rw [liftToSea]
    split <;> exact ⟨rfl, rfl⟩
  have hadd := hw.tryAddUnit ((bounded_createUnit hu).of_pieces hlift.1)
    (hlift.2 ▸ counted_createUnit hu)
  simp only
  rw [Action.on_bind]
  revert hadd
  rcases (tryAddUnit (liftToSea w.terrain.seaLevel t u)).on w with ⟨_ | _ | id, w₁⟩ <;>
    intro hadd
  · exact hadd
  · exact hadd
  · have hbegin : Respects Keeps (do
        let _ ← startScript id "Create" []
        modify (·.tell (.spawned id))
        return some id : Action (Option UnitId)) :=
      (keeps_startScript "Create" []).bind fun _ =>
        Respects.bind (.modify fun w => (quiet_tell _ w).keeps) fun _ => .pure _
    exact hbegin w₁ hadd

lemma keeps_tryMoveUnit (position : Vector3) : Respects Keeps (tryMoveUnit id position) := by
  intro w hw
  have hscripts : SameScripts w ((tryMoveUnit id position).on w).2 :=
    sameScripts_tryMoveUnit position w
  show Sturdy ((tryMoveUnit id position).on w).2
  rcases tryMoveUnit_cases id position w with h | ⟨b, t, old, new, g, -, hw', h⟩
  · rw [h]
    exact hw
  · refine hw.change_of_scripts (.move id b position t old new h) ?_ hscripts
    have hunits : ((tryMoveUnit id position).on w).2.units =
        (w.modifyUnit id fun u => { u with position := position }).units := by rw [hw']; rfl
    exact (hw.bounded.modifyUnit (f := fun u => { u with position := position })
      (fun _ hu => hu.of_pieces rfl) id).of_units hunits

lemma keeps_addFeature (t : FeatureType) (f : Feature) : Respects Keeps (addFeature t f) := by
  intro w hw
  have hscripts := sameScripts_addFeature t f w
  show Sturdy ((addFeature t f).on w).2
  rcases addFeature_cases t f w with ⟨answer, hon, -⟩ | ⟨r, -, -, ⟨_, _, _, _, hon⟩, h⟩
  · rw [hon]
    exact hw
  · have hunits : ((addFeature t f).on w).2.units = w.units := by rw [hon]
    exact
      { toMeasured := hw.toMeasured.ground h.ground
        toOrdered := hw.toOrdered.land h
        bounded := hw.bounded.of_units hunits
        counted := fun {id env} henv => hw.counted ((hscripts.environment? id).symm.trans henv)
        nextUnit := by rw [h.nextUnit]; exact hw.nextUnit }

lemma keeps_sweep (w : World) : Keeps w w.sweep :=
  rel_sweep (R := Keeps) (fun _ id hw => (quiet_tell _ _).keeps (hw.removeUnit id)) w

lemma keeps_beginTick (w : World) : Keeps w w.beginTick := fun hw =>
  hw.change_of_scripts (.calm (samePlan_beginTick w))
    ((quiet_rememberPlaces w).bounded hw.bounded) (sameScripts_beginTick w)

/-- The scripts of all units have run, and nothing else has happened in the tick. -/
def afterScripts (budget : Nat) (w : World) : World :=
  ((w.beginTick.units.keys.forM (runScriptsNoting budget)).on w.beginTick).2

lemma keeps_afterScripts (budget : Nat) (w : World) : Keeps w (w.afterScripts budget) := by
  intro hw
  have hscripts : Respects Keeps (w.beginTick.units.keys.forM (runScriptsNoting budget)) :=
    .forM fun id _ => keeps_runScriptsNoting budget id
  exact hscripts w.beginTick (keeps_beginTick w hw)

lemma keeps_tick (budget : Nat) : Respects Keeps (tick budget) := by
  intro w hw
  have hscripts := keeps_afterScripts budget w hw
  show Sturdy ((tick budget).on w).2
  rw [afterScripts] at hscripts
  rw [tick, Action.on_modify_bind, Action.on_get_bind, Action.on_bind]
  revert hscripts
  rcases (w.beginTick.units.keys.forM (runScriptsNoting budget)).on w.beginTick with
    ⟨_ | _, w₁⟩ <;> intro hscripts
  · exact hscripts
  · have hpieces := trans_of Quiet (quiet_stepPieces w₁) (quiet_stepProjectiles w₁.stepPieces)
    exact keeps_sweep _ (hpieces.keeps hscripts)

/-- No operation makes a world one that scripts could shake. -/
theorem keeps_after (o : Operation) (w : World) : Keeps w (o.after w) := by
  cases o with
  | addFeature t f => exact Action.respects_discard (keeps_addFeature t f) w
  | addUnit typeName owner position rotation =>
    intro hw
    simp only [Operation.after, Operation.perform, Action.on_get_bind, Action.on_require_bind]
    cases hu : w.createUnit typeName owner position rotation with
    | error cause => exact hw
    | ok u =>
      simp only [Action.on_discard]
      exact hw.tryAddUnit (bounded_createUnit hu) (counted_createUnit hu)
  | spawnUnit => exact Action.respects_discard (keeps_trySpawnUnit _ _ _ _) w
  | moveUnit => exact Action.respects_discard (keeps_tryMoveUnit _) w
  | setYardOpen id isOpen => exact Action.respects_discard (keeps_trySetYardOpen isOpen) w
  | startScript => exact Action.respects_discard (keeps_startScript _ _) w
  | runQuery => exact Action.respects_discard (keeps_runQuery _ _ _ _) w
  | runUnitScripts budget id => exact keeps_runUnitScripts budget id w
  | tick budget => exact keeps_tick budget w
  | _ => exact (quiet_after (by trivial) w).keeps

/-! ### Runs -/

variable {s : Setup} {past : List Step}

/-- The map has one row and one column less than the grid of heights. -/
lemma measured_new (h : World.new s = .ok w) (hs : s.Measured) : Measured w := by
  rw [World.new] at h
  obtain ⟨_, -, h⟩ := exists_of_bind_eq_ok h
  obtain ⟨occupancy, ho, h⟩ := exists_of_bind_eq_ok h
  obtain ⟨metal, -, h⟩ := exists_of_bind_eq_ok h
  cases h
  have hfill := eq_ok_of_mapError ho
  rw [Grid.fill] at hfill
  split at hfill
  · cases hfill
    exact
      { heights := hs.heights
        cells := ⟨Nat.lt_of_le_of_lt (Nat.sub_le _ _) hs.heights.width,
          Nat.lt_of_le_of_lt (Nat.sub_le _ _) hs.heights.height⟩
        yards := fun ht hyard => hs.yards _ (Definitions.mem_unitTypes ht) _ hyard }
  · cases hfill

lemma sturdy_new (h : World.new s = .ok w) (hs : s.Measured) : Sturdy w := by
  have hi := initial_new h
  have hnext : w.nextUnit = 1 := by
    rw [World.new] at h
    obtain ⟨_, -, h⟩ := exists_of_bind_eq_ok h
    obtain ⟨_, -, h⟩ := exists_of_bind_eq_ok h
    obtain ⟨_, -, h⟩ := exists_of_bind_eq_ok h
    cases h
    rfl
  exact
    { toMeasured := measured_new h hs
      toOrdered := (Run.start h).settled.toOrdered
      bounded := fun id u hu => by rw [hi.units] at hu; cases hu
      counted := fun {id env} henv => by rw [environment?, hi.units] at henv; cases henv
      nextUnit := by rw [hnext]; decide }

/-- Whatever happens in a battle, scripts find a sturdy world. -/
theorem Run.sturdy (h : Run s past w) (hs : s.Measured) : Sturdy w := by
  induction h with
  | start h => exact sturdy_new h hs
  | @step past w o _ _ ih => exact keeps_after o w ih

end World

end Lockstep
