import Lockstep.Proofs.Script.Signals
/-!
# What a thread asks of the host

A thread comes to the world through its host only.  `Machine.requests` lists what the next step asks
of the host, in the order in which it is asked, and `Machine.requestsOf` what a whole run asks.  The
list is complete: a host that answers these requests in the same way makes the same step
(`Machine.step_eq_of_agree`), whatever else it would answer; and a step that asks for an effect does
just this to the world (`Machine.world_step_of_effect`).
-/

namespace Lockstep.Script

variable {σ : Type} {host host' : Host σ} {unit other : UnitId}

/-- Something that is asked of a host. -/
inductive Request where
  /-- A random number from a range. -/
  | random (low high : Int32)
  /-- A snapshot of a unit. -/
  | snapshot (id : UnitId)
  /-- The place of a piece of a unit. -/
  | piecePosition (unit : UnitId) (piece : String)
  /-- The height of the ground. -/
  | groundHeight (x z : Scalar)
  /-- The smallest number of a unit. -/
  | minUnit
  /-- The largest number given to a unit so far. -/
  | maxUnit
  /-- An effect on a unit. -/
  | effect (unit : UnitId) (e : Effect)
deriving DecidableEq, Inhabited

/-- Two hosts answer a request in the same way. -/
def Request.Agree (host host' : Host σ) (w : σ) : Request → Prop
  | random low high => host.random low high w = host'.random low high w
  | snapshot id => host.unit? id w = host'.unit? id w
  | piecePosition unit piece => host.piecePosition? unit piece w = host'.piecePosition? unit piece w
  | groundHeight x z => host.groundHeight x z w = host'.groundHeight x z w
  | minUnit => host.minUnit w = host'.minUnit w
  | maxUnit => host.maxUnit w = host'.maxUnit w
  | effect unit e => host.apply unit e w = host'.apply unit e w

/-- What reading a linked value asks, given its first argument.  Whether another unit is allied is
asked only if there is a unit of one's own. -/
def LinkedValue.requests (host : Host σ) (unit : UnitId) (p : Program) (w : σ) (v : LinkedValue)
    (a : Int32) : List Request :=
  match v with
  | .activation | .standingMoveOrders | .standingFireOrders | .health | .inBuildStance | .xzAtan
  | .buildPercentLeft | .yardOpen | .armored => [.snapshot unit]
  | .pieceXZ | .pieceY =>
    (p.pieceName? a.toUInt32).toList.map fun name => .piecePosition unit name
  | .unitXZ | .unitY | .unitHeight | .unitTeam | .unitBuildPercentLeft => [.snapshot ⟨a.toUInt32⟩]
  | .unitAllied =>
    if (host.unit? unit w).isSome then [.snapshot unit, .snapshot ⟨a.toUInt32⟩]
    else [.snapshot unit]
  | .groundHeight => [.groundHeight (unpack a).1 (unpack a).2]
  | .minId => [.minUnit]
  | .maxId => [.maxUnit]
  | .busy | .xzHypot | .atan | .hypot | .buggerOff | .veteranLevel | .unitIsOnThisComp
  | .myId => []

/-- What an instruction asks for a thread that has read its words. -/
def Instruction.requests (host : Host σ) (unit : UnitId) (p : Program) (w : σ) (t : Thread)
    (i : Instruction) : List Request :=
  let named (f : String → Effect) : List Request :=
    (p.pieceName? i.first).toList.map fun name => .effect unit (f name)
  let read (number a : Int32) : List Request :=
    (LinkedValue.ofNumber? number).toList.flatMap fun v => v.requests host unit p w a
  match i.opcode with
  | .random => [.random (min t.pop.top t.top) (max t.pop.top t.top)]
  | .explode => named fun name => .emit name (.explode t.top)
  | .emitSmoke => named fun name => .emit name (.smoke t.top)
  | .showPiece => named fun name => .visible name true
  | .hidePiece => named fun name => .visible name false
  | .shade => named fun name => .shaded name true
  | .dontShade => named fun name => .shaded name false
  | .getValue => read t.top 0
  | .getValueWithArgs => read t.pop.pop.pop.pop.top t.pop.pop.pop.top
  | .setValue =>
    match (LinkedValue.ofNumber? t.pop.top).map (·.write t.top) with
    | some (Write.effect e) => [.effect unit e]
    | _ => []
  | _ => []

namespace Machine

variable {m : Machine σ}

/-- What the next step asks of the host, in order. -/
def requests (host : Host σ) (unit : UnitId) (m : Machine σ) : List Request :=
  m.instruction?.elim [] fun i => i.requests host unit m.environment.program m.world m.thread

/-- What a run asks of the host, in order. -/
def requestsOf (host : Host σ) (unit : UnitId) : (budget : Nat) → Machine σ → List Request
  | 0, _ => []
  | budget + 1, m =>
    m.requests host unit ++
      match (step host unit).run.run m with
      | (.ok none, m') => requestsOf host unit budget m'
      | _ => []

/-! ### Nothing else is learnt from the host -/

lemma run_draw_congr {a b : Int32}
    (h : (Request.random (min a b) (max a b)).Agree host host' m.world) :
    (draw host a b).run.run m = (draw host' a b).run.run m := by
  have hrandom : host.random (min a b) (max a b) m.world =
      host'.random (min a b) (max a b) m.world := h
  rw [draw, draw, run_get_bind, run_get_bind, hrandom]

lemma run_perform_congr {e : Effect} (h : (Request.effect unit e).Agree host host' m.world) :
    (perform host unit e).run.run m = (perform host' unit e).run.run m := by
  have happly : host.apply unit e m.world = host'.apply unit e m.world := h
  rw [perform, perform, run_get_bind, run_get_bind, happly]

lemma readValue_congr {p : Program} {w : σ} {v : LinkedValue} {a b : Int32}
    (h : ∀ r ∈ v.requests host unit p w a, r.Agree host host' w) :
    readValue host unit p w v a b = readValue host' unit p w v a b := by
  have hown (hmem : Request.snapshot unit ∈ v.requests host unit p w a) :
      ownUnit host unit w = ownUnit host' unit w := by
    have hunit : host.unit? unit w = host'.unit? unit w := h _ hmem
    rw [ownUnit, ownUnit, hunit]
  have hother (hmem : Request.snapshot ⟨a.toUInt32⟩ ∈ v.requests host unit p w a)
      (f : UnitView → Int32) : ofUnit host a w f = ofUnit host' a w f := by
    have hunit : host.unit? ⟨a.toUInt32⟩ w = host'.unit? ⟨a.toUInt32⟩ w := h _ hmem
    rw [ofUnit, ofUnit, hunit]
  have hpiece (hmem : ∀ name ∈ p.pieceName? a.toUInt32,
      Request.piecePosition unit name ∈ v.requests host unit p w a) :
      pieceAt host unit p w a = pieceAt host' unit p w a := by
    rw [pieceAt, pieceAt]
    cases hname : p.pieceName? a.toUInt32 with
    | none => rfl
    | some name =>
      have hposition : host.piecePosition? unit name w = host'.piecePosition? unit name w :=
        h _ (hmem name hname)
      simp only [hposition]
  cases v with
  | activation | standingMoveOrders | standingFireOrders | health | inBuildStance | xzAtan
  | buildPercentLeft | yardOpen | armored =>
    simp only [readValue, hown (by simp [LinkedValue.requests])]
  | pieceXZ | pieceY =>
    simp only [readValue, hpiece (by simp [LinkedValue.requests])]
  | unitXZ | unitY | unitHeight | unitTeam | unitBuildPercentLeft =>
    simp only [readValue, hother (by simp [LinkedValue.requests])]
  | unitAllied =>
    have hself : Request.snapshot unit ∈ LinkedValue.unitAllied.requests host unit p w a := by
      rw [LinkedValue.requests]
      split <;> simp
    rw [readValue, readValue, hown hself]
    cases hunit : ownUnit host' unit w with
    | error e => rfl
    | ok own =>
      -- the other unit is looked for only if there is a unit of one's own
      have hsome : (host.unit? unit w).isSome := by
        have hview := (hown hself).trans hunit
        rw [ownUnit] at hview
        cases hu : host.unit? unit w with
        | none => simp [hu] at hview
        | some view => rfl
      simp only [Except.map, hother (by simp [LinkedValue.requests, hsome])]
  | groundHeight =>
    have hground : host.groundHeight (unpack a).1 (unpack a).2 w =
        host'.groundHeight (unpack a).1 (unpack a).2 w :=
      h (.groundHeight _ _) (by simp [LinkedValue.requests])
    simp only [readValue, hground]
  | minId =>
    have hmin : host.minUnit w = host'.minUnit w := h .minUnit (by simp [LinkedValue.requests])
    simp only [readValue, hmin]
  | maxId =>
    have hmax : host.maxUnit w = host'.maxUnit w := h .maxUnit (by simp [LinkedValue.requests])
    simp only [readValue, hmax]
  | busy | xzHypot | atan | hypot | buggerOff | veteranLevel | unitIsOnThisComp | myId => rfl

lemma run_getValue_congr {number a b : Int32}
    (h : ∀ v ∈ LinkedValue.ofNumber? number, ∀ r ∈ v.requests host unit m.environment.program
      m.world a, r.Agree host host' m.world) :
    (getValue host unit number a b).run.run m = (getValue host' unit number a b).run.run m := by
  rw [getValue, getValue]
  cases hv : LinkedValue.ofNumber? number with
  | none => rfl
  | some v =>
    simp only [run_get_bind, readValue_congr (h v hv)]

lemma run_setValue_congr {number n : Int32}
    (h : ∀ v ∈ LinkedValue.ofNumber? number, ∀ e, v.write n = .effect e →
      (Request.effect unit e).Agree host host' m.world) :
    (setValue host unit number n).run.run m = (setValue host' unit number n).run.run m := by
  rw [setValue, setValue]
  cases hv : LinkedValue.ofNumber? number with
  | none => rfl
  | some v =>
    cases hwrite : v.write n with
    | effect e =>
      simp only [hwrite]
      exact run_perform_congr (h v hv e hwrite)
    | ignored | refused => simp only [hwrite]

/-- What is done with the answer of a computation does not depend on the host. -/
lemma run_bind_congr {α β : Type} {a a' : Exec σ α} (ha : a.run.run m = a'.run.run m)
    (f : α → Exec σ β) : (a >>= f).run.run m = (a' >>= f).run.run m := by
  rw [run_bind, run_bind, ha]

lemma run_pop_bind {α : Type} (f : Int32 → Exec σ α) :
    (pop >>= f).run.run m = (f m.thread.top).run.run { m with thread := m.thread.pop } := rfl

/-- An effect that concerns a piece is asked for if the piece has a name. -/
lemma run_pieceName_bind_congr {α : Type} {index : UInt32} {f f' : String → Exec σ α}
    (h : ∀ name ∈ m.environment.program.pieceName? index,
      (f name).run.run m = (f' name).run.run m) :
    (pieceName index >>= f).run.run m = (pieceName index >>= f').run.run m := by
  have hrun (g : String → Exec σ α) : (pieceName index >>= g).run.run m =
      (m.environment.program.pieceName? index).elim
        (.error (.fault (.unknownPiece index)), m) fun name => (g name).run.run m := by
    rw [run_bind, pieceName, run_get_bind]
    cases m.environment.program.pieceName? index <;> rfl
  rw [hrun, hrun]
  cases hname : m.environment.program.pieceName? index with
  | none => rfl
  | some name => exact h name hname

/-- One case for each instruction that asks for something. -/
lemma run_execute_congr {i : Instruction}
    (h : ∀ r ∈ i.requests host unit m.environment.program m.world m.thread,
      r.Agree host host' m.world) :
    (execute host unit i).run.run m = (execute host' unit i).run.run m := by
  rw [execute, execute]
  rw [Instruction.requests] at h
  cases hop : i.opcode with
  | random =>
    simp only [hop, List.mem_singleton, forall_eq] at h
    simp only [run_pop_bind]
    refine run_bind_congr ?_ _
    exact run_draw_congr h
  | explode | emitSmoke =>
    simp only [hop, List.mem_map, Option.mem_toList] at h
    refine run_pieceName_bind_congr fun name hname => ?_
    simp only [run_pop_bind]
    refine run_bind_congr ?_ _
    exact run_perform_congr (h _ ⟨name, hname, rfl⟩)
  | showPiece | hidePiece | shade | dontShade =>
    simp only [hop, List.mem_map, Option.mem_toList] at h
    refine run_pieceName_bind_congr fun name hname => ?_
    refine run_bind_congr ?_ _
    exact run_perform_congr (h _ ⟨name, hname, rfl⟩)
  | getValue | getValueWithArgs =>
    simp only [hop, List.mem_flatMap, Option.mem_toList] at h
    simp only [run_pop_bind]
    refine run_bind_congr ?_ _
    exact run_getValue_congr fun v hv r hr => h r ⟨v, hv, hr⟩
  | setValue =>
    simp only [hop] at h
    simp only [run_pop_bind]
    refine run_bind_congr ?_ _
    refine run_setValue_congr fun v hv e hwrite => h _ ?_
    simp only [Option.mem_def.1 hv, Option.map_some, hwrite, List.mem_singleton]
  | _ => rfl

/-- The words that a thread has read make no difference to what it asks. -/
lemma requests_fetched (i : Instruction) (m : Machine σ) :
    i.requests host unit m.fetched.environment.program m.fetched.world m.fetched.thread =
      i.requests host unit m.environment.program m.world m.thread := by
  simp only [environment_fetched, world_fetched, Instruction.requests, Thread.top, Thread.pop,
    stack_fetched]

/-- A step learns no more of the world than the answers to its requests. -/
theorem step_eq_of_agree (h : ∀ r ∈ m.requests host unit, r.Agree host host' m.world) :
    (step host unit).run.run m = (step host' unit).run.run m := by
  cases hi : m.instruction? with
  | some i =>
    rw [step_of_instruction hi, step_of_instruction hi]
    rw [requests, hi] at h
    refine run_execute_congr ?_
    rw [requests_fetched, world_fetched]
    exact h
  | none =>
    rw [run_step, run_step]
    split
    · rfl
    · -- what cannot be fetched is not carried out
      rw [instruction?] at hi
      rw [run_bind, run_bind]
      revert hi
      rcases (fetch : Exec σ Instruction).run.run m with ⟨_ | i, m'⟩ <;> intro hi
      · rfl
      · cases hi

/-! ### What is done to the world -/

lemma effect_notMem_requests (p : Program) (w : σ) (v : LinkedValue) (a : Int32) (e : Effect) :
    .effect other e ∉ v.requests host unit p w a := by
  cases v with
  | unitAllied =>
    rw [LinkedValue.requests]
    split <;> simp
  | _ => simp [LinkedValue.requests]

/-- Whatever is answered after a computation, the world stays as that has left it. -/
lemma world_bind_pure {α β : Type} (a : Exec σ α) (b : β) (m : Machine σ) :
    ((a >>= fun _ => pure b : Exec σ β).run.run m).2.world = (a.run.run m).2.world := by
  rw [run_bind]
  rcases a.run.run m with ⟨_ | _, _⟩ <;> rfl

lemma world_perform (e : Effect) (m : Machine σ) :
    ((perform host unit e).run.run m).2.world =
      (host.apply unit e m.world).toOption.getD m.world := by
  rw [perform, run_get_bind]
  cases host.apply unit e m.world <;> rfl

lemma run_pieceName_bind {α : Type} {index : UInt32} {name : String} (f : String → Exec σ α)
    (h : m.environment.program.pieceName? index = some name) :
    (pieceName index >>= f).run.run m = (f name).run.run m := by
  rw [run_bind, pieceName, run_get_bind, h]
  rfl

/-- One case for each instruction that asks for an effect. -/
lemma world_execute {i : Instruction} {e : Effect}
    (h : .effect other e ∈ i.requests host unit m.environment.program m.world m.thread) :
    ((execute host unit i).run.run m).2.world =
      (host.apply unit e m.world).toOption.getD m.world := by
  rw [Instruction.requests] at h
  rw [execute]
  cases hop : i.opcode with
  | explode | emitSmoke =>
    simp only [hop, List.mem_map, Option.mem_toList] at h
    obtain ⟨name, hname, heq⟩ := h
    cases heq
    simp only [run_pieceName_bind _ hname, run_pop_bind]
    exact (world_bind_pure ..).trans (world_perform ..)
  | showPiece | hidePiece | shade | dontShade =>
    simp only [hop, List.mem_map, Option.mem_toList] at h
    obtain ⟨name, hname, heq⟩ := h
    cases heq
    simp only [run_pieceName_bind _ hname]
    exact (world_bind_pure ..).trans (world_perform ..)
  | getValue | getValueWithArgs =>
    simp only [hop, List.mem_flatMap] at h
    obtain ⟨v, -, hv⟩ := h
    exact absurd hv (effect_notMem_requests _ _ _ _ _)
  | setValue =>
    simp only [hop] at h
    simp only [run_pop_bind]
    split at h
    · rename_i hwrite
      obtain ⟨v, hv, hwrite⟩ := Option.map_eq_some_iff.1 hwrite
      cases List.mem_singleton.1 h
      refine (world_bind_pure ..).trans ?_
      rw [setValue, hv]
      simp only [hwrite]
      exact world_perform ..
    · cases h
  | _ => simp [hop] at h

/-- A step that asks for an effect does it to the world, or leaves the world as it is if the host
stops at it. -/
theorem world_step_of_effect {e : Effect} (h : .effect other e ∈ m.requests host unit) :
    ((step host unit).run.run m).2.world =
      (host.apply unit e m.world).toOption.getD m.world := by
  rw [requests] at h
  cases hi : m.instruction? with
  | none => simp [hi] at h
  | some i =>
    rw [hi] at h
    rw [step_of_instruction hi, world_execute (by rw [requests_fetched]; exact h), world_fetched]

end Machine

end Lockstep.Script
