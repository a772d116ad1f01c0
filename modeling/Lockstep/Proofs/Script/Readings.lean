import Lockstep.Proofs.Script.Fault
/-!
# Writing one linked value and reading them all

Six linked values are kept in the snapshot of a unit, one field each, and can be written; two more
can be written and are not kept.  A world in which a value has been written differs from the one
before, as far as a script can see, in one field of the snapshot of one unit (`Host.Wrote`).  So
what is read of that value is what was written, and what is read of every other value is what it
was, by every unit and with all arguments (`Machine.readValue_of_wrote`).
-/

namespace Lockstep.Script

variable {σ : Type} {host : Host σ} {unit other : UnitId} {v v' : LinkedValue} {n : Int32}
  {w w' : σ}

/-- A snapshot in which a linked value has been written. -/
def UnitView.assign (u : UnitView) (v : LinkedValue) (n : Int32) : UnitView :=
  { u with
    activated := if v = .activation then n != 0 else u.activated
    inBuildStance := if v = .inBuildStance then n != 0 else u.inBuildStance
    yardOpen := if v = .yardOpen then n != 0 else u.yardOpen
    armored := if v = .armored then n != 0 else u.armored
    fireOrders := if v = .standingFireOrders then n else u.fireOrders
    moveOrders := if v = .standingMoveOrders then n else u.moveOrders }

/-- What is read of a linked value in which a number is kept. -/
def LinkedValue.kept (v : LinkedValue) (n : Int32) : Int32 :=
  match v with
  | standingMoveOrders | standingFireOrders => n
  | activation | inBuildStance | armored | yardOpen => truth (n != 0)
  | _ => 0

/-- For scripts, two worlds differ only in a linked value of a unit, and the second one has the
number in it. -/
structure Host.Wrote (host : Host σ) (unit : UnitId) (v : LinkedValue) (n : Int32) (w w' : σ) :
    Prop where
  own : host.unit? unit w' = (host.unit? unit w).map (·.assign v n)
  others : ∀ other, other ≠ unit → host.unit? other w' = host.unit? other w
  pieces : ∀ other name, host.piecePosition? other name w' = host.piecePosition? other name w
  ground : ∀ x z, host.groundHeight x z w' = host.groundHeight x z w
  minUnit : host.minUnit w' = host.minUnit w
  maxUnit : host.maxUnit w' = host.maxUnit w

/-- What it means that a linked value is set: an effect comes through, or there is nothing to do. -/
inductive Host.Sets (host : Host σ) (unit : UnitId) (v : LinkedValue) (n : Int32) (w : σ) : σ → Prop
  | effect {e : Effect} {w' : σ} (write : v.write n = .effect e)
    (apply : host.apply unit e w = .ok w') : Sets host unit v n w w'
  | ignored (write : v.write n = .ignored) : Sets host unit v n w w

namespace Machine

variable {p : Program} {a b : Int32} {m : Machine σ}

/-! ### What is read -/

/-- A part of a snapshot in which the value is not kept is the same for every unit. -/
lemma unit?_map_of_wrote {β : Type} {f : UnitView → β} (h : host.Wrote unit v n w w')
    (hf : ∀ u : UnitView, f (u.assign v n) = f u) (other : UnitId) :
    (host.unit? other w').map f = (host.unit? other w).map f := by
  by_cases heq : other = unit
  · subst heq
    rw [h.own, Option.map_map]
    exact congrArg (Option.map · _) (funext hf)
  · rw [h.others other heq]

lemma ownUnit_map {β : Type} (f : UnitView → β) : (ownUnit host other w).map f =
    match (host.unit? other w).map f with
    | some x => .ok x
    | none => .error (.missingUnit other.val) := by
  rw [ownUnit]
  cases host.unit? other w <;> rfl

lemma ownUnit_of_wrote {β : Type} {f : UnitView → β} (h : host.Wrote unit v n w w')
    (hf : ∀ u : UnitView, f (u.assign v n) = f u) :
    (ownUnit host other w').map f = (ownUnit host other w).map f := by
  rw [ownUnit_map, ownUnit_map, unit?_map_of_wrote h hf]

lemma ofUnit_of_wrote {f : UnitView → Int32} (h : host.Wrote unit v n w w')
    (hf : ∀ u : UnitView, f (u.assign v n) = f u) (number : Int32) :
    ofUnit host number w' f = ofUnit host number w f := by
  rw [ofUnit, ofUnit, unit?_map_of_wrote h hf]

lemma pieceAt_of_wrote (h : host.Wrote unit v n w w') (number : Int32) :
    pieceAt host other p w' number = pieceAt host other p w number := by
  rw [pieceAt, pieceAt]
  cases p.pieceName? number.toUInt32 with
  | none => rfl
  | some name => simp only [h.pieces]

/-- Reading any other value, of any unit and with any arguments, is not affected.  The cases are
what is read: a field in which another value is kept, a field in which none is kept, or no field at
all. -/
theorem readValue_of_wrote (h : host.Wrote unit v n w w') (hne : v' ≠ v) :
    readValue host other p w' v' a b = readValue host other p w v' a b := by
  cases v' with
  | activation => exact ownUnit_of_wrote h fun u => by rw [UnitView.assign, if_neg hne.symm]
  | standingMoveOrders =>
    exact ownUnit_of_wrote h fun u => by rw [UnitView.assign, if_neg hne.symm]
  | standingFireOrders =>
    exact ownUnit_of_wrote h fun u => by rw [UnitView.assign, if_neg hne.symm]
  | inBuildStance => exact ownUnit_of_wrote h fun u => by rw [UnitView.assign, if_neg hne.symm]
  | yardOpen => exact ownUnit_of_wrote h fun u => by rw [UnitView.assign, if_neg hne.symm]
  | armored => exact ownUnit_of_wrote h fun u => by rw [UnitView.assign, if_neg hne.symm]
  | health | xzAtan | buildPercentLeft => exact ownUnit_of_wrote h fun u => rfl
  | unitXZ | unitY | unitHeight | unitTeam | unitBuildPercentLeft =>
    exact congrArg Except.ok (ofUnit_of_wrote h (fun u => rfl) a)
  | unitAllied =>
    have hinner : ∀ own : UnitView,
        ofUnit host a w' (fun u => truth (decide (u.owner = own.owner))) =
          ofUnit host a w (fun u => truth (decide (u.owner = own.owner))) :=
      fun own => ofUnit_of_wrote h (fun u => rfl) a
    simp only [readValue, hinner]
    exact ownUnit_of_wrote h fun u => rfl
  | pieceXZ | pieceY => rw [readValue, readValue, pieceAt_of_wrote h]
  | groundHeight => simp only [readValue, h.ground]
  | minId => rw [readValue, readValue, h.minUnit]
  | maxId => rw [readValue, readValue, h.maxUnit]
  | busy | xzHypot | atan | hypot | buggerOff | veteranLevel | unitIsOnThisComp | myId => rfl

/-- A value that can be written is read as it is kept. -/
lemma readValue_of_wrote_self (h : host.Wrote unit v n w w') (hv : v.isWritable = true)
    {u : UnitView} (hu : host.unit? unit w = some u) :
    readValue host unit p w' v a b = .ok (v.kept n) := by
  have hown : ownUnit host unit w' = .ok (u.assign v n) := by
    rw [ownUnit, h.own, hu]
    rfl
  cases v with
  | activation | standingMoveOrders | standingFireOrders | inBuildStance | yardOpen | armored =>
    simp only [readValue, hown]
    rfl
  | busy | buggerOff => rfl
  | _ => cases hv

/-! ### Setting a value and getting it -/

lemma run_setValue_of_sets (h : host.Sets unit v n m.world w') :
    (setValue host unit v.number n).run.run m = (.ok (), { m with world := w' }) := by
  rw [setValue, LinkedValue.ofNumber?_number]
  cases h with
  | effect hwrite happly =>
    simp only [hwrite]
    rw [perform, run_get_bind, happly]
    rfl
  | ignored hwrite =>
    simp only [hwrite]
    rfl

lemma run_setValue_of_readOnly (h : v.isWritable = false) (n : Int32) (m : Machine σ) :
    (setValue host unit v.number n).run.run m = (.error (.fault (.readOnlyValue v)), m) := by
  rw [setValue, LinkedValue.ofNumber?_number]
  simp only [(v.write_eq_refused_iff n).2 h]
  rfl

lemma run_getValue (unit : UnitId) (v : LinkedValue) (a b : Int32) (m : Machine σ) :
    (getValue host unit v.number a b).run.run m =
      match readValue host unit m.environment.program m.world v a b with
      | .ok n => (.ok n, m)
      | .error e => (.error (.fault e), m) := by
  rw [getValue, LinkedValue.ofNumber?_number]
  simp only [run_get_bind]
  cases readValue host unit m.environment.program m.world v a b <;> rfl

/-- A thread sets a linked value by its number and gets it again. -/
def setAndGet (host : Host σ) (unit : UnitId) (number n : Int32) : Exec σ Int32 := do
  push number
  push n
  let _ ← execute host unit ⟨.setValue, 0, 0⟩
  push number
  let _ ← execute host unit ⟨.getValue, 0, 0⟩
  pop

lemma run_push (x : Int32) (m : Machine σ) :
    (push x).run.run m = (.ok (), { m with thread := m.thread.push x }) := rfl

lemma run_pop (m : Machine σ) :
    (pop : Exec σ Int32).run.run m = (.ok m.thread.top, { m with thread := m.thread.pop }) := rfl

lemma run_execute_setValue (number n : Int32) (m : Machine σ) :
    (execute host unit ⟨.setValue, 0, 0⟩).run.run
        { m with thread := (m.thread.push number).push n } =
      match (setValue host unit number n).run.run m with
      | (.ok _, m') => (.ok none, m')
      | (.error failure, m') => (.error failure, m') := by
  have hexecute : execute host unit ⟨.setValue, 0, 0⟩ = (do
      let n ← pop
      let number ← pop
      setValue host unit number n
      return none) := rfl
  rw [hexecute, run_bind, run_pop]
  show (pop >>= fun number => setValue host unit number n >>= fun _ => pure none).run.run
    { m with thread := m.thread.push number } = _
  rw [run_bind, run_pop]
  show (setValue host unit number n >>= fun _ => pure none).run.run m = _
  rw [run_bind]
  rcases (setValue host unit number n).run.run m with ⟨_ | _, _⟩ <;> rfl

lemma run_execute_getValue (number : Int32) (m : Machine σ) :
    (execute host unit ⟨.getValue, 0, 0⟩).run.run { m with thread := m.thread.push number } =
      match (getValue host unit number 0 0).run.run m with
      | (.ok x, m') => (.ok none, { m' with thread := m'.thread.push x })
      | (.error failure, m') => (.error failure, m') := by
  have hexecute : execute host unit ⟨.getValue, 0, 0⟩ = (do
      let number ← pop
      push (← getValue host unit number 0 0)
      return none) := rfl
  rw [hexecute, run_bind, run_pop]
  show (getValue host unit number 0 0 >>= fun x => push x >>= fun _ => pure none).run.run m = _
  rw [run_bind]
  rcases (getValue host unit number 0 0).run.run m with ⟨_ | _, _⟩ <;> rfl

/-- The two instructions leave the thread as it was. -/
lemma run_setAndGet {x : Int32} (hset : host.Sets unit v n m.world w')
    (hget : readValue host unit m.environment.program w' v 0 0 = .ok x) :
    (setAndGet host unit v.number n).run.run m = (.ok x, { m with world := w' }) := by
  have hread : (getValue host unit v.number 0 0).run.run { m with world := w' } =
      (.ok x, { m with world := w' }) := by
    simp only [run_getValue, hget]
  have hafter : (execute host unit ⟨.getValue, 0, 0⟩).run.run
      { m with world := w', thread := m.thread.push v.number } =
        (.ok none, { m with world := w', thread := m.thread.push x }) := by
    rw [run_execute_getValue v.number { m with world := w' }, hread]
  simp only [setAndGet, run_bind, run_push, run_execute_setValue, run_setValue_of_sets hset, hafter]
  rfl

end Machine

end Lockstep.Script
