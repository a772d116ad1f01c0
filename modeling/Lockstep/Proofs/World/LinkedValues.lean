import Lockstep.Proofs.Script.Readings
import Lockstep.Proofs.World.Provision
import Lockstep.Proofs.World.Walls
/-!
# Linked values are cells

What a script sets in a linked value goes through the world, which may have more to do about it: it
tells of units that are switched on, it opens a yard only if nobody is in the way, and it sends
units off a footprint.  None of this shows in any other linked value (`Settled.exists_wrote`), and a
script reads what it has set, except that a yard which was not opened or closed is as it was
(`linked_values_are_cells`).
-/

namespace Lockstep

lemma SortedTable.mapWithKey_self {κ ν : Type} [Ranked κ] (t : SortedTable κ ν) :
    t.mapWithKey (fun _ v => v) = t :=
  SortedTable.ext fun key => by rw [get?_mapWithKey, Option.map_id']

lemma SortedTable.minKey?_mapWithKey {κ ν μ : Type} [Ranked κ] (t : SortedTable κ ν)
    (f : κ → ν → μ) : (t.mapWithKey f).minKey? = t.minKey? := by
  rw [minKey?, minKey?, mapWithKey, List.head?_map, Option.map_map]
  rfl

/-- Where a piece of a unit is depends on the pieces and on the place of the unit. -/
lemma UnitState.bind_pieceWorldPosition?_congr {u u' : UnitState} (hpieces : u'.pieces = u.pieces)
    (hposition : u'.position = u.position) (hrotation : u'.rotation = u.rotation) (name : String) :
    (u'.pieceIndex? name).bind u'.pieceWorldPosition? =
      (u.pieceIndex? name).bind u.pieceWorldPosition? := by
  have hplace : u'.pieceWorldPosition? = u.pieceWorldPosition? := by
    funext i
    simp only [pieceWorldPosition?, pieceLocalPosition?, hpieces, hposition, hrotation]
  rw [hplace, pieceIndex?, pieceIndex?, hpieces]

namespace World

open Script (Effect Environment Host LinkedValue Machine Thread UnitView truth)

variable {s : Setup} {past : List Step} {w w₀ w' : World} {id : UnitId} {u : UnitState}
  {v : LinkedValue} {n : Int32}

/-! ### Worlds in which a value has been written -/

/-- Where units are changed one by one, and of what scripts read only a linked value of one of them,
that value has been written. -/
lemma wrote_of_mapWithKey {f : UnitId → UnitState → UnitState}
    (hunits : w'.units = w.units.mapWithKey f) (hterrain : w'.terrain = w.terrain)
    (hnext : w'.nextUnit = w.nextUnit) (hpieces : ∀ other u, (f other u).pieces = u.pieces)
    (hown : ∀ u, w.units.get? id = some u → (f id u).view = u.view.assign v n)
    (hothers : ∀ other u, other ≠ id → (f other u).view = u.view) : host.Wrote id v n w w' := by
  have hget : ∀ other, w'.units.get? other = (w.units.get? other).map (f other) := fun other => by
    rw [hunits, SortedTable.get?_mapWithKey]
  -- no linked value is the place or the heading of a unit
  have hplace : ∀ {other u}, w.units.get? other = some u →
      (f other u).position = u.position ∧ (f other u).rotation = u.rotation := by
    intro other u hu
    by_cases heq : other = id
    · subst heq
      exact ⟨congrArg UnitView.position (hown u hu), congrArg UnitView.rotation (hown u hu)⟩
    · have hview := hothers other u heq
      exact ⟨congrArg UnitView.position hview, congrArg UnitView.rotation hview⟩
  refine
    { own := ?_
      others := fun other hne => ?_
      pieces := fun other name => ?_
      ground := fun x z => by simp only [host, hterrain]
      minUnit := by simp only [host, hunits, SortedTable.minKey?_mapWithKey]
      maxUnit := by simp only [host, hnext] }
  · simp only [host, hget, Option.map_map]
    cases hu : w.units.get? id with
    | none => rfl
    | some u => exact congrArg some (hown u hu)
  · simp only [host, hget, Option.map_map]
    exact congrArg (Option.map · _) (funext fun u => hothers other u hne)
  · simp only [host, piecePosition, World.unit, hget]
    cases hu : w.units.get? other with
    | none => rfl
    | some u =>
      obtain ⟨hposition, hrotation⟩ := hplace hu
      simp only [Option.map_some]
      rw [UnitState.bind_pieceWorldPosition?_congr (hpieces other u) hposition hrotation]

lemma wrote_of_modify {f : UnitState → UnitState} (hunits : w'.units = w.units.modify id f)
    (hterrain : w'.terrain = w.terrain) (hnext : w'.nextUnit = w.nextUnit)
    (hpieces : ∀ u, (f u).pieces = u.pieces) (hview : ∀ u, (f u).view = u.view.assign v n) :
    host.Wrote id v n w w' := by
  refine wrote_of_mapWithKey hunits hterrain hnext (fun other u => ?_) (fun u _ => ?_)
    fun other u hne => ?_
  · split
    · exact hpieces u
    · rfl
  · rw [if_pos rfl, hview]
  · rw [if_neg (by rwa [Ranked.rank_eq_iff])]

/-- A value that is written as it was makes no difference. -/
lemma wrote_same (hunits : w'.units = w.units) (hterrain : w'.terrain = w.terrain)
    (hnext : w'.nextUnit = w.nextUnit)
    (hview : ∀ u, w.units.get? id = some u → u.view.assign v n = u.view) :
    host.Wrote id v n w w' :=
  wrote_of_mapWithKey (by rw [hunits, SortedTable.mapWithKey_self]) hterrain hnext (fun _ _ => rfl)
    (fun u hu => (hview u hu).symm) fun _ _ _ => rfl

/-! ### What the world makes of it -/

lemma reporting_of_ok {operation : String} {a : Action Unit} (h : a.on w = (.ok (), w')) :
    reporting operation a w = .ok w' := by
  rw [reporting, h]

lemma reporting_of_refused {operation : String} {a : Action Unit} {cause : Refusal}
    (h : a.on w = (.error (.refused cause), w')) :
    reporting operation a w = .ok (w'.note (.effectIgnored operation cause)) := by
  rw [reporting, h]

/-- The yard of a unit on the map is operated, or the world stays as it is, and then it has
answered or refused. -/
lemma Settled.trySetYardOpen_on (hw : Settled w) (hu : w.units.get? id = some u)
    (isOpen : Bool) :
    (∃ g, (trySetYardOpen id isOpen).on w = (.ok true,
      { w with
        units := w.units.modify id fun u => { u with yardOpen := isOpen }, occupancy := g })) ∨
    (trySetYardOpen id isOpen).on w = (.ok false, w) ∨
    ∃ cause, (trySetYardOpen id isOpen).on w = (.error (.refused cause), w) := by
  obtain ⟨t, r, hs⟩ := hw.exists_stands hu
  obtain ⟨region, hregion⟩ := Option.isSome_iff_exists.1 hs.onMap
  have ht : w.definitions.unitType u.unitType = .ok t := hs.unitType
  simp only [trySetYardOpen, Action.on_get_bind, Action.on_ofExcept_bind, Action.on_require_bind,
    unitFootprint_eq_ok hu hs, unit_eq_ok.2 hu, ht]
  cases t.yardMap with
  | none => exact .inr (.inr ⟨_, rfl⟩)
  | some yard =>
  obtain ⟨blocked, hblocked⟩ := exists_isYardBlocked hregion hs.lt yard isOpen
  obtain ⟨g, hg⟩ := exists_claim hregion hs.lt yard id isOpen
  simp only [Action.on_require_bind, footprintRegion_eq_ok.2 hregion, Action.on_checked_bind,
    hblocked]
  cases blocked with
  | true => exact .inr (.inl rfl)
  | false =>
    simp only [Bool.false_eq_true, if_false, Action.on_checked_bind, hg, Action.on_set_bind]
    rw [Action.on_bind, updateUnit_on (w := { w with occupancy := g }) hu]
    exact .inl ⟨g, rfl⟩

/-- A script is not told whether the yard was operated. -/
lemma setYardOpen_on {isOpen : Bool} {r : Except Failure Bool}
    (h : (trySetYardOpen id isOpen).on w = (r, w')) :
    (setYardOpen id isOpen).on w = (r.map fun _ => (), w') := by
  rw [setYardOpen, Action.on_bind, h]
  cases r <;> rfl

/-- What a script reads of a linked value of its unit right after it has set it. -/
def readBack (w : World) (id : UnitId) (u : UnitState) (v : LinkedValue) (n : Int32) : Int32 :=
  match v with
  | .standingMoveOrders | .standingFireOrders => n
  | .activation | .inBuildStance | .armored => truth (n != 0)
  | .yardOpen =>
    match ((trySetYardOpen id (n != 0)).on w).1 with
    | .ok true => truth (n != 0)
    | _ => truth u.yardOpen
  | _ => 0

lemma truth_ne_zero (b : Bool) : (truth b != 0) = b := by
  cases b <;> rfl

/-- A yard that is written as it is. -/
lemma assign_yardOpen_self (hu : w.units.get? id = some u) :
    ∀ u', w.units.get? id = some u' →
      u'.view.assign .yardOpen (truth u.yardOpen) = u'.view := by
  intro u' hu'
  cases hu.symm.trans hu'
  simp only [UnitView.assign, truth_ne_zero, if_pos, reduceCtorEq, if_false]
  rfl

lemma exists_wrote_update (hu : w.units.get? id = some u) (f : UnitState → UnitState) {e : Effect}
    {operation : String} (hwrite : v.write n = .effect e)
    (happly : applyEffect id e = reporting operation (updateUnit id f))
    (hpieces : ∀ u, (f u).pieces = u.pieces) (hview : ∀ u, (f u).view = u.view.assign v n) :
    ∃ w', host.Sets id v n w w' ∧ host.Wrote id v n w w' :=
  ⟨w.modifyUnit id f,
    .effect hwrite ((congrFun happly w).trans (reporting_of_ok (updateUnit_on hu f))),
    wrote_of_modify rfl rfl rfl hpieces hview⟩

/-- Whoever is told to leave gets an order, and orders are not read by scripts. -/
lemma view_askedToLeave (r : Rect) (u : UnitState) : (u.askedToLeave r).view = u.view ∧
    (u.askedToLeave r).pieces = u.pieces := by
  rw [UnitState.askedToLeave]
  split <;> exact ⟨rfl, rfl⟩

lemma Settled.exists_wrote_buggerOff (hw : Settled w) (hu : w.units.get? id = some u)
    (n : Int32) : ∃ w', host.Sets id .buggerOff n w w' ∧ host.Wrote id .buggerOff n w w' := by
  suffices ∃ w', (setBuggerOff id (n != 0)).on w = (.ok (), w') ∧
      host.Wrote id .buggerOff n w w' by
    obtain ⟨w', hon, hwrote⟩ := this
    exact ⟨w', .effect rfl (reporting_of_ok hon), hwrote⟩
  rw [setBuggerOff]
  split
  · obtain ⟨r, region, -, -, hon⟩ := hw.emitBuggerOff_eq hu
    have hseen : ∀ other (u : UnitState),
        (if other ∈ w.unitsIn region then u.askedToLeave r else u).view = u.view ∧
          (if other ∈ w.unitsIn region then u.askedToLeave r else u).pieces = u.pieces := by
      intro other u
      split
      · exact view_askedToLeave r u
      · exact ⟨rfl, rfl⟩
    exact ⟨_, hon, wrote_of_mapWithKey rfl rfl rfl (fun other u => (hseen other u).2)
      (fun u _ => (hseen id u).1) fun other u _ => (hseen other u).1⟩
  · exact ⟨w, rfl, wrote_same rfl rfl rfl fun _ _ => rfl⟩

/-- A linked value that can be set is set, and has in it what is read back; the refusal of a yard is
noted and nothing else. -/
theorem Settled.exists_wrote (hw : Settled w) (hu : w.units.get? id = some u)
    (hv : v.isWritable = true) (n : Int32) :
    ∃ w' k, host.Sets id v n w w' ∧ host.Wrote id v k w w' ∧ v.kept k = readBack w id u v n := by
  cases v with
  | activation =>
    have hon : (setActivation id (n != 0)).on w = (.ok (),
        (w.modifyUnit id fun u => { u with activated := n != 0 }).tell
          (if n != 0 then .activated id else .deactivated id)) := by
      rw [setActivation, Action.on_bind, updateUnit_on hu]
      rfl
    refine ⟨_, n, .effect rfl (reporting_of_ok hon), ?_, rfl⟩
    exact wrote_of_modify (f := fun u => { u with activated := n != 0 }) rfl rfl rfl (fun _ => rfl)
      fun _ => rfl
  | standingMoveOrders =>
    obtain ⟨w', hsets, hwrote⟩ := exists_wrote_update (v := .standingMoveOrders) (n := n) hu
      (fun u => { u with moveOrders := n }) rfl rfl (fun _ => rfl) fun _ => rfl
    exact ⟨w', n, hsets, hwrote, rfl⟩
  | standingFireOrders =>
    obtain ⟨w', hsets, hwrote⟩ := exists_wrote_update (v := .standingFireOrders) (n := n) hu
      (fun u => { u with fireOrders := n }) rfl rfl (fun _ => rfl) fun _ => rfl
    exact ⟨w', n, hsets, hwrote, rfl⟩
  | inBuildStance =>
    obtain ⟨w', hsets, hwrote⟩ := exists_wrote_update (v := .inBuildStance) (n := n) hu
      (fun u => { u with inBuildStance := n != 0 }) rfl rfl (fun _ => rfl) fun _ => rfl
    exact ⟨w', n, hsets, hwrote, rfl⟩
  | armored =>
    obtain ⟨w', hsets, hwrote⟩ := exists_wrote_update (v := .armored) (n := n) hu
      (fun u => { u with armored := n != 0 }) rfl rfl (fun _ => rfl) fun _ => rfl
    exact ⟨w', n, hsets, hwrote, rfl⟩
  | busy => exact ⟨w, n, .ignored rfl, wrote_same rfl rfl rfl fun _ _ => rfl, rfl⟩
  | buggerOff =>
    obtain ⟨w', hsets, hwrote⟩ := hw.exists_wrote_buggerOff hu n
    exact ⟨w', n, hsets, hwrote, rfl⟩
  | yardOpen =>
    have hkept : LinkedValue.kept .yardOpen (truth u.yardOpen) = truth u.yardOpen := by
      rw [LinkedValue.kept, truth_ne_zero]
    rcases hw.trySetYardOpen_on hu (n != 0) with ⟨g, hon⟩ | hon | ⟨cause, hon⟩
    · refine ⟨_, n, .effect rfl (reporting_of_ok (setYardOpen_on hon)), ?_, by
        rw [readBack, hon]; rfl⟩
      exact wrote_of_modify (f := fun u => { u with yardOpen := n != 0 }) rfl rfl rfl
        (fun _ => rfl) fun _ => rfl
    · exact ⟨w, _, .effect rfl (reporting_of_ok (setYardOpen_on hon)),
        wrote_same rfl rfl rfl (assign_yardOpen_self hu), by simp only [hkept, readBack, hon]⟩
    · exact ⟨_, _, .effect rfl (reporting_of_refused (setYardOpen_on hon)),
        wrote_same rfl rfl rfl (assign_yardOpen_self hu), by simp only [hkept, readBack, hon]⟩
  | _ => cases hv

/-! ### What scripts read -/

/-- Each single write on the way from a world of a battle keeps the map in order. -/
lemma Settled.changes (h : Relation.ReflTransGen Change w₀ w) (hw : Settled w₀) : Settled w := by
  induction h with
  | refl => exact hw
  | tail _ write ih => exact ih.change write

/-- Whatever the word that a script gives for a value, and whether or not it can be set, a value
with another number is read as before. -/
lemma Settled.getValue_of_setValue (hw : Settled w) (hu : w.units.get? id = some u)
    {number number' : Int32} (hne : number' ≠ number) (n : Int32) (e e' : Environment)
    (t t' : Thread) (other : UnitId) (a b : Int32) :
    ((Machine.getValue host other number' a b).run.run
        ⟨((Machine.setValue host id number n).run.run ⟨w, e, t⟩).2.world, e', t'⟩).1 =
      ((Machine.getValue host other number' a b).run.run ⟨w, e', t'⟩).1 := by
  cases hset : LinkedValue.ofNumber? number with
  | none => simp only [Machine.setValue, hset]; rfl
  | some v =>
  cases LinkedValue.number_of_ofNumber? hset
  cases hget : LinkedValue.ofNumber? number' with
  | none => simp only [Machine.getValue, hget]; rfl
  | some v' =>
  cases LinkedValue.number_of_ofNumber? hget
  have hv : v' ≠ v := fun heq => hne (congrArg LinkedValue.number heq)
  cases hwritable : v.isWritable with
  | false => rw [Machine.run_setValue_of_readOnly hwritable]
  | true =>
    obtain ⟨w', k, hsets, hwrote, -⟩ := hw.exists_wrote hu hwritable n
    rw [Machine.run_setValue_of_sets (m := ⟨w, e, t⟩) hsets, Machine.run_getValue,
      Machine.run_getValue]
    simp only [Machine.readValue_of_wrote hwrote hv]
    cases Machine.readValue host other e'.program w v' a b <;> rfl

/-- **Linked values are cells of their own.**  In every world of a battle, also in the course of an
operation, the script of a unit can set each linked value that can be written and get it again.  It
gets what it has set: the number itself for standing orders, and otherwise whether that is zero.  A
yard that the world does not open or close is what it was, and two values are never kept.  No
attempt to set a value, whether it succeeds or not, shows in what any unit reads of another one,
with any arguments. -/
theorem linked_values_are_cells (h : Run s past w₀) (hw : Relation.ReflTransGen Change w₀ w)
    (hu : w.units.get? id = some u) (n : Int32) (e : Environment) (t : Thread) :
    (∀ v : LinkedValue, v.isWritable = true →
      ∃ w', (Machine.setAndGet host id v.number n).run.run ⟨w, e, t⟩ =
        (.ok (readBack w id u v n), ⟨w', e, t⟩)) ∧
    ∀ number number' : Int32, number' ≠ number → ∀ e' t' other a b,
      ((Machine.getValue host other number' a b).run.run
          ⟨((Machine.setValue host id number n).run.run ⟨w, e, t⟩).2.world, e', t'⟩).1 =
        ((Machine.getValue host other number' a b).run.run ⟨w, e', t'⟩).1 := by
  have hsettled := h.settled.changes hw
  refine ⟨fun v hv => ?_, fun number number' hne e' t' other a b =>
    hsettled.getValue_of_setValue hu hne n e e' t t' other a b⟩
  obtain ⟨w', k, hsets, hwrote, hkept⟩ := hsettled.exists_wrote hu hv n
  have hget : host.unit? id w = some u.view := by
    simp only [host, hu, Option.map_some]
  refine ⟨w', Machine.run_setAndGet (m := ⟨w, e, t⟩) hsets ?_⟩
  rw [Machine.readValue_of_wrote_self hwrote hv hget, hkept]

/-- While a tank stands on the open yard of a lab, the lab can be switched on, and its standing
orders are kept as they are given, but its yard stays open. -/
theorem linked_values_are_cells_yard :
    let w := (Sample.battle Sample.inTheYard).2
    let e := Environment.new Sample.program
    let t : Thread := default
    Run Sample.setup (Sample.battle Sample.inTheYard).1 w ∧
      (∃ w', (Machine.setAndGet host ⟨1⟩ 1 7).run.run ⟨w, e, t⟩ = (.ok 1, ⟨w', e, t⟩)) ∧
      (∃ w', (Machine.setAndGet host ⟨1⟩ 2 7).run.run ⟨w, e, t⟩ = (.ok 7, ⟨w', e, t⟩)) ∧
      (∃ w', (Machine.setAndGet host ⟨1⟩ 18 0).run.run ⟨w, e, t⟩ = (.ok 1, ⟨w', e, t⟩)) ∧
      ((Machine.getValue host ⟨2⟩ 74 1 0).run.run
          ⟨((Machine.setValue host ⟨1⟩ 18 0).run.run ⟨w, e, t⟩).2.world, e, t⟩).1 =
        ((Machine.getValue host ⟨2⟩ 74 1 0).run.run ⟨w, e, t⟩).1 := by
  intro w e t
  obtain ⟨hcomplete, hyard, hshut⟩ : Operation.AllComplete Sample.inTheYard Sample.start ∧
      (w.units.get? ⟨1⟩).map UnitState.yardOpen = some true ∧
      ((trySetYardOpen ⟨1⟩ false).on w).1 = .ok false := by decide +kernel
  have hrun : Run Sample.setup (Sample.battle Sample.inTheYard).1 w := Sample.run_battle hcomplete
  obtain ⟨lab, hlab, hopen⟩ := Option.map_eq_some_iff.1 hyard
  have hset := fun n => linked_values_are_cells hrun .refl hlab n e t
  have hstays : readBack w ⟨1⟩ lab .yardOpen 0 = 1 := by
    have hzero : ((0 : Int32) != 0) = false := rfl
    simp only [readBack, hzero, hshut, hopen]
    rfl
  obtain ⟨w', hw'⟩ := (hset 0).1 .yardOpen rfl
  rw [hstays] at hw'
  exact ⟨hrun, (hset 7).1 .activation rfl, (hset 7).1 .standingMoveOrders rfl, ⟨w', hw'⟩,
    (hset 0).2 18 74 (by decide) e t ⟨2⟩ 1 0⟩

end World

end Lockstep
