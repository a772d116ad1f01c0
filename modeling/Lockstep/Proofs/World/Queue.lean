import Lockstep.Proofs.World.Agenda
import Lockstep.Proofs.World.Casualties
/-!
# Who waits for a path

A unit that requests a path goes to the end of the queue, wherever it stood before; it leaves the
queue when it is served or when it is swept off the map.  So the queue can be read off what has
happened in a battle.  A request is outstanding if its unit has been neither served nor swept since,
and the units with an outstanding request are those that wait, in the order of their latest
requests.

Each operation takes some units out of the queue and puts at most one behind the others
(`exists_kept`); the rest is about lists of steps to which one step is added (`since_concat`).
-/

namespace Lockstep.World

variable {s : Setup} {past : List Step} {w : World} {st : Step} {o : Operation}
  {id other : UnitId} {m n budget : Nat} {record : List (UnitId × ThreadId)}

/-! ### Requests in the past -/

/-- A unit requests a path. -/
def Step.Requests (st : Step) (id : UnitId) : Prop := st.operation = .requestPath id

/-- A unit is the next one to get a path. -/
def Step.Serves (st : Step) (id : UnitId) : Prop :=
  st.operation = .popPathRequest ∧ st.before.popPathRequest.1 = some id

/-- A unit is taken off the map in a tick. -/
def Step.Sweeps (st : Step) (id : UnitId) : Prop :=
  (∃ budget, st.operation = .tick budget) ∧ st.before.unitExists id = true ∧
    (st.operation.after st.before).unitExists id = false

/-- What a unit has requested before is done with. -/
def Step.Settles (st : Step) (id : UnitId) : Prop := st.Serves id ∨ st.Sweeps id

/-- A step of some kind has been made, and since then none of another kind.  Whether a step is of
the first kind may depend on what came before it. -/
def Since (P : List Step → Step → Prop) (Q : Step → Prop) (past : List Step) : Prop :=
  ∃ before st after, past = before ++ st :: after ∧ P before st ∧ ∀ st' ∈ after, ¬Q st'

/-- A unit has requested a path, and has been neither served nor swept since. -/
def Outstanding (past : List Step) (id : UnitId) : Prop :=
  Since (fun _ st => st.Requests id) (fun st => st.Settles id) past

/-- The latest request of a unit came after so many steps. -/
def LatestRequest (past : List Step) (id : UnitId) (n : Nat) : Prop :=
  Since (fun before st => st.Requests id ∧ before.length = n) (fun st => st.Requests id) past

section Since

variable {P : List Step → Step → Prop} {Q : Step → Prop}

lemma not_since_nil : ¬Since P Q [] := by
  rintro ⟨before, st, after, heq, -⟩
  simp at heq

theorem since_concat : Since P Q (past ++ [st]) ↔ P past st ∨ Since P Q past ∧ ¬Q st := by
  constructor
  · rintro ⟨before, st', after, heq, hP, hQ⟩
    -- the last step is the one in question, or it came after that
    rcases List.eq_nil_or_concat after with rfl | ⟨after, last, rfl⟩
    · obtain ⟨rfl, hst⟩ := List.append_inj' heq rfl
      cases hst
      exact .inl hP
    · rw [List.concat_eq_append, ← List.cons_append, ← List.append_assoc] at heq
      obtain ⟨rfl, hst⟩ := List.append_inj' heq rfl
      cases hst
      exact .inr ⟨⟨before, st', after, rfl, hP, fun st'' hst'' => hQ st'' (by simp [hst''])⟩,
        hQ st (by simp)⟩
  · rintro (hP | ⟨⟨before, st', after, rfl, hP, hQ⟩, hst⟩)
    · exact ⟨past, st, [], rfl, hP, fun _ h => absurd h List.not_mem_nil⟩
    · refine ⟨before, st', after ++ [st], by simp, hP, fun st'' hst'' => ?_⟩
      rcases List.mem_append.1 hst'' with hst'' | hst''
      · exact hQ st'' hst''
      · rw [List.mem_singleton.1 hst'']
        exact hst

/-- Of two parts of the past, the step was made in the later one, or in the earlier one and nothing
of the other kind came in the later one. -/
lemma Since.of_append {later : List Step} (h : Since P Q (past ++ later)) :
    (∃ st ∈ later, ∃ before, P before st) ∨ Since P Q past ∧ ∀ st ∈ later, ¬Q st := by
  induction later using List.reverseRecOn with
  | nil => exact .inr ⟨by simpa using h, fun _ h => absurd h List.not_mem_nil⟩
  | append_singleton later last ih =>
    rw [← List.append_assoc, since_concat] at h
    rcases h with hP | ⟨hsince, hlast⟩
    · exact .inl ⟨last, by simp, _, hP⟩
    rcases ih hsince with ⟨st, hst, hP⟩ | ⟨hsince, hQ⟩
    · exact .inl ⟨st, List.mem_append_left _ hst, hP⟩
    · refine .inr ⟨hsince, fun st hst => ?_⟩
      rcases List.mem_append.1 hst with hst | hst
      · exact hQ st hst
      · rw [List.mem_singleton.1 hst]
        exact hlast

end Since

lemma outstanding_concat :
    Outstanding (past ++ [st]) id ↔ st.Requests id ∨ Outstanding past id ∧ ¬st.Settles id :=
  since_concat

lemma latestRequest_concat : LatestRequest (past ++ [st]) id n ↔
    (st.Requests id ∧ past.length = n) ∨ LatestRequest past id n ∧ ¬st.Requests id :=
  since_concat

lemma LatestRequest.lt (h : LatestRequest past id n) : n < past.length := by
  obtain ⟨before, st, after, rfl, ⟨-, rfl⟩, -⟩ := h
  simp

lemma LatestRequest.unique (h : LatestRequest past id m) (h' : LatestRequest past id n) :
    m = n := by
  induction past using List.reverseRecOn with
  | nil => exact absurd h not_since_nil
  | append_singleton past st ih =>
    rcases latestRequest_concat.1 h with ⟨hst, rfl⟩ | ⟨h, hst⟩ <;>
      rcases latestRequest_concat.1 h' with ⟨hst', rfl⟩ | ⟨h', hst'⟩
    · rfl
    · exact absurd hst hst'
    · exact absurd hst' hst
    · exact ih h h'

lemma Outstanding.exists_latest (h : Outstanding past id) : ∃ n, LatestRequest past id n := by
  induction past using List.reverseRecOn with
  | nil => exact absurd h not_since_nil
  | append_singleton past st ih =>
    by_cases hst : st.Requests id
    · exact ⟨past.length, latestRequest_concat.2 (.inl ⟨hst, rfl⟩)⟩
    · obtain ⟨n, hn⟩ := ih ((outstanding_concat.1 h).resolve_left hst).1
      exact ⟨n, latestRequest_concat.2 (.inr ⟨hn, hst⟩)⟩

/-! ### What a step does to the queue -/

lemma pathRequests_sweep (w : World) :
    w.sweep.pathRequests = w.pathRequests.filter fun id => decide (id ∉ w.deadUnits) := by
  have hswept := sweep_induction (w := w)
    (P := fun gone v => v.pathRequests = w.pathRequests.filter fun id => decide (id ∉ gone))
    (fun {gone first v} hfirst hv => by
      rw [sweepUnit_of_exists hfirst]
      simp only [hv, List.filter_filter, List.mem_cons, not_or, Bool.decide_and])
    (List.filter_eq_self.2 fun _ _ => by simp).symm
  simpa only [List.mem_reverse] using hswept

/-- Nobody is killed in a tick: those that are dead at its end were so before. -/
lemma sameLives_beforeSweep (budget : Nat) (w : World) :
    SameLives w (w.afterScripts budget).stepPieces.stepProjectiles :=
  trans_of SameLives (sameLives_afterScripts budget w)
    (sameLives_of_map (f := UnitState.stepPieces) (fun _ => rfl) rfl)

lemma unitExists_after_tick (hw : Scheduled record w) (ho : (Operation.tick budget).Completes w)
    (id : UnitId) : ((Operation.tick budget).after w).unitExists id =
      (decide (id ∉ w.deadUnits) && w.unitExists id) := by
  have hlives := sameLives_beforeSweep budget w
  simp only [after_tick hw ho, unitExists_sweep, hlives.mem_deadUnits_iff,
    unitExists_congr (hlives id)]

lemma pathRequests_after_tick (hw : Scheduled record w)
    (ho : (Operation.tick budget).Completes w) : ((Operation.tick budget).after w).pathRequests =
      w.pathRequests.filter fun id => decide (id ∉ w.deadUnits) := by
  have hscripts : SameAgenda w.beginTick (w.afterScripts budget) :=
    Respects.forM (fun id _ => sameAgenda_runScriptsNoting budget id) w.beginTick
  have hqueue : (w.afterScripts budget).stepPieces.stepProjectiles.pathRequests =
    w.pathRequests := hscripts.pathRequests
  simp only [after_tick hw ho, pathRequests_sweep, hqueue,
    (sameLives_beforeSweep budget w).mem_deadUnits_iff]

lemma sweeps_tick_iff (hw : Scheduled record w) (ho : (Operation.tick budget).Completes w) :
    Step.Sweeps ⟨w, .tick budget⟩ id ↔ id ∈ w.deadUnits := by
  have hafter := unitExists_after_tick hw ho id
  constructor
  · rintro ⟨-, hbefore, hgone⟩
    rw [hgone, hbefore] at hafter
    simpa using hafter.symm
  · intro hdead
    refine ⟨⟨budget, rfl⟩, unitExists_of_mem_deadUnits hdead, ?_⟩
    rw [hafter]
    simp [hdead]

/-- The unit that an operation puts at the end of the queue. -/
def Operation.requested : Operation → List UnitId
  | requestPath id => [id]
  | _ => []

lemma Step.requests_iff : st.Requests id ↔ id ∈ st.operation.requested := by
  rw [Step.Requests]
  cases st.operation <;> simp [Operation.requested, eq_comm]

lemma Step.Settles.operation (h : st.Settles id) :
    st.operation = .popPathRequest ∨ ∃ budget, st.operation = .tick budget :=
  h.imp And.left And.left

lemma Step.Requests.not_settles (h : st.Requests id) : ¬st.Settles other := fun hsettles => by
  rcases hsettles.operation with hop | ⟨budget, hop⟩ <;> cases h.symm.trans hop

/-- Those in a queue who go neither to its end nor out of it. -/
structure Step.Retains (st : Step) (queue kept : List UnitId) : Prop where
  sublist : kept.Sublist queue
  mem_iff : ∀ id, id ∈ kept ↔ id ∈ queue ∧ ¬st.Requests id ∧ ¬st.Settles id

lemma retains_requestPath (w : World) (id : UnitId) (queue : List UnitId) :
    Step.Retains ⟨w, .requestPath id⟩ queue (queue.filter fun other => decide (other ≠ id)) where
  sublist := List.filter_sublist
  mem_iff other := by
    have hrequests : Step.Requests ⟨w, .requestPath id⟩ other ↔ other = id := by
      simp [Step.requests_iff, Operation.requested]
    have hself : Step.Requests ⟨w, .requestPath id⟩ id := rfl
    simp [hrequests, hself.not_settles]

lemma popPathRequest_fst (w : World) : w.popPathRequest.1 = w.pathRequests.head? := by
  rw [popPathRequest]
  split <;> simp [*]

lemma pathRequests_popPathRequest (w : World) :
    w.popPathRequest.2.pathRequests = w.pathRequests.tail := by
  rw [popPathRequest]
  split <;> simp [*]

/-- A unit that stands in the queue once does not stand there any more when it has been served. -/
lemma retains_popPathRequest (hnodup : w.pathRequests.Nodup) :
    Step.Retains ⟨w, .popPathRequest⟩ w.pathRequests w.pathRequests.tail where
  sublist := List.tail_sublist _
  mem_iff id := by
    have hrequests : ¬Step.Requests ⟨w, .popPathRequest⟩ id := nofun
    have hsettles : Step.Settles ⟨w, .popPathRequest⟩ id ↔ w.pathRequests.head? = some id := by
      rw [← popPathRequest_fst]
      refine ⟨?_, fun h => .inl ⟨rfl, h⟩⟩
      rintro (⟨-, h⟩ | ⟨⟨budget, hop⟩, -⟩)
      · exact h
      · cases hop
    rw [hsettles, and_iff_right hrequests]
    cases hqueue : w.pathRequests with
    | nil => simp
    | cons first rest =>
      rw [hqueue] at hnodup
      have hfirst : first ∉ rest := (List.nodup_cons.1 hnodup).1
      rw [List.tail_cons, List.head?_cons, Option.some_inj, List.mem_cons]
      constructor
      · intro hid
        exact ⟨.inr hid, fun heq => hfirst (heq ▸ hid)⟩
      · rintro ⟨heq | hid, hne⟩
        · exact absurd heq.symm hne
        · exact hid

lemma retains_tick (hw : Scheduled record w) (ho : (Operation.tick budget).Completes w)
    (queue : List UnitId) :
    Step.Retains ⟨w, .tick budget⟩ queue (queue.filter fun id => decide (id ∉ w.deadUnits)) where
  sublist := List.filter_sublist
  mem_iff id := by
    have hrequests : ¬Step.Requests ⟨w, .tick budget⟩ id := nofun
    have hserves : ¬Step.Serves ⟨w, .tick budget⟩ id := nofun
    simp [Step.Settles, hrequests, hserves, sweeps_tick_iff hw ho]

lemma retains_of_not_writesAgenda (ho : ¬o.WritesAgenda) (w : World) (queue : List UnitId) :
    Step.Retains ⟨w, o⟩ queue queue where
  sublist := .refl _
  mem_iff id := by
    have hrequests : ¬Step.Requests ⟨w, o⟩ id := by
      rintro ⟨⟩
      exact ho trivial
    have hsettles : ¬Step.Settles ⟨w, o⟩ id := fun h => by
      rcases h.operation with heq | ⟨budget, heq⟩ <;> cases heq <;> exact ho trivial
    simp [hrequests, hsettles]

/-- An operation takes those out of the queue that it serves or sweeps, and who requests a path goes
to the end. -/
theorem exists_kept (hw : Scheduled record w) (hnodup : w.pathRequests.Nodup)
    (ho : o.Completes w) : ∃ kept, Step.Retains ⟨w, o⟩ w.pathRequests kept ∧
      (o.after w).pathRequests = kept ++ o.requested := by
  by_cases hagenda : o.WritesAgenda
  · cases o with
    | requestPath id => exact ⟨_, retains_requestPath w id _, rfl⟩
    | popPathRequest =>
      refine ⟨_, retains_popPathRequest hnodup, ?_⟩
      exact (pathRequests_popPathRequest w).trans (List.append_nil _).symm
    | tick budget =>
      refine ⟨_, retains_tick hw ho _, ?_⟩
      rw [pathRequests_after_tick hw ho]
      exact (List.append_nil _).symm
    | _ => exact hagenda.elim
  · refine ⟨_, retains_of_not_writesAgenda hagenda w _, ?_⟩
    have hrequested : o.requested = [] := by
      cases o with
      | requestPath id => exact absurd trivial hagenda
      | _ => rfl
    rw [(sameAgenda_after hagenda w).pathRequests, hrequested, List.append_nil]

/-! ### The queue of a battle -/

/-- A queue in which just those wait whose requests are outstanding, in the order of their latest
requests. -/
structure InOrder (past : List Step) (queue : List UnitId) : Prop where
  mem_iff : ∀ id, id ∈ queue ↔ Outstanding past id
  ordered : queue.Pairwise fun id other =>
    ∃ m n, LatestRequest past id m ∧ LatestRequest past other n ∧ m < n

lemma InOrder.nodup {queue : List UnitId} (h : InOrder past queue) : queue.Nodup := by
  refine h.ordered.imp ?_
  rintro id _ ⟨m, n, hm, hn, hlt⟩ rfl
  exact absurd (hm.unique hn) (Nat.ne_of_lt hlt)

lemma InOrder.concat {queue kept : List UnitId} (h : InOrder past queue)
    (hkept : st.Retains queue kept) : InOrder (past ++ [st]) (kept ++ st.operation.requested) where
  mem_iff id := by
    rw [List.mem_append, hkept.mem_iff, ← Step.requests_iff, h.mem_iff, outstanding_concat]
    by_cases hst : st.Requests id <;> simp [hst]
  ordered := by
    -- who stays has not asked again, so the latest request is the one it was
    have hlatest {id : UnitId} {n : Nat} (hid : id ∈ kept) (hn : LatestRequest past id n) :
        LatestRequest (past ++ [st]) id n :=
      latestRequest_concat.2 (.inr ⟨hn, ((hkept.mem_iff id).1 hid).2.1⟩)
    refine List.pairwise_append.2 ⟨?_, ?_, fun id hid other hother => ?_⟩
    · refine (h.ordered.sublist hkept.sublist).imp_of_mem ?_
      rintro id other hid hother ⟨m, n, hm, hn, hlt⟩
      exact ⟨m, n, hlatest hid hm, hlatest hother hn, hlt⟩
    · cases st.operation <;> simp [Operation.requested]
    · obtain ⟨m, hm⟩ := ((h.mem_iff id).1 ((hkept.mem_iff id).1 hid).1).exists_latest
      have hlast : LatestRequest (past ++ [st]) other past.length :=
        latestRequest_concat.2 (.inl ⟨Step.requests_iff.2 hother, rfl⟩)
      exact ⟨m, past.length, hlatest hid hm, hlast, hm.lt⟩

lemma pathRequests_new {s : Setup} (h : World.new s = .ok w) : w.pathRequests = [] := by
  rw [World.new] at h
  obtain ⟨_, -, h⟩ := exists_of_bind_eq_ok h
  obtain ⟨occupancy, -, h⟩ := exists_of_bind_eq_ok h
  obtain ⟨metal, -, h⟩ := exists_of_bind_eq_ok h
  cases h
  rfl

/-- The induction is on the operations of the battle. -/
theorem Run.inOrder (h : Run s past w) : InOrder past w.pathRequests := by
  induction h with
  | start h =>
    rw [pathRequests_new h]
    exact ⟨fun id => iff_of_false List.not_mem_nil not_since_nil, .nil⟩
  | @step past w o hrun ho ih =>
    obtain ⟨kept, hkept, hafter⟩ := exists_kept hrun.scheduled ih.nodup ho
    rw [hafter]
    exact ih.concat hkept

/-- The first in a queue is the unit whose latest request is the oldest. -/
lemma InOrder.head?_eq_some_iff {queue : List UnitId} (h : InOrder past queue) :
    queue.head? = some id ↔ Outstanding past id ∧ ∃ m, LatestRequest past id m ∧
      ∀ other n, Outstanding past other → LatestRequest past other n → m ≤ n := by
  obtain ⟨hmem, hordered⟩ := h
  simp only [← hmem]
  cases queue with
  | nil => simp
  | cons first rest =>
    have hbehind := (List.pairwise_cons.1 hordered).1
    rw [List.head?_cons, Option.some_inj]
    constructor
    · rintro rfl
      obtain ⟨m, hm⟩ := ((hmem first).1 List.mem_cons_self).exists_latest
      refine ⟨List.mem_cons_self, m, hm, fun other n hother hn => ?_⟩
      rcases List.mem_cons.1 hother with rfl | hother
      · exact Nat.le_of_eq (hm.unique hn)
      · obtain ⟨m', n', hm', hn', hlt⟩ := hbehind other hother
        rw [hm.unique hm', hn.unique hn']
        exact Nat.le_of_lt hlt
    · rintro ⟨hid, m, hm, holdest⟩
      rcases List.mem_cons.1 hid with rfl | hid
      · rfl
      · -- the first one asked before this one, which is the oldest
        obtain ⟨m', n', hm', hn', hlt⟩ := hbehind id hid
        have hle := holdest first m' List.mem_cons_self hm'
        rw [hm.unique hn'] at hle
        exact absurd hlt (Nat.not_lt.2 hle)

/-- Between a step that settles what a unit has requested and one that serves it there is a new
request. -/
lemma Run.exists_request {between after : List Step} {st' : Step}
    (h : Run s (past ++ st :: between ++ st' :: after) w) (hst : st.Settles id)
    (hst' : st'.Serves id) : ∃ st'' ∈ between, st''.Requests id := by
  have hinOrder := h.of_append_cons.1.inOrder
  have hwaits : Outstanding (past ++ st :: between) id := by
    rw [← hinOrder.mem_iff]
    exact List.mem_of_mem_head? ((popPathRequest_fst _).symm.trans hst'.2)
  rcases hwaits.of_append with ⟨st'', hst'', -, hrequests⟩ | ⟨-, hnot⟩
  · rcases List.mem_cons.1 hst'' with rfl | hst''
    · exact absurd hst hrequests.not_settles
    · exact ⟨st'', hst'', hrequests⟩
  · exact absurd hst (hnot st List.mem_cons_self)

/-- **Paths are served in the order of requests.**  In every world that a battle comes to, each unit
waits at most once, and it waits if and only if it has requested a path and was neither served nor
swept since.  The queue is in the order of the latest requests; the next unit to be served is the
one with the oldest of them, and there is none only if nobody waits.  So once a unit has been served
or swept, it is served only after a new request. -/
theorem paths_in_order_of_requests (h : Run s past w) :
    w.pathRequests.Nodup ∧
    (∀ id, id ∈ w.pathRequests ↔ Outstanding past id) ∧
    (w.pathRequests.Pairwise fun id other =>
      ∃ m n, LatestRequest past id m ∧ LatestRequest past other n ∧ m < n) ∧
    (∀ id, w.popPathRequest.1 = some id ↔ Outstanding past id ∧ ∃ m, LatestRequest past id m ∧
      ∀ other n, Outstanding past other → LatestRequest past other n → m ≤ n) ∧
    (w.popPathRequest.1 = none ↔ ∀ id, ¬Outstanding past id) ∧
    ∀ {before st between st' after id}, past = before ++ st :: between ++ st' :: after →
      st.Settles id → st'.Serves id → ∃ st'' ∈ between, st''.Requests id := by
  have hinOrder := h.inOrder
  simp only [popPathRequest_fst]
  refine ⟨hinOrder.nodup, hinOrder.mem_iff, hinOrder.ordered, fun id => hinOrder.head?_eq_some_iff,
    ?_, fun hpast hst hst' => Run.exists_request (hpast ▸ h) hst hst'⟩
  simp only [List.head?_eq_none_iff, List.eq_nil_iff_forall_not_mem, hinOrder.mem_iff]

/-- A tank requests a path before two others do, and once more after them; one of the others is
killed and swept. -/
def Sample.impatient : List Operation :=
  [.addPlayer (.new .human "" 0), .spawnUnit "tank" ⟨0⟩ 0 none,
    .spawnUnit "tank" ⟨0⟩ (.ofWholes 16 0 0) none, .spawnUnit "tank" ⟨0⟩ (.ofWholes (-16) 0 0) none,
    .requestPath ⟨1⟩, .requestPath ⟨2⟩, .requestPath ⟨3⟩, .requestPath ⟨1⟩, .quietlyKill ⟨2⟩,
    .tick 10]

theorem paths_in_order_of_requests_impatient :
    let b := Sample.battle Sample.impatient
    Run Sample.setup b.1 b.2 ∧ b.2.pathRequests = [⟨3⟩, ⟨1⟩] ∧ b.2.popPathRequest.1 = some ⟨3⟩ ∧
      Outstanding b.1 ⟨1⟩ ∧ ¬Outstanding b.1 ⟨2⟩ ∧ Outstanding b.1 ⟨3⟩ := by
  intro b
  obtain ⟨hcomplete, hqueue, hpop⟩ : Operation.AllComplete Sample.impatient Sample.start ∧
      b.2.pathRequests = [⟨3⟩, ⟨1⟩] ∧ b.2.popPathRequest.1 = some ⟨3⟩ := by decide +kernel
  have hrun : Run Sample.setup b.1 b.2 := Sample.run_battle hcomplete
  obtain ⟨-, hwaits, -⟩ := paths_in_order_of_requests hrun
  simp only [hqueue] at hwaits
  exact ⟨hrun, hqueue, hpop, (hwaits ⟨1⟩).1 (by decide),
    fun h => absurd ((hwaits ⟨2⟩).2 h) (by decide),
    (hwaits ⟨3⟩).1 (by decide)⟩

end Lockstep.World
