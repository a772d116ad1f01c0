import Mathlib.Data.Nat.Choose.Basic
import Mathlib.Tactic.Ring
import Lockstep.Proofs.Fixed.Wrapping
import Lockstep.Proofs.World.Lifetimes
import Lockstep.Proofs.World.Resting
import Lockstep.Proofs.World.Casualties
/-!
# Projectiles in flight

Only ticks move projectiles or take them away: whatever else happens, a projectile that is in flight
stays as it is, and nothing is ever put in flight in its place.  So where a projectile is, and
whether it is still there, depends on nothing but how it was fired and the number of ticks since
then.

A weapon without a timer whose projectiles fly straight on gives them the ticks that they need for
the distance.  That number is read off a scalar, and from 32768 on it goes around; for a quotient
that large the projectile disappears long before it has covered the distance.
-/

namespace Lockstep

/-! ### The path -/

namespace Projectile

/-- How far a projectile has fallen after a number of ticks. -/
def fallen (p : Projectile) (n : Nat) : Int :=
  if p.falls then (n * (n - 1) / 2 : Nat) * gravity.toRaw else 0

/-- Where a projectile is after a number of ticks, in words that go around: along its velocity and,
if it falls, as much lower as it has fallen. -/
def positionAfter (p : Projectile) (n : Nat) : Vector3 :=
  ⟨.ofRaw (p.position.x.toRaw + n * p.velocity.x.toRaw),
    .ofRaw (p.position.y.toRaw + n * p.velocity.y.toRaw - p.fallen n),
    .ofRaw (p.position.z.toRaw + n * p.velocity.z.toRaw)⟩

/-- How fast a projectile is after a number of ticks. -/
def velocityAfter (p : Projectile) (n : Nat) : Vector3 :=
  { p.velocity with
    y := .ofRaw (p.velocity.y.toRaw - if p.falls then n * gravity.toRaw else 0) }

variable {p : Projectile} {n : Nat}

@[simp] lemma falls_iterate (p : Projectile) (n : Nat) : (advance^[n] p).falls = p.falls := by
  induction n with
  | zero => rfl
  | succ n ih => rwa [Function.iterate_succ_apply']

@[simp] lemma expiry_iterate (p : Projectile) (n : Nat) : (advance^[n] p).expiry = p.expiry := by
  induction n with
  | zero => rfl
  | succ n ih => rwa [Function.iterate_succ_apply']

/-- What a projectile falls in a tick grows by its gravity from tick to tick. -/
lemma fallen_succ (p : Projectile) (n : Nat) :
    p.fallen (n + 1) = p.fallen n + if p.falls then n * gravity.toRaw else 0 := by
  rw [fallen, fallen, Nat.triangle_succ]
  split
  · rw [Nat.cast_add, Int.add_mul]
  · rfl

lemma velocity_iterate (p : Projectile) (n : Nat) :
    (advance^[n] p).velocity = p.velocityAfter n := by
  induction n with
  | zero => simp [velocityAfter]
  | succ n ih =>
    rw [Function.iterate_succ_apply', advance, falls_iterate, ih]
    by_cases hfalls : p.falls
    · have hy : Scalar.ofRaw (p.velocity.y.toRaw - n * gravity.toRaw) - gravity =
          .ofRaw (p.velocity.y.toRaw - (n + 1 : Nat) * gravity.toRaw) := by
        rw [← Scalar.ofRaw_toRaw gravity, ← Scalar.ofRaw_sub, Scalar.ofRaw_toRaw]
        congr 1
        push_cast
        ring
      simp only [velocityAfter, hfalls, if_true, hy]
    · simp only [velocityAfter, hfalls, if_false, Bool.false_eq_true]

lemma position_iterate (p : Projectile) (n : Nat) :
    (advance^[n] p).position = p.positionAfter n := by
  induction n with
  | zero => simp [positionAfter, fallen]
  | succ n ih =>
    have hstraight (a v : Scalar) : Scalar.ofRaw (a.toRaw + n * v.toRaw) + v =
        .ofRaw (a.toRaw + (n + 1 : Nat) * v.toRaw) := by
      rw [← Scalar.ofRaw_toRaw v, ← Scalar.ofRaw_add, Scalar.ofRaw_toRaw]
      congr 1
      push_cast
      ring
    have hupright : Scalar.ofRaw (p.position.y.toRaw + n * p.velocity.y.toRaw - p.fallen n) +
        (p.velocityAfter n).y =
        .ofRaw (p.position.y.toRaw + (n + 1 : Nat) * p.velocity.y.toRaw - p.fallen (n + 1)) := by
      rw [velocityAfter, ← Scalar.ofRaw_add, fallen_succ]
      congr 1
      push_cast
      ring
    rw [Function.iterate_succ_apply', advance, ih, velocity_iterate]
    exact (Triple.mk.injEq ..).mpr ⟨hstraight _ _, hupright, hstraight _ _⟩

/-! ### The end -/

lemma isExpired_mono {t t' : Tick} (h : t.val.toNat ≤ t'.val.toNat)
    (hexpired : p.isExpired t = true) : p.isExpired t' = true := by
  rw [isExpired, Option.any_eq_true] at hexpired ⊢
  obtain ⟨expiry, hexpiry, hle⟩ := hexpired
  refine ⟨expiry, hexpiry, decide_eq_true ?_⟩
  exact UInt32.le_iff_toNat_le.2 (Nat.le_trans (UInt32.le_iff_toNat_le.1 (of_decide_eq_true hle)) h)

end Projectile

namespace World

variable {s : Setup} {record : List (UnitId × ThreadId)} {past later : List Step} {st : Step}
  {w w' : World} {o : Operation} {id : ProjectileId} {p : Projectile} {n budget : Nat}

/-! ### What keeps projectiles in flight -/

/-- Projectiles that were in flight are so still and in the same way, and those that were not stay
away. -/
structure KeepsFlights (w w' : World) : Prop where
  next : w.nextProjectile.toNat ≤ w'.nextProjectile.toNat
  flights : ∀ id : ProjectileId, id.val.toNat < w.nextProjectile.toNat →
    w'.projectiles.get? id = w.projectiles.get? id

instance : IsPreorder World KeepsFlights where
  refl _ := ⟨Nat.le_refl _, fun _ _ => rfl⟩
  trans _ _ _ h h' := ⟨Nat.le_trans h.next h'.next, fun id hid =>
    (h'.flights id (Nat.lt_of_lt_of_le hid h.next)).trans (h.flights id hid)⟩

lemma keepsFlights_of_eq (hprojectiles : w'.projectiles = w.projectiles)
    (hnext : w'.nextProjectile = w.nextProjectile) : KeepsFlights w w' :=
  ⟨Nat.le_of_eq (congrArg UInt32.toNat hnext.symm), fun _ _ => by rw [hprojectiles]⟩

lemma SameFlights.keepsFlights (h : SameFlights w w') : KeepsFlights w w' :=
  keepsFlights_of_eq h.projectiles h.nextProjectile

lemma keepsFlights_withProjectile {next : UInt32}
    (hnext : Overflow.successor w.nextProjectile = .ok next) :
    KeepsFlights w (w.withProjectile p next) := by
  refine ⟨?_, fun id hid => ?_⟩
  · show w.nextProjectile.toNat ≤ next.toNat
    rw [Overflow.successor_eq_ok hnext]
    exact Nat.le_succ _
  · rw [withProjectile, SortedTable.get?_insert]
    exact if_neg (Nat.ne_of_lt hid)

/-- Nothing but a tick moves projectiles or takes them away. -/
theorem keepsFlights_after (ho : ∀ budget, o ≠ .tick budget) (w : World) :
    KeepsFlights w (o.after w) := by
  cases o with
  | tick budget => exact absurd rfl (ho budget)
  | requestPath => exact keepsFlights_of_eq rfl rfl
  | popPathRequest =>
    simp only [Operation.after, Operation.perform, Action.on_modify, popPathRequest]
    split <;> exact keepsFlights_of_eq rfl rfl
  | insertProjectile =>
    exact Action.respects_discard (respects_insertProjectile keepsFlights_withProjectile) w
  | fire =>
    exact Action.respects_discard
      (respects_fire (fun _ _ => keepsFlights_of_eq rfl rfl) fun _ => keepsFlights_withProjectile) w
  | _ => exact (sameFlights_after id id w).keepsFlights

lemma keepsFlights_sweep (w : World) : KeepsFlights w w.sweep := by
  refine rel_sweep (R := KeepsFlights) (fun w id => ?_) w
  rw [sweepUnit, removeUnit]
  split <;> exact keepsFlights_of_eq rfl rfl

/-! ### Ticks -/

/-- In a tick a projectile flies on and, if its time is over, disappears. -/
structure Flies (w w' : World) : Prop where
  next : w.nextProjectile.toNat ≤ w'.nextProjectile.toNat
  flights : ∀ id : ProjectileId, id.val.toNat < w.nextProjectile.toNat →
    w'.projectiles.get? id =
      ((w.projectiles.get? id).map Projectile.advance).filter fun p => !p.isExpired w'.time

lemma flies_tick (hw : Scheduled record w) (ho : (Operation.tick budget).Completes w) :
    Flies w ((Operation.tick budget).after w) := by
  have hscripts : SameFlights w.beginTick (w.afterScripts budget) :=
    Respects.forM (fun id _ => sameFlights_runScriptsNoting budget id) w.beginTick
  have hprojectiles : (w.afterScripts budget).projectiles = w.projectiles := hscripts.projectiles
  have hnext : (w.afterScripts budget).nextProjectile = w.nextProjectile :=
    hscripts.nextProjectile
  have hsweep := keepsFlights_sweep (w.afterScripts budget).stepPieces.stepProjectiles
  have htime : ((Operation.tick budget).after w).time = (w.afterScripts budget).time :=
    (time_after_tick budget w).trans hscripts.time.symm
  constructor
  · rw [after_tick hw ho, ← hnext]
    exact hsweep.next
  · intro id hid
    rw [htime, after_tick hw ho, hsweep.flights id (by rwa [← hnext] at hid), ← hprojectiles]
    exact (SortedTable.get?_filterValues ..).trans
      (congrArg _ (SortedTable.get?_mapWithKey ..))

/-! ### From tick to tick -/

/-- Whether an operation lets a tick pass. -/
def Operation.isTick : Operation → Bool
  | tick _ => true
  | _ => false

/-- The number of ticks that pass. -/
def ticks (later : List Step) : Nat := later.countP fun st => st.operation.isTick

lemma ticks_concat (later : List Step) (st : Step) :
    ticks (later ++ [st]) = ticks later + if st.operation.isTick then 1 else 0 := by
  simp [ticks, List.countP_append, List.countP_singleton]

/-- A number of ticks have passed since a projectile was fired. -/
structure Fired (id : ProjectileId) (p : Projectile) (n : Nat) (w : World) : Prop where
  known : id.val.toNat < w.nextProjectile.toNat
  time : w.time.val.toNat = min (p.created.val.toNat + n) (UInt32.size - 1)
  flight : w.projectiles.get? id =
    if 0 < n ∧ p.isExpired w.time = true then none else some (Projectile.advance^[n] p)

lemma Fired.tick (h : Fired id p n w) (hw : Scheduled record w)
    (ho : (Operation.tick budget).Completes w) :
    Fired id p (n + 1) ((Operation.tick budget).after w) := by
  have hflies := flies_tick hw ho
  have htime := time_after_tick budget w
  have hlater := time_le_after (.tick budget) w
  refine ⟨Nat.lt_of_lt_of_le h.known hflies.next, ?_, ?_⟩
  · rw [htime, toNat_succ, h.time]
    omega
  · rw [hflies.flights id h.known, h.flight]
    by_cases hover : 0 < n ∧ p.isExpired w.time = true
    · -- it has disappeared before
      have hexpired := Projectile.isExpired_mono hlater hover.2
      rw [if_pos hover, if_pos ⟨Nat.succ_pos n, hexpired⟩]
      rfl
    · rw [if_neg hover, Option.map_some, ← Function.iterate_succ_apply' Projectile.advance,
        Option.filter_some, Projectile.isExpired, Projectile.expiry_iterate, ← Projectile.isExpired]
      by_cases hexpired : p.isExpired ((Operation.tick budget).after w).time = true <;>
        simp [hexpired]

lemma Fired.step (h : Fired id p n w) (hw : Scheduled record w) (ho : o.Completes w) :
    Fired id p (n + if o.isTick then 1 else 0) (o.after w) := by
  by_cases htick : ∃ budget, o = .tick budget
  · obtain ⟨budget, rfl⟩ := htick
    exact h.tick hw ho
  · have hother : ∀ budget, o ≠ .tick budget := fun budget h => htick ⟨budget, h⟩
    have hkeeps := keepsFlights_after hother w
    have hidle : o.isTick = false := by
      cases o with
      | tick budget => exact absurd rfl (hother budget)
      | _ => rfl
    rw [hidle, if_neg Bool.false_ne_true, Nat.add_zero]
    have htime : (o.after w).time = w.time := sameTime_after hother w
    exact ⟨Nat.lt_of_lt_of_le h.known hkeeps.next, by rw [htime, h.time],
      by rw [htime, hkeeps.flights id h.known, h.flight]⟩

/-- What was fired in a battle goes on from tick to tick; the induction is on the operations since
then. -/
lemma Fired.run (hrun : Run s (past ++ st :: later) w')
    (hfired : Fired id p 0 (st.operation.after st.before)) : Fired id p (ticks later) w' := by
  induction later using List.reverseRecOn generalizing w' with
  | nil =>
    obtain ⟨-, -, rfl⟩ := hrun.of_append_singleton
    exact hfired
  | append_singleton later last ih =>
    rw [← List.cons_append, ← List.append_assoc] at hrun
    obtain ⟨hbegin, ho, rfl⟩ := hrun.of_append_singleton
    rw [ticks_concat]
    exact (ih hbegin).step hbegin.scheduled ho

lemma Fired.position (h : Fired id p n w) {q : Projectile} (hq : w.projectiles.get? id = some q) :
    q.position = p.positionAfter n := by
  rw [h.flight] at hq
  split at hq
  · cases hq
  · cases hq
    exact p.position_iterate n

/-- A projectile that lasts for good is in flight. -/
lemma Fired.isSome_of_lasting (h : Fired id p n w) (hlasting : p.expiry = none) :
    (w.projectiles.get? id).isSome := by
  rw [h.flight, if_neg fun hover => by simp [Projectile.isExpired, hlasting] at hover]
  rfl

/-- A projectile is in flight until the tick in which its time is over. -/
lemma Fired.isSome_iff (h : Fired id p n w) {lifetime : Nat} {expiry : Tick}
    (hexpiry : p.expiry = some expiry)
    (hlifetime : expiry.val.toNat = p.created.val.toNat + lifetime + 1) :
    (w.projectiles.get? id).isSome ↔ n ≤ lifetime := by
  have hexpired : p.isExpired w.time = true ↔ lifetime < n := by
    have hlast := expiry.val.toNat_lt
    have hsize : UInt32.size = 4294967296 := rfl
    rw [Projectile.isExpired, hexpiry, Option.any_some, decide_eq_true_iff]
    refine UInt32.le_iff_toNat_le.trans ?_
    rw [h.time]
    omega
  rw [h.flight]
  split
  · rename_i hover
    rw [hexpired] at hover
    simp only [Option.isSome_none, Bool.false_eq_true, false_iff]
    omega
  · rename_i hover
    rw [hexpired] at hover
    simp only [Option.isSome_some, true_iff]
    omega

/-! ### Firing -/

variable {weapon : Weapon} {owner : PlayerId} {name : String} {position direction : Vector3}
  {distance : Scalar}

/-- A weapon that is fired puts its projectile in flight under the next number. -/
lemma fired_after (hweapon : w.definitions.weapon name = .ok weapon)
    (ho : (Operation.fire owner name position direction distance).Completes w) :
    ((fire owner name position direction distance).on w).1 = .ok ⟨w.nextProjectile⟩ ∧
      Fired ⟨w.nextProjectile⟩ (w.shot weapon owner name position direction distance) 0
        ((Operation.fire owner name position direction distance).after w) := by
  have hafter : (Operation.fire owner name position direction distance).after w =
      ((fire owner name position direction distance).on w).2 := Action.on_discard _ w
  have hon := fire_on hweapon owner position direction distance
  rw [insertProjectile_on] at hon
  cases hnext : Overflow.successor w.nextProjectile with
  | error cause =>
    rw [hnext] at hon
    exact absurd (Action.on_bind_eq_error _ (congrArg Prod.fst hon)) (ho _)
  | ok next =>
    rw [hnext] at hon
    rw [hafter, hon]
    refine ⟨rfl, ?_, ?_, ?_⟩
    · show w.nextProjectile.toNat < next.toNat
      rw [Overflow.successor_eq_ok hnext]
      exact Nat.lt_succ_self _
    · exact (Nat.min_eq_left (Nat.le_sub_one_of_lt w.time.val.toNat_lt)).symm
    · exact (SortedTable.get?_insert ..).trans (if_pos rfl)

/-- **How projectiles fly.**  However a battle goes on after a weapon was fired, the projectile is,
while it is in flight, where its velocity has taken it in the ticks since then, lowered if it falls.
Without a timer a falling one stays in flight for good, and one that flies straight on stays in
flight for as many ticks as its lifetime says and disappears in the next.  The lifetime is the whole
part of the distance over the velocity if that is below 32768; a larger one goes around as a signed
number of sixteen binary places, and counts as none if that is negative. -/
theorem projectiles_fly_for_lifetime
    (h : Run s (past ++ ⟨w, .fire owner name position direction distance⟩ :: later) w')
    (hweapon : w.definitions.weapon name = .ok weapon) :
    let id : ProjectileId := ⟨w.nextProjectile⟩
    let p := w.shot weapon owner name position direction distance
    let quotient := distance.toRaw / weapon.velocity.toRaw
    let lifetime := (quotient.bmod 65536).toNat
    ((fire owner name position direction distance).on w).1 = .ok id ∧
    (∀ q, w'.projectiles.get? id = some q → q.position = p.positionAfter (ticks later)) ∧
    (weapon.timer = none → weapon.flight = .ballistic → (w'.projectiles.get? id).isSome) ∧
    (weapon.timer = none → weapon.flight = .lineOfSight → 0 < weapon.velocity.toRaw →
      0 ≤ distance.toRaw → w.time.val.toNat + lifetime + 1 < UInt32.size →
        ((w'.projectiles.get? id).isSome ↔ ticks later ≤ lifetime) ∧
        (quotient < 32768 → (lifetime : Int) = quotient)) := by
  intro id p quotient lifetime
  obtain ⟨hanswer, hfired⟩ := fired_after hweapon h.of_append_cons.2
  have hnow : Fired id p (ticks later) w' := hfired.run h
  refine ⟨hanswer, fun q hq => hnow.position hq, fun htimer hflight => ?_,
    fun htimer hflight hvelocity hdistance hlast => ⟨?_, fun hquotient => ?_⟩⟩
  · refine hnow.isSome_of_lasting ?_
    show (w.drawExpiry weapon distance).1 = none
    rw [drawExpiry, htimer, hflight]
  · have hlifetime : flightTicks distance weapon.velocity = lifetime :=
      flightTicks_eq hdistance hvelocity
    rw [← hlifetime] at hlast ⊢
    obtain ⟨expiry, hexpiry, hend⟩ := exists_drawExpiry_eq htimer hflight hlast
    exact hnow.isSome_iff hexpiry hend
  · have hquotient' : 0 ≤ quotient := Int.ediv_nonneg hdistance (Int.le_of_lt hvelocity)
    have hsame : quotient.bmod 65536 = quotient := Int.bmod_eq_of_le (by omega) (by omega)
    show ((quotient.bmod 65536).toNat : Int) = quotient
    rw [hsame, Int.toNat_of_nonneg hquotient']

namespace Sample

/-- A gun whose projectiles fly straight on, by a 256th in a tick. -/
def laser : Weapon where
  flight := .lineOfSight
  velocity := .ofRaw 256
  damage := .empty
  radius := 0
  timer := none
  decay := ⟨0⟩
  bounces := false

/-- It is fired along the first axis at a target at some distance, and a number of ticks pass. -/
def beam (distance : Scalar) (ticks : Nat) : List Operation :=
  .fire ⟨0⟩ "gun" 0 ⟨.ofWhole 1, 0, 0⟩ distance :: List.replicate ticks (.tick 0)

/-- What has happened then, and the world after that. -/
def beamed (distance : Scalar) (ticks : Nat) : List Step × World :=
  replay (beam distance ticks) [] (firingLine laser)

lemma run_beamed (distance : Scalar) (ticks : Nat)
    (h : Operation.AllComplete (beam distance ticks) (firingLine laser)) :
    Run (range laser) (beamed distance ticks).1 (beamed distance ticks).2 := by
  have hnew : World.new (range laser) = .ok (firingLine laser) := by decide +kernel
  exact (Run.start hnew).replay h

end Sample

/-- At a target two steps away the beam is there after two ticks, and gone after three. -/
theorem projectiles_fly_for_lifetime_beam :
    (Run (Sample.range Sample.laser) (Sample.beamed (.ofRaw 512) 2).1
        (Sample.beamed (.ofRaw 512) 2).2 ∧
      ∃ q, (Sample.beamed (.ofRaw 512) 2).2.projectiles.get? ⟨0⟩ = some q ∧
        q.position = ⟨.ofRaw 512, 0, 0⟩) ∧
    (Run (Sample.range Sample.laser) (Sample.beamed (.ofRaw 512) 3).1
        (Sample.beamed (.ofRaw 512) 3).2 ∧
      (Sample.beamed (.ofRaw 512) 3).2.projectiles.get? ⟨0⟩ = none) := by
  let shot : Step :=
    ⟨Sample.firingLine Sample.laser, .fire ⟨0⟩ "gun" 0 ⟨.ofWhole 1, 0, 0⟩ (.ofRaw 512)⟩
  have hweapon := Sample.weapon_firingLine Sample.laser
  constructor
  · have hrun : Run _ ([] ++ shot :: [⟨_, .tick 0⟩, ⟨_, .tick 0⟩]) _ :=
      Sample.run_beamed (.ofRaw 512) 2 (by decide +kernel)
    obtain ⟨-, hposition, -, hlife⟩ := projectiles_fly_for_lifetime hrun hweapon
    have hflies := (hlife rfl rfl (by decide) (by decide) (by decide)).1.2 (by decide)
    obtain ⟨q, hq⟩ := Option.isSome_iff_exists.1 hflies
    exact ⟨hrun, q, hq, (hposition q hq).trans (by decide)⟩
  · have hrun : Run _ ([] ++ shot :: [⟨_, .tick 0⟩, ⟨_, .tick 0⟩, ⟨_, .tick 0⟩]) _ :=
      Sample.run_beamed (.ofRaw 512) 3 (by decide +kernel)
    obtain ⟨-, -, -, hlife⟩ := projectiles_fly_for_lifetime hrun hweapon
    have hflies := (hlife rfl rfl (by decide) (by decide) (by decide)).1
    exact ⟨hrun, Option.not_isSome_iff_eq_none.1 (mt hflies.1 (by decide))⟩

/-- At a target that is 32768 steps away the beam is gone after one tick. -/
theorem projectile_may_stop_short :
    Run (Sample.range Sample.laser) (Sample.beamed (.ofWhole 128) 1).1
      (Sample.beamed (.ofWhole 128) 1).2 ∧
    Sample.laser.timer = none ∧ Sample.laser.flight = .lineOfSight ∧
    0 < Sample.laser.velocity.toRaw ∧
    (Scalar.ofWhole 128).toRaw / Sample.laser.velocity.toRaw = 32768 ∧
    (Sample.beamed (.ofWhole 128) 0).2.projectiles.get? ⟨0⟩ ≠ none ∧
    (Sample.beamed (.ofWhole 128) 1).2.projectiles.get? ⟨0⟩ = none :=
  ⟨Sample.run_beamed _ _ (by decide +kernel), rfl, rfl, by decide, by decide, by decide +kernel,
    by decide +kernel⟩

end World

end Lockstep
