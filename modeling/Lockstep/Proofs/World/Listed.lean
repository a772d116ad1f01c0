import Lockstep.Proofs.Fingerprint.Sums
import Lockstep.Proofs.World.Validated
import Mathlib.Data.List.FinRange
import Mathlib.Tactic.Abel
/-!
# What a fingerprint covers

The fingerprints of players, units and projectiles are sums over lists of fields that the replicas
of a battle have agreed on (`Player.listed`, `UnitState.listed`, `Projectile.listed`); no other
field has any part in them.  The fingerprint of a world adds them up for all that it holds, each
listed field once: it is a sum over the entries of the world (`World.fingerprint_eq_sum_entries`).
-/

namespace Lockstep

/-- A field that a fingerprint covers: how it is read, and the fingerprint of its values. -/
structure ListedField (ρ : Type) where
  /-- The values of the field. -/
  {Value : Type}
  /-- The values have fingerprints. -/
  [printed : Fingerprinted Value]
  /-- The value in a record. -/
  read : ρ → Value

namespace ListedField

variable {ρ : Type}

instance (f : ListedField ρ) : Fingerprinted f.Value := f.printed

/-- What the field contributes to the fingerprint of a record. -/
def print (f : ListedField ρ) (r : ρ) : Fingerprint := fingerprint (f.read r)

end ListedField

/-! ### The listed fields -/

/-- What the fingerprint of a player covers. -/
def Player.listed : List (ListedField Player) :=
  [⟨Player.kind⟩, ⟨Player.color⟩, ⟨Player.status⟩, ⟨Player.side⟩,
    ⟨fun p => p.metal.stored⟩, ⟨fun p => p.metal.capacity⟩,
    ⟨fun p => p.energy.stored⟩, ⟨fun p => p.energy.capacity⟩,
    ⟨fun p => p.metal.stalled⟩, ⟨fun p => p.energy.stalled⟩,
    ⟨fun p => p.metal.desired⟩, ⟨fun p => p.energy.desired⟩,
    ⟨fun p => p.metal.previousDesired⟩, ⟨fun p => p.energy.previousDesired⟩,
    ⟨fun p => p.metal.consumed⟩, ⟨fun p => p.energy.consumed⟩,
    ⟨fun p => p.metal.produced⟩, ⟨fun p => p.energy.produced⟩]

/-- What the fingerprint of a unit covers. -/
def UnitState.listed : List (ListedField UnitState) :=
  [⟨UnitState.unitType⟩, ⟨UnitState.position⟩, ⟨UnitState.owner⟩, ⟨UnitState.rotation⟩,
    ⟨UnitState.hitPoints⟩, ⟨UnitState.life⟩, ⟨UnitState.inBuildStance⟩, ⟨UnitState.yardOpen⟩,
    ⟨UnitState.fireOrders⟩, ⟨UnitState.activated⟩,
    ⟨fun u => u.energy.produced⟩, ⟨fun u => u.metal.produced⟩,
    ⟨fun u => u.energy.previousConsumed⟩, ⟨fun u => u.metal.previousConsumed⟩,
    ⟨fun u => u.energy.consumed⟩, ⟨fun u => u.metal.consumed⟩]

/-- What the fingerprint of a projectile covers; of the damage, only the values. -/
def Projectile.listed : List (ListedField Projectile) :=
  [⟨Projectile.owner⟩, ⟨Projectile.position⟩, ⟨Projectile.origin⟩, ⟨Projectile.velocity⟩,
    ⟨Projectile.radius⟩, ⟨fun p => p.damage.toList.map Prod.snd⟩]

lemma Player.fingerprint_eq (p : Player) :
    fingerprint p = .sum (Player.listed.map fun f => f.print p) := by
  show fingerprint p.kind + fingerprint p.color + fingerprint p.status + fingerprint p.side
    + (fingerprint p.energy.stored + fingerprint p.energy.capacity + fingerprint p.energy.stalled
      + fingerprint p.energy.desired + fingerprint p.energy.previousDesired
      + fingerprint p.energy.consumed + fingerprint p.energy.produced)
    + (fingerprint p.metal.stored + fingerprint p.metal.capacity + fingerprint p.metal.stalled
      + fingerprint p.metal.desired + fingerprint p.metal.previousDesired
      + fingerprint p.metal.consumed + fingerprint p.metal.produced) = _
  simp only [Player.listed, ListedField.print, List.map_cons, List.map_nil, Fingerprint.sum_cons,
    Fingerprint.sum_nil]
  abel

lemma UnitState.fingerprint_eq (u : UnitState) :
    fingerprint u = .sum (UnitState.listed.map fun f => f.print u) := by
  show fingerprint u.unitType + fingerprint u.position + fingerprint u.owner
    + fingerprint u.rotation + fingerprint u.hitPoints + fingerprint u.life
    + fingerprint u.inBuildStance + fingerprint u.yardOpen + fingerprint u.fireOrders
    + fingerprint u.activated
    + (fingerprint u.energy.produced + fingerprint u.energy.consumed
      + fingerprint u.energy.previousConsumed)
    + (fingerprint u.metal.produced + fingerprint u.metal.consumed
      + fingerprint u.metal.previousConsumed) = _
  simp only [UnitState.listed, ListedField.print, List.map_cons, List.map_nil,
    Fingerprint.sum_cons, Fingerprint.sum_nil]
  abel

lemma Projectile.fingerprint_eq (p : Projectile) :
    fingerprint p = .sum (Projectile.listed.map fun f => f.print p) := by
  show fingerprint p.owner + fingerprint p.position + fingerprint p.origin + fingerprint p.velocity
    + fingerprint p.radius + fingerprint (p.damage.toList.map Prod.snd) = _
  simp only [Projectile.listed, ListedField.print, List.map_cons, List.map_nil,
    Fingerprint.sum_cons, Fingerprint.sum_nil]
  abel

namespace World

/-! ### The entries of a world -/

/-- Something whose listed fields the fingerprint of a world covers. -/
inductive Subject where
  /-- A player, by number. -/
  | player (number : Nat)
  /-- A unit. -/
  | unit (id : UnitId)
  /-- A projectile. -/
  | projectile (id : ProjectileId)
deriving DecidableEq

namespace Subject

/-- What a world keeps of a subject. -/
@[reducible] def Record : Subject → Type
  | player _ => Player
  | unit _ => UnitState
  | projectile _ => Projectile

/-- What the fingerprint of a subject covers. -/
def listed : (s : Subject) → List (ListedField s.Record)
  | player _ => Player.listed
  | unit _ => UnitState.listed
  | projectile _ => Projectile.listed

/-- What a world keeps of a subject, if it holds it. -/
def record? (w : World) : (s : Subject) → Option s.Record
  | player number => w.players[number]?
  | unit id => w.units.get? id
  | projectile id => w.projectiles.get? id

end Subject

/-- A listed field of a subject. -/
structure Entry where
  /-- The subject. -/
  subject : Subject
  /-- The place of the field in the list. -/
  index : Fin subject.listed.length
deriving DecidableEq

namespace Entry

/-- The field. -/
def field (e : Entry) : ListedField e.subject.Record := e.subject.listed.get e.index

/-- The value of the field in a world, if the world holds the subject. -/
def value? (w : World) (e : Entry) : Option e.field.Value :=
  (e.subject.record? w).map e.field.read

end Entry

variable {w w' : World}

/-- What a world holds. -/
def subjects (w : World) : List Subject :=
  (List.range w.players.size).map .player ++
    (w.units.keys.map .unit ++ w.projectiles.keys.map .projectile)

/-- All listed fields of all that a world holds. -/
def entries (w : World) : List Entry :=
  w.subjects.flatMap fun s => (List.finRange s.listed.length).map (.mk s)

lemma mem_subjects {s : Subject} : s ∈ w.subjects ↔ (s.record? w).isSome := by
  cases s with
  | player number => simp [subjects, Subject.record?]
  | unit id => simp [subjects, Subject.record?, SortedTable.mem_keys]
  | projectile id => simp [subjects, Subject.record?, SortedTable.mem_keys]

lemma nodup_subjects (w : World) : w.subjects.Nodup := by
  have hplayers : ((List.range w.players.size).map Subject.player).Nodup :=
    List.nodup_range.map fun _ _ h => Subject.player.inj h
  have hunits : (w.units.keys.map Subject.unit).Nodup :=
    (SortedTable.nodup_keys _).map fun _ _ h => Subject.unit.inj h
  have hprojectiles : (w.projectiles.keys.map Subject.projectile).Nodup :=
    (SortedTable.nodup_keys _).map fun _ _ h => Subject.projectile.inj h
  refine hplayers.append (hunits.append hprojectiles ?_) ?_ <;> simp [List.Disjoint]

lemma mem_entries {e : Entry} : e ∈ w.entries ↔ (e.value? w).isSome := by
  obtain ⟨s, i⟩ := e
  simp [entries, Entry.value?, mem_subjects]

lemma nodup_entries (w : World) : w.entries.Nodup := by
  refine List.nodup_flatMap.2 ⟨fun s _ => ?_, (nodup_subjects w).imp fun hne => ?_⟩
  · exact (List.nodup_finRange _).map fun _ _ h => by cases h; rfl
  · simp only [Function.onFun, List.disjoint_left, List.mem_map, not_exists, not_and]
    rintro e ⟨i, -, rfl⟩ j - heq
    exact hne (congrArg Entry.subject heq).symm

/-- What the listed fields of a subject contribute, nothing if the world does not hold it. -/
def Subject.print (w : World) (s : Subject) : Fingerprint :=
  .sum (s.listed.map fun f => fingerprint ((s.record? w).map f.read))

lemma Subject.print_eq {s : Subject} {r : s.Record} (h : s.record? w = some r) :
    s.print w = .sum (s.listed.map fun f => f.print r) := by
  rw [Subject.print, h]
  rfl

lemma sum_entries (w : World) :
    Fingerprint.sum (w.entries.map fun e => fingerprint (e.value? w)) =
      .sum (w.subjects.map (Subject.print w)) := by
  have hfields (s : Subject) :
      (List.finRange s.listed.length).map (fun i => fingerprint ((Entry.mk s i).value? w)) =
        s.listed.map fun f => fingerprint ((s.record? w).map f.read) := by
    conv_rhs => rw [← List.map_get_finRange s.listed, List.map_map]
    rfl
  simp only [entries, List.map_flatMap, List.map_map, Function.comp_def, hfields,
    Fingerprint.sum_flatMap]
  rfl

lemma map_print_players (w : World) :
    (List.range w.players.size).map (fun n => Subject.print w (.player n)) =
      w.players.toList.map fingerprint := by
  refine List.ext_getElem (by simp) fun n hn hn' => ?_
  have hsize : n < w.players.size := by simpa using hn
  have hget : (Subject.player n).record? w = some w.players[n] := by
    simp [Subject.record?, hsize]
  simp [Subject.print_eq hget, Player.fingerprint_eq, Subject.listed]

lemma map_print_keys {κ ν : Type} [Ranked κ] [Fingerprinted ν] {t : SortedTable κ ν}
    {print : κ → Fingerprint}
    (h : ∀ key v, t.get? key = some v → print key = fingerprint v) :
    t.keys.map print = t.values.map fingerprint := by
  rw [SortedTable.keys, SortedTable.values, List.map_map, List.map_map]
  exact List.map_congr_left fun e he => h e.1 e.2 (SortedTable.get?_eq_some_iff.2 he)

/-- The fingerprint of a world is the sum over its entries. -/
theorem fingerprint_eq_sum_entries (w : World) :
    fingerprint w = fingerprint w.time
      + Fingerprint.sum (w.entries.map fun e => fingerprint (e.value? w)) := by
  have hunits : w.units.keys.map (fun id => Subject.print w (.unit id)) =
      w.units.values.map fingerprint :=
    map_print_keys fun id u hu =>
      (Subject.print_eq (s := .unit id) hu).trans (UnitState.fingerprint_eq u).symm
  have hprojectiles : w.projectiles.keys.map (fun id => Subject.print w (.projectile id)) =
      w.projectiles.values.map fingerprint :=
    map_print_keys fun id p hp =>
      (Subject.print_eq (s := .projectile id) hp).trans (Projectile.fingerprint_eq p).symm
  rw [sum_entries, subjects, List.map_append, List.map_append, List.map_map, List.map_map,
    List.map_map, Fingerprint.sum_append, Fingerprint.sum_append]
  simp only [Function.comp_def, map_print_players, hunits, hprojectiles]
  show fingerprint w.time + fingerprint w.players.toList + fingerprint w.units.values
    + fingerprint w.projectiles.values = _
  rw [add_assoc, add_assoc]
  rfl

end World

end Lockstep
