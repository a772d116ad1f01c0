import Lockstep.Proofs.World.Firing
import Lockstep.Proofs.World.Listed
/-!
# When two worlds have the same fingerprint

Replicas of a battle compare their fingerprints to find out whether they went apart.  How a world
was built makes no difference: projectiles may have been put in flight in any order, and their
damages noted in any order (`fingerprint_insertProjectiles`).  And nothing is lost in the sum while
only one entry differs: then the fingerprints of the worlds are equal just when those of the two
values are (`DifferAt.fingerprint_eq_iff`).
-/

namespace Lockstep

/-! ### The same damage in another order -/

/-- Tables with the same lookups hold the same entries. -/
lemma NameTable.perm_of_get?_eq {ν : Type} {s t : NameTable ν}
    (h : ∀ name, s.get? name = t.get? name) : s.toList.Perm t.toList := by
  refine (List.perm_ext_iff_of_nodup (.of_map _ s.distinct) (.of_map _ t.distinct)).2 fun e => ?_
  exact NameTable.get?_eq_some_iff.symm.trans (h e.1 ▸ NameTable.get?_eq_some_iff)

/-- A new name is put behind the others. -/
lemma NameTable.place_of_notMem {ν : Type} {name : String} {value : ν} {l : List (String × ν)}
    (h : name ∉ l.map Prod.fst) : NameTable.place name value l = l ++ [(name, value)] := by
  induction l with
  | nil => rfl
  | cons e l ih =>
    rw [List.map_cons, List.mem_cons, not_or] at h
    rw [NameTable.place, if_neg h.1, ih h.2, List.cons_append]

lemma NameTable.toList_foldl_insert {ν : Type} {l : List (String × ν)} {t : NameTable ν}
    (h : ((t.toList ++ l).map Prod.fst).Nodup) :
    (l.foldl (fun t e => t.insert e.1 e.2) t).toList = t.toList ++ l := by
  induction l generalizing t with
  | nil => simp
  | cons e l ih =>
    have hnew : e.1 ∉ t.toList.map Prod.fst := by
      rw [List.map_append, List.nodup_append] at h
      exact fun hmem => h.2.2 _ hmem _ (by simp) rfl
    have hinsert : (t.insert e.1 e.2).toList = t.toList ++ [e] := NameTable.place_of_notMem hnew
    have happend : t.toList ++ e :: l = (t.insert e.1 e.2).toList ++ l := by simp [hinsert]
    rw [List.foldl_cons, ih (happend ▸ h), happend]

/-- A table that was filled with distinct names holds just what was put in. -/
lemma NameTable.toList_ofList {ν : Type} {l : List (String × ν)} (h : (l.map Prod.fst).Nodup) :
    (NameTable.ofList l).toList = l :=
  NameTable.toList_foldl_insert (t := .empty) h

namespace Projectile

/-- The same projectile, whose damages may have been noted in another order. -/
def Refilled (p q : Projectile) : Prop :=
  (∀ category, p.damage.get? category = q.damage.get? category) ∧ q = { p with damage := q.damage }

lemma Refilled.fingerprint_eq {p q : Projectile} (h : Refilled p q) :
    fingerprint p = fingerprint q := by
  have hdamage : fingerprint (p.damage.toList.map Prod.snd) =
      fingerprint (q.damage.toList.map Prod.snd) :=
    Fingerprint.sum_perm (((NameTable.perm_of_get?_eq h.1).map Prod.snd).map fingerprint)
  rw [h.2]
  show _ + fingerprint (p.damage.toList.map Prod.snd) = _
  rw [hdamage]
  rfl

/-- Distinct categories can be noted in any order. -/
lemma refilled_ofList (p : Projectile) {l m : List (String × UInt32)}
    (hl : (l.map Prod.fst).Nodup) (h : l.Perm m) :
    Refilled { p with damage := .ofList l } { p with damage := .ofList m } := by
  refine ⟨fun category => Option.ext fun value => ?_, rfl⟩
  have hm : (m.map Prod.fst).Nodup := (h.map Prod.fst).nodup_iff.1 hl
  rw [NameTable.get?_eq_some_iff, NameTable.get?_eq_some_iff, NameTable.toList_ofList hl,
    NameTable.toList_ofList hm]
  exact h.mem_iff

/-- The same projectiles in another order, with their damages noted in another order. -/
def Reordered (ps qs : List Projectile) : Prop :=
  ∃ rs, ps.Perm rs ∧ List.Forall₂ Refilled rs qs

lemma Reordered.length_eq {ps qs : List Projectile} (h : Reordered ps qs) :
    ps.length = qs.length := by
  obtain ⟨rs, hperm, hfill⟩ := h
  exact hperm.length_eq.trans hfill.length_eq

lemma Reordered.sum_eq {ps qs : List Projectile} (h : Reordered ps qs) :
    Fingerprint.sum (ps.map fingerprint) = .sum (qs.map fingerprint) := by
  obtain ⟨rs, hperm, hfill⟩ := h
  have hrs : rs.map fingerprint = qs.map fingerprint := by
    clear hperm
    induction hfill with
    | nil => rfl
    | cons hp _ ih => rw [List.map_cons, List.map_cons, hp.fingerprint_eq, ih]
  rw [Fingerprint.sum_perm (hperm.map fingerprint), hrs]

end Projectile

/-! ### Projectiles put in flight in another order -/

namespace SortedTable

variable {κ ν : Type} [Ranked κ]

lemma nodup_toList (t : SortedTable κ ν) : t.toList.Nodup := .of_map Prod.fst t.nodup_keys

/-- An assignment replaces the entry of the key, and nothing else. -/
lemma values_insert_perm (t : SortedTable κ ν) (key : κ) (v : ν) :
    (t.insert key v).values.Perm (v :: (t.erase key).values) := by
  have hentries : (t.insert key v).toList.Perm ((key, v) :: (t.erase key).toList) := by
    have hnew : (key, v) ∉ (t.erase key).toList := by
      rw [← get?_eq_some_iff, get?_erase]
      simp
    refine (List.perm_ext_iff_of_nodup (nodup_toList _)
      (List.nodup_cons.2 ⟨hnew, nodup_toList _⟩)).2 fun e => ?_
    obtain ⟨k, u⟩ := e
    rw [List.mem_cons, ← get?_eq_some_iff, ← get?_eq_some_iff, get?_insert, get?_erase]
    by_cases h : k = key
    · simp [h, eq_comm (a := u)]
    · simp [h]
  exact hentries.map Prod.snd

/-- A key that is kept may be assigned before or after others are left out. -/
lemma filterKeys_insert {t : SortedTable κ ν} {p : κ → Bool} {key : κ} (v : ν) (h : p key) :
    (t.insert key v).filterKeys p = (t.filterKeys p).insert key v := by
  refine SortedTable.ext fun k => ?_
  rw [get?_filterKeys, get?_insert, get?_insert, get?_filterKeys]
  by_cases hk : k = key <;> simp [hk, h]

end SortedTable

namespace World

variable {w w' : World}

/-- Puts projectiles in flight, one after the other. -/
def insertProjectiles (ps : List Projectile) : Action Unit :=
  ps.forM fun p => do let _ ← insertProjectile p

/-- Whether the number of a projectile is not among so many numbers from one on. -/
def outside (start count : Nat) (id : ProjectileId) : Bool :=
  decide (id.val.toNat < start ∨ start + count ≤ id.val.toNat)

/-- The projectiles whose numbers are not among so many numbers from one on. -/
def projectilesOutside (w : World) (start count : Nat) : SortedTable ProjectileId Projectile :=
  w.projectiles.filterKeys (outside start count)

lemma insertProjectiles_cons (p : Projectile) (ps : List Projectile) (w : World) :
    (insertProjectiles (p :: ps)).on w =
      match Overflow.successor w.nextProjectile with
      | .ok next => (insertProjectiles ps).on (w.withProjectile p next)
      | .error cause => (.error (.halt (.overflow cause)), w) := by
  rw [insertProjectiles, Action.on_forM_cons, Action.on_bind, insertProjectile_on]
  cases Overflow.successor w.nextProjectile with
  | ok next => rfl
  | error cause => rfl

/-- A number that was just used is not used again. -/
lemma projectilesOutside_withProjectile (w : World) (p : Projectile) {next : UInt32}
    (hnext : next.toNat = w.nextProjectile.toNat + 1) (count : Nat) :
    ((w.withProjectile p next).projectilesOutside next.toNat count).values.Perm
      (p :: (w.projectilesOutside w.nextProjectile.toNat (count + 1)).values) := by
  have hkept : outside next.toNat count ⟨w.nextProjectile⟩ = true := by
    simp only [outside, decide_eq_true_iff]
    omega
  have hrest : (w.projectiles.filterKeys (outside next.toNat count)).erase ⟨w.nextProjectile⟩ =
      w.projectilesOutside w.nextProjectile.toNat (count + 1) := by
    refine SortedTable.ext fun id => ?_
    rw [SortedTable.get?_erase, projectilesOutside, SortedTable.get?_filterKeys,
      SortedTable.get?_filterKeys]
    have hrank : Ranked.rank id = Ranked.rank (⟨w.nextProjectile⟩ : ProjectileId) ↔
      id.val.toNat = w.nextProjectile.toNat := Iff.rfl
    simp only [hrank, outside, decide_eq_true_iff]
    split
    · rw [if_neg (by omega)]
    · congr 1
      exact propext (by omega)
  rw [projectilesOutside, withProjectile, SortedTable.filterKeys_insert p hkept, ← hrest]
  exact SortedTable.values_insert_perm _ _ p

/-- Either there are numbers for all projectiles; then these are in flight in the end, beside those
whose numbers were not used again.  Or the numbers run out, and the computation stops. -/
lemma insertProjectiles_cases (ps : List Projectile) (w : World) :
    (w.nextProjectile.toNat + ps.length < UInt32.size ∧ ∃ table next,
      (insertProjectiles ps).on w =
        (.ok (), { w with projectiles := table, nextProjectile := next }) ∧
      table.values.Perm (ps ++ (w.projectilesOutside w.nextProjectile.toNat ps.length).values)) ∨
    (UInt32.size ≤ w.nextProjectile.toNat + ps.length ∧
      ((insertProjectiles ps).on w).1 = .error (.halt (.overflow .add))) := by
  induction ps generalizing w with
  | nil =>
    have hlt := w.nextProjectile.toNat_lt
    have hall : w.projectilesOutside w.nextProjectile.toNat 0 = w.projectiles := by
      refine SortedTable.ext fun id => ?_
      rw [projectilesOutside, SortedTable.get?_filterKeys, if_pos]
      simp only [outside, decide_eq_true_iff]
      omega
    refine .inl ⟨hlt, w.projectiles, w.nextProjectile, rfl, ?_⟩
    rw [List.nil_append, List.length_nil, hall]
  | cons p ps ih =>
    rw [insertProjectiles_cons, List.length_cons]
    cases hnext : Overflow.successor w.nextProjectile with
    | error cause =>
      rw [Overflow.successor] at hnext
      split at hnext
      · cases hnext
      · cases hnext
        exact .inr ⟨by omega, rfl⟩
    | ok next =>
      have hsucc := Overflow.successor_eq_ok hnext
      -- the first projectile has a number below all that are still to be given
      have hfield : (w.withProjectile p next).nextProjectile = next := rfl
      rcases ih (w.withProjectile p next) with ⟨hlt, table, last, hon, hperm⟩ | ⟨hle, herror⟩
      · rw [hfield] at hlt hperm
        refine .inl ⟨by omega, table, last, hon, hperm.trans ?_⟩
        exact ((projectilesOutside_withProjectile w p hsucc ps.length).append_left ps).trans
          List.perm_middle
      · rw [hfield] at hle
        exact .inr ⟨by omega, herror⟩

/-- The order in which projectiles are put in flight, and that in which their damages were noted,
make no difference to the answer nor to the fingerprint of the world. -/
theorem fingerprint_insertProjectiles {ps qs : List Projectile} (h : Projectile.Reordered ps qs)
    (w : World) :
    ((insertProjectiles ps).on w).1 = ((insertProjectiles qs).on w).1 ∧
      (((insertProjectiles ps).on w).1 = .ok () →
        fingerprint ((insertProjectiles ps).on w).2 =
          fingerprint ((insertProjectiles qs).on w).2) := by
  have hlength := h.length_eq
  rcases insertProjectiles_cases ps w with ⟨hlt, t, n, hps, hpermp⟩ | ⟨hle, hps⟩ <;>
    rcases insertProjectiles_cases qs w with ⟨hlt', t', n', hqs, hpermq⟩ | ⟨hle', hqs⟩
  · have hsum : fingerprint t.values = fingerprint t'.values := by
      show Fingerprint.sum (t.values.map fingerprint) = .sum (t'.values.map fingerprint)
      rw [Fingerprint.sum_perm (hpermp.map fingerprint),
        Fingerprint.sum_perm (hpermq.map fingerprint), List.map_append, List.map_append,
        Fingerprint.sum_append, Fingerprint.sum_append, h.sum_eq, hlength]
    rw [hps, hqs]
    refine ⟨rfl, fun _ => ?_⟩
    show _ + fingerprint t.values = _ + fingerprint t'.values
    rw [hsum]
  · omega
  · omega
  · exact ⟨hps.trans hqs.symm, fun hok => by rw [hps] at hok; cases hok⟩

/-! ### A single difference -/

/-- Two worlds at the same moment have the same entries, but perhaps for the value of one. -/
structure DifferAt (e : Entry) (w w' : World) : Prop where
  time : w.time = w'.time
  others : ∀ e', e' ≠ e → e'.value? w = e'.value? w'

/-- Nothing is lost in the sum while only one entry differs. -/
theorem DifferAt.fingerprint_eq_iff {e : Entry} (h : DifferAt e w w') {v v' : e.field.Value}
    (hv : e.value? w = some v) (hv' : e.value? w' = some v') :
    fingerprint w = fingerprint w' ↔ fingerprint v = fingerprint v' := by
  -- both worlds hold the same subjects, so the sums are over the same entries
  have hentries : w.entries.Perm w'.entries := by
    refine (List.perm_ext_iff_of_nodup (nodup_entries w) (nodup_entries w')).2 fun e' => ?_
    rw [mem_entries, mem_entries]
    by_cases heq : e' = e
    · subst heq
      simp [hv, hv']
    · rw [h.others e' heq]
  have hmem : e ∈ w.entries := mem_entries.2 (by simp [hv])
  rw [fingerprint_eq_sum_entries w, fingerprint_eq_sum_entries w', ← h.time,
    ← Fingerprint.sum_perm (hentries.map fun e => fingerprint (e.value? w')), add_right_inj,
    Fingerprint.sum_map_eq_iff (nodup_entries w) hmem fun e' _ hne => by rw [h.others e' hne],
    hv, hv']
  rfl

/-! ### The algebra of fingerprints -/

/-- The listed fields of some records as numbers, added up without reduction. -/
def total {ρ : Type} (listed : List (ListedField ρ)) (records : List ρ) : Nat :=
  (records.map fun r => (listed.map fun f => (f.print r).val.toNat).sum).sum

lemma toNat_fingerprint_list {ρ : Type} [Fingerprinted ρ] {listed : List (ListedField ρ)}
    (h : ∀ r : ρ, fingerprint r = .sum (listed.map fun f => f.print r)) (records : List ρ) :
    (fingerprint records).val.toNat = total listed records % 2 ^ 32 := by
  have hprints : records.map fingerprint =
      (records.map fun r => listed.map fun f => f.print r).map Fingerprint.sum := by
    rw [List.map_map]
    exact List.map_congr_left fun r _ => h r
  show (Fingerprint.sum (records.map fingerprint)).val.toNat = _
  rw [hprints, Fingerprint.toNat_sum_sum, total, List.map_map]
  simp only [Function.comp_def, List.map_map]

/-- The fingerprint of a world is the clock and the total of the listed fields of all players, units
and projectiles, modulo `2 ^ 32`.  It does not depend on the order in which projectiles were put in
flight nor on that in which their damages were noted; and worlds that differ in one listed field of
one of their subjects have the same fingerprint just when the two values have. -/
theorem fingerprint_is_sum_of_listed_fields :
    (∀ w : World, (fingerprint w).val.toNat =
      (w.time.val.toNat + total Player.listed w.players.toList
        + total UnitState.listed w.units.values
        + total Projectile.listed w.projectiles.values) % 2 ^ 32) ∧
    (∀ (w : World) (ps qs : List Projectile), Projectile.Reordered ps qs →
      ((insertProjectiles ps).on w).1 = ((insertProjectiles qs).on w).1 ∧
        (((insertProjectiles ps).on w).1 = .ok () →
          fingerprint ((insertProjectiles ps).on w).2 =
            fingerprint ((insertProjectiles qs).on w).2)) ∧
    (∀ (w w' : World) (e : Entry) (v v' : e.field.Value), DifferAt e w w' →
      e.value? w = some v → e.value? w' = some v' →
        (fingerprint w = fingerprint w' ↔ fingerprint v = fingerprint v')) := by
  refine ⟨fun w => ?_, fun w ps qs h => fingerprint_insertProjectiles h w,
    fun w w' e v v' h hv hv' => h.fingerprint_eq_iff hv hv'⟩
  have htime : (fingerprint w.time).val = w.time.val := rfl
  show (fingerprint w.time + fingerprint w.players.toList + fingerprint w.units.values
    + fingerprint w.projectiles.values).val.toNat = _
  rw [Fingerprint.toNat_add, Fingerprint.toNat_add, Fingerprint.toNat_add, htime,
    toNat_fingerprint_list Player.fingerprint_eq, toNat_fingerprint_list UnitState.fingerprint_eq,
    toNat_fingerprint_list Projectile.fingerprint_eq]
  omega

namespace Sample

/-- A projectile with the given damages and radius, fired by the first player. -/
def shot (damage : List (String × UInt32)) (radius : Scalar) : Projectile where
  weapon := "LASER"
  owner := ⟨0⟩
  position := 0
  previousPosition := 0
  origin := 0
  velocity := 0
  falls := false
  damage := .ofList damage
  radius := radius
  created := ⟨0⟩
  expiry := none
  bounces := false
  lastSmoke := ⟨0⟩

/-- Two shots. -/
def volley : List Projectile :=
  [shot [("DEFAULT", 10), ("TANK", 5)] 0, shot [("DEFAULT", 40), ("LAB", 80)] (.ofWhole 2)]

/-- The same two shots in the other order, with their damages noted in another order. -/
def volleyBackwards : List Projectile :=
  [shot [("LAB", 80), ("DEFAULT", 40)] (.ofWhole 2), shot [("TANK", 5), ("DEFAULT", 10)] 0]

/-- A world with one projectile. -/
def shotAt (radius : Scalar) : World := start.withProjectile (shot [("DEFAULT", 10)] radius) 1

/-- The radius of that projectile. -/
def radiusEntry : Entry := ⟨.projectile ⟨0⟩, 4, by decide⟩

lemma reordered_volley : Projectile.Reordered volley volleyBackwards :=
  ⟨_, .swap _ _ [],
    .cons (Projectile.refilled_ofList (shot [] (.ofWhole 2)) (by decide) (.swap _ _ []))
    (.cons (Projectile.refilled_ofList (shot [] 0) (by decide) (.swap _ _ [])) .nil)⟩

lemma differAt_shotAt (r r' : Scalar) : DifferAt radiusEntry (shotAt r) (shotAt r') where
  time := rfl
  others := by
    rintro ⟨⟨number⟩ | ⟨id⟩ | ⟨id⟩, i, hi⟩ hne
    · rfl
    · rfl
    · by_cases hid : id = ⟨0⟩
      · subst hid
        match i, hi with
        | 0, _ | 1, _ | 2, _ | 3, _ | 5, _ => rfl
        | 4, _ => exact absurd rfl hne
        | i + 6, hi => exact absurd hi (by simp [Subject.listed, Projectile.listed])
      · have hnone (r : Scalar) : (shotAt r).projectiles.get? id = none :=
          (SortedTable.get?_insert ..).trans (if_neg (mt Ranked.rank_inj hid))
        rw [Entry.value?, Entry.value?, Subject.record?, Subject.record?, hnone, hnone]

theorem fingerprint_is_sum_of_listed_fields_volley :
    fingerprint ((insertProjectiles volley).on start).2 =
        fingerprint ((insertProjectiles volleyBackwards).on start).2 ∧
      fingerprint (shotAt (.ofWhole 1)) ≠ fingerprint (shotAt (.ofWhole 2)) := by
  obtain ⟨-, hreordered, hdiffer⟩ := fingerprint_is_sum_of_listed_fields
  have hok : ((insertProjectiles volley).on start).1 = .ok () := by rfl
  refine ⟨(hreordered start _ _ reordered_volley).2 hok, fun heq => ?_⟩
  have hradius := (hdiffer _ _ radiusEntry (.ofWhole 1) (.ofWhole 2) (differAt_shotAt _ _) rfl
    rfl).1 heq
  exact absurd hradius (by decide)

end Sample

end World

end Lockstep
