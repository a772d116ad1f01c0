import Mathlib.Algebra.BigOperators.Group.List.Basic
import Mathlib.Algebra.Order.Ring.Int
import Lockstep.World.Player
/-!
# The books of a player

In a period between two resets units report what they ask for and what they really take or bring,
while the player may be stalled for a time.  What stands in the books in the end is the total of
these amounts, modulo `2 ^ 32`: of all amounts asked for (`desired`), and of the amounts of the
granted reports (`consumed`, `produced`).  Metal is not asked for when the energy of a report is
refused.
-/

namespace Lockstep

/-! ### What a single account notes -/

namespace Amount

variable {r : Resource}

/-- The number of 65536ths. -/
def raw (a : Amount r) : Int := a.value.toRaw

/-- What is consumed, as a positive number. -/
def consumption (a : Amount r) : Int := if a.raw < 0 then -a.raw else 0

/-- What is produced. -/
def production (a : Amount r) : Int := if a.raw < 0 then 0 else a.raw

lemma isNegative_eq (a : Amount r) : a.isNegative = decide (a.raw < 0) :=
  decide_eq_decide.2 Scalar.lt_iff

lemma raw_add (a b : Amount r) : (a + b).raw = (a.raw + b.raw).bmod UInt32.size :=
  Scalar.toRaw_add a.value b.value

lemma raw_sub (a b : Amount r) : (a - b).raw = (a.raw - b.raw).bmod UInt32.size :=
  Scalar.toRaw_sub a.value b.value

end Amount

namespace Account

variable {r : Resource} {a : Account r} {desired consumed produced : Int}

lemma grants_eq (a : Account r) (x : Amount r) :
    a.grants x = decide ¬(x.raw < 0 ∧ a.stalled = true) := by
  rw [grants, Amount.isNegative_eq, decide_not, Bool.decide_and, Bool.decide_eq_true]

/-- What stands in the books of the period, each total reduced modulo `2 ^ 32`. -/
structure Books (a : Account r) (desired consumed produced : Int) : Prop where
  desired : a.desired.raw = desired.bmod UInt32.size
  consumed : a.consumed.raw = consumed.bmod UInt32.size
  produced : a.produced.raw = produced.bmod UInt32.size

lemma books_reset (a : Account r) : a.reset.Books 0 0 0 := ⟨rfl, rfl, rfl⟩

/-- All that consumption does to the books of requests is to be added to what is desired. -/
lemma Books.request (h : a.Books desired consumed produced) (x : Amount r) :
    (a.request x).Books (desired + x.consumption) consumed produced := by
  rw [Account.request, Amount.isNegative_eq, Amount.consumption]
  by_cases hx : x.raw < 0
  · rw [if_pos (decide_eq_true hx), if_pos hx]
    refine ⟨?_, h.consumed, h.produced⟩
    rw [Amount.raw_sub, h.desired, Int.bmod_sub_bmod]
    rfl
  · rw [if_neg (by simpa using hx), if_neg hx, Int.add_zero]
    exact h

/-- What is really taken or brought is added on its own side. -/
lemma Books.book (h : a.Books desired consumed produced) (x : Amount r) :
    (a.book x).Books desired (consumed + x.consumption) (produced + x.production) := by
  rw [Account.book, Amount.isNegative_eq, Amount.consumption, Amount.production]
  by_cases hx : x.raw < 0
  · rw [if_pos (decide_eq_true hx), if_pos hx, if_pos hx, Int.add_zero]
    refine ⟨h.desired, ?_, h.produced⟩
    rw [Amount.raw_sub, h.consumed, Int.bmod_sub_bmod]
    rfl
  · rw [if_neg (by simpa using hx), if_neg hx, if_neg hx, Int.add_zero]
    refine ⟨h.desired, h.consumed, ?_⟩
    rw [Amount.raw_add, h.produced, Int.bmod_add_bmod]

end Account

/-! ### Reports of a period -/

/-- A report of a unit, with what the player is stalled on when it comes. -/
structure Demand where
  /-- Whether the player is stalled on energy. -/
  energyStalled : Bool
  /-- Whether the player is stalled on metal. -/
  metalStalled : Bool
  /-- The energy asked for. -/
  apparentEnergy : Energy
  /-- The metal asked for. -/
  apparentMetal : Metal
  /-- The energy that is really taken or brought. -/
  actualEnergy : Energy
  /-- The metal that is really taken or brought. -/
  actualMetal : Metal

namespace Demand

/-- Energy is to be consumed, on which the player is stalled. -/
def LacksEnergy (c : Demand) : Prop := c.apparentEnergy.raw < 0 ∧ c.energyStalled = true

/-- Metal is to be consumed, on which the player is stalled. -/
def LacksMetal (c : Demand) : Prop := c.apparentMetal.raw < 0 ∧ c.metalStalled = true

/-- The player is not stalled on anything that is to be consumed. -/
def Granted (c : Demand) : Prop := ¬c.LacksEnergy ∧ ¬c.LacksMetal

instance (c : Demand) : Decidable c.LacksEnergy := inferInstanceAs (Decidable (_ ∧ _))

instance (c : Demand) : Decidable c.LacksMetal := inferInstanceAs (Decidable (_ ∧ _))

instance (c : Demand) : Decidable c.Granted := inferInstanceAs (Decidable (_ ∧ _))

/-- The total of an amount in some reports, without reduction. -/
def total (amount : Demand → Int) (reports : List Demand) : Int := (reports.map amount).sum

lemma total_cons (amount : Demand → Int) (c : Demand) (rest : List Demand) :
    total amount (c :: rest) = amount c + total amount rest := by
  rw [total, List.map_cons, List.sum_cons, total]

/-- A report counts if it is among those that are kept. -/
lemma total_filter_cons (amount : Demand → Int) (kept : Demand → Prop) [DecidablePred kept]
    (c : Demand) (rest : List Demand) :
    total amount ((c :: rest).filter fun c => kept c) =
      (if kept c then amount c else 0) + total amount (rest.filter fun c => kept c) := by
  by_cases h : kept c
  · rw [List.filter_cons_of_pos (by simpa using h), total_cons, if_pos h]
  · rw [List.filter_cons_of_neg (by simpa using h), if_neg h, Int.zero_add]

end Demand

namespace Player

variable {p : Player} {c : Demand}

/-- A player who is stalled on energy and metal, or not. -/
def stall (p : Player) (energy metal : Bool) : Player :=
  { p with energy := { p.energy with stalled := energy }
           metal := { p.metal with stalled := metal } }

/-- Takes a report while stalled as it says. -/
def take (p : Player) (c : Demand) : Bool × Player :=
  (p.stall c.energyStalled c.metalStalled).report c.apparentEnergy c.apparentMetal c.actualEnergy
    c.actualMetal

/-- Takes reports one after the other; gives back the answers. -/
def takeAll : List Demand → Player → List Bool × Player
  | [], p => ([], p)
  | c :: rest, p =>
    let (answer, p) := p.take c
    let (answers, p) := takeAll rest p
    (answer :: answers, p)

/-- A report is refused for lack of energy before metal is asked for, or for lack of metal, or it is
granted and booked. -/
lemma take_cases (p : Player) (c : Demand) :
    let q := p.stall c.energyStalled c.metalStalled
    let energy := q.energy.request c.apparentEnergy
    let metal := q.metal.request c.apparentMetal
    (c.LacksEnergy ∧ p.take c = (false, { q with energy := energy })) ∨
      (¬c.LacksEnergy ∧ c.LacksMetal ∧
        p.take c = (false, { q with energy := energy, metal := metal })) ∨
      (c.Granted ∧ p.take c =
        (true, { q with energy := energy.book c.actualEnergy, metal := metal.book c.actualMetal }))
    := by
  intro q energy metal
  have henergy : q.energy.grants c.apparentEnergy = decide ¬c.LacksEnergy := Account.grants_eq ..
  have hmetal : q.metal.grants c.apparentMetal = decide ¬c.LacksMetal := Account.grants_eq ..
  have htake : p.take c = if c.LacksEnergy then (false, { q with energy := energy })
      else if c.LacksMetal then (false, { q with energy := energy, metal := metal })
      else (true,
        { q with energy := energy.book c.actualEnergy, metal := metal.book c.actualMetal }) := by
    show q.report _ _ _ _ = _
    simp only [report, henergy, hmetal, decide_not, Bool.not_not, decide_eq_true_eq]
    rfl
  by_cases he : c.LacksEnergy
  · exact .inl ⟨he, by rw [htake, if_pos he]⟩
  by_cases hm : c.LacksMetal
  · exact .inr (.inl ⟨he, hm, by rw [htake, if_neg he, if_pos hm]⟩)
  · exact .inr (.inr ⟨⟨he, hm⟩, by rw [htake, if_neg he, if_neg hm]⟩)

/-- A single report, for both accounts. -/
lemma books_take {de ce pe dm cm pm : Int} (he : p.energy.Books de ce pe)
    (hm : p.metal.Books dm cm pm) (c : Demand) :
    (p.take c).1 = decide c.Granted ∧
    (p.take c).2.energy.Books (de + c.apparentEnergy.consumption)
      (ce + if c.Granted then c.actualEnergy.consumption else 0)
      (pe + if c.Granted then c.actualEnergy.production else 0) ∧
    (p.take c).2.metal.Books (dm + if c.LacksEnergy then 0 else c.apparentMetal.consumption)
      (cm + if c.Granted then c.actualMetal.consumption else 0)
      (pm + if c.Granted then c.actualMetal.production else 0) := by
  -- whether a player is stalled does not stand in the books
  replace he : (p.stall c.energyStalled c.metalStalled).energy.Books de ce pe :=
    ⟨he.desired, he.consumed, he.produced⟩
  replace hm : (p.stall c.energyStalled c.metalStalled).metal.Books dm cm pm :=
    ⟨hm.desired, hm.consumed, hm.produced⟩
  rcases take_cases p c with ⟨hlacks, htake⟩ | ⟨hfree, hlacks, htake⟩ | ⟨hgranted, htake⟩
  · have hrefused : ¬c.Granted := fun h => h.1 hlacks
    simp only [htake, if_neg hrefused, if_pos hlacks, Int.add_zero, decide_eq_false hrefused]
    exact ⟨trivial, he.request _, hm⟩
  · have hrefused : ¬c.Granted := fun h => h.2 hlacks
    simp only [htake, if_neg hrefused, if_neg hfree, Int.add_zero, decide_eq_false hrefused]
    exact ⟨trivial, he.request _, hm.request _⟩
  · simp only [htake, if_pos hgranted, if_neg hgranted.1, decide_eq_true hgranted]
    exact ⟨trivial, (he.request _).book _, (hm.request _).book _⟩

/-- The books after a number of reports; the induction is on the reports. -/
lemma books_takeAll {de ce pe dm cm pm : Int} (he : p.energy.Books de ce pe)
    (hm : p.metal.Books dm cm pm) (reports : List Demand) :
    let granted := reports.filter fun c => c.Granted
    (takeAll reports p).1 = reports.map (fun c => decide c.Granted) ∧
    (takeAll reports p).2.energy.Books
      (de + Demand.total (fun c => c.apparentEnergy.consumption) reports)
      (ce + Demand.total (fun c => c.actualEnergy.consumption) granted)
      (pe + Demand.total (fun c => c.actualEnergy.production) granted) ∧
    (takeAll reports p).2.metal.Books
      (dm + Demand.total (fun c => c.apparentMetal.consumption)
        (reports.filter fun c => ¬c.LacksEnergy))
      (cm + Demand.total (fun c => c.actualMetal.consumption) granted)
      (pm + Demand.total (fun c => c.actualMetal.production) granted) := by
  induction reports generalizing p de ce pe dm cm pm with
  | nil =>
    refine ⟨rfl, ?_, ?_⟩
    · simpa [Demand.total, takeAll] using he
    · simpa [Demand.total, takeAll] using hm
  | cons c rest ih =>
    obtain ⟨hanswer, he, hm⟩ := books_take he hm c
    obtain ⟨hanswers, he, hm⟩ := ih he hm
    intro granted
    refine ⟨?_, ?_, ?_⟩
    · rw [List.map_cons, ← hanswer, ← hanswers]
      rfl
    · rw [Demand.total_cons, Demand.total_filter_cons, Demand.total_filter_cons, ← Int.add_assoc,
        ← Int.add_assoc, ← Int.add_assoc]
      exact he
    · rw [Demand.total_filter_cons, Demand.total_filter_cons, Demand.total_filter_cons,
        ← Int.add_assoc, ← Int.add_assoc, ← Int.add_assoc, ite_not]
      exact hm

/-- A report that is refused is booked nowhere. -/
lemma report_refused (p : Player) (apparentEnergy actualEnergy : Energy)
    (apparentMetal actualMetal : Metal) (q : Player)
    (h : p.report apparentEnergy apparentMetal actualEnergy actualMetal = (false, q)) :
    (q.energy.consumed, q.energy.produced) = (p.energy.consumed, p.energy.produced) ∧
      (q.metal.consumed, q.metal.produced) = (p.metal.consumed, p.metal.produced) := by
  have hrequest {r : Resource} (a : Account r) (x : Amount r) :
      ((a.request x).consumed, (a.request x).produced) = (a.consumed, a.produced) := by
    rw [Account.request]
    split <;> rfl
  rw [report] at h
  split at h
  · cases h
    exact ⟨hrequest _ _, rfl⟩
  · split at h <;> cases h
    exact ⟨hrequest _ _, hrequest _ _⟩

/-- A report is granted just if the player is not stalled on anything that it asks to consume.  In
the books of a period stand, modulo `2 ^ 32`, the totals of what the granted reports really take and
bring, of all energy that is asked for, and of the metal that is asked for in reports whose energy
is not refused.  A refused report is booked nowhere, and with a new period the books are cleared,
but for what was desired. -/
theorem ledger_is_exact (p : Player) :
    (∀ reports : List Demand,
      let granted := reports.filter fun c => c.Granted
      let answers := (takeAll reports p.resetAccounts).1
      let q := (takeAll reports p.resetAccounts).2
      answers = reports.map (fun c => decide c.Granted) ∧
      q.energy.Books (Demand.total (fun c => c.apparentEnergy.consumption) reports)
        (Demand.total (fun c => c.actualEnergy.consumption) granted)
        (Demand.total (fun c => c.actualEnergy.production) granted) ∧
      q.metal.Books
        (Demand.total (fun c => c.apparentMetal.consumption)
          (reports.filter fun c => ¬c.LacksEnergy))
        (Demand.total (fun c => c.actualMetal.consumption) granted)
        (Demand.total (fun c => c.actualMetal.production) granted)) ∧
    (∀ apparentEnergy apparentMetal actualEnergy actualMetal q,
      p.report apparentEnergy apparentMetal actualEnergy actualMetal = (false, q) →
      (q.energy.consumed, q.energy.produced) = (p.energy.consumed, p.energy.produced) ∧
        (q.metal.consumed, q.metal.produced) = (p.metal.consumed, p.metal.produced)) ∧
    p.resetAccounts = { p with
      energy := ⟨p.energy.stored, p.energy.capacity, p.energy.stalled, 0, p.energy.desired, 0, 0⟩
      metal := ⟨p.metal.stored, p.metal.capacity, p.metal.stalled, 0, p.metal.desired, 0, 0⟩ } := by
  refine ⟨fun reports => ?_, fun _ _ _ _ q => report_refused p _ _ _ _ q, rfl⟩
  have h := books_takeAll (p := p.resetAccounts) p.energy.books_reset p.metal.books_reset reports
  simpa only [Int.zero_add] using h

namespace Sample

/-- Reports to a player who is short of metal, then of energy, and then of nothing. -/
def period : List Demand :=
  [⟨false, true, .ofWhole (-1), .ofWhole (-4), .ofWhole (-1), .ofWhole (-4)⟩,
    ⟨true, false, .ofWhole (-2), .ofWhole (-8), .ofWhole (-2), .ofWhole (-8)⟩,
    ⟨true, true, .ofWhole 3, 0, .ofWhole 3, .ofWhole (-16)⟩,
    ⟨false, false, .ofWhole (-5), .ofWhole 32, .ofWhole (-6), .ofWhole 32⟩]

end Sample

/-- Two of four reports are granted, and metal is desired in the first one only; the energy of a
report that is refused for lack of metal is not booked either. -/
theorem ledger_is_exact_period :
    (takeAll Sample.period (resetAccounts default)).1 = [false, false, true, true] ∧
      (takeAll Sample.period (resetAccounts default)).2.energy.Books (8 * 65536) (6 * 65536)
        (3 * 65536) ∧
      (takeAll Sample.period (resetAccounts default)).2.metal.Books (4 * 65536) (16 * 65536)
        (32 * 65536) ∧
      let p := stall default false true
      let q := (p.report (.ofWhole 1) (.ofWhole (-1)) (.ofWhole 1) (.ofWhole (-1))).2
      (q.energy.consumed, q.energy.produced) = (p.energy.consumed, p.energy.produced) := by
  obtain ⟨hanswers, henergy, hmetal⟩ := (ledger_is_exact default).1 Sample.period
  have hrefused := (ledger_is_exact (stall default false true)).2.1 (.ofWhole 1) (.ofWhole (-1))
    (.ofWhole 1) (.ofWhole (-1)) _ (Prod.ext (by decide) rfl)
  exact ⟨hanswers.trans (by decide), henergy, hmetal, hrefused.1⟩

end Player

end Lockstep
