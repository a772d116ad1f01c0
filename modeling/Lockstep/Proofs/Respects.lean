import Mathlib.Order.Defs.Unbundled
import Mathlib.Tactic.Common
import Lockstep.World.State
/-!
# What a computation may do to its state

A computation respects a relation if, from whatever state it starts, it ends in a state related to
that one, whether it answers or fails.  For a preorder this goes through sequences, branches and
loops, so that it has to be checked for single writes only.  What a computation may answer is
decided by its last part alone, unless that depends on the states it comes to: then both are shown
together (`Secures`).
-/

namespace Lockstep

variable {σ ε α β : Type}

lemma run_bind (a : ExceptT ε (StateM σ) α) (f : α → ExceptT ε (StateM σ) β) (s : σ) :
    (a >>= f).run.run s =
      match a.run.run s with
      | (.ok x, s') => (f x).run.run s'
      | (.error e, s') => (.error e, s') := by
  show (ExceptT.bindCont f (a.run.run s).1).run (a.run.run s).2 = _
  rcases a.run.run s with ⟨_ | _, _⟩ <;> rfl

/-- What comes after a look at the state starts from the state seen. -/
lemma run_get_bind (f : σ → ExceptT ε (StateM σ) α) (s : σ) :
    (get >>= f).run.run s = (f s).run.run s := rfl

/-- Whatever state a computation starts from, it ends in a related one. -/
def Respects (R : σ → σ → Prop) (a : ExceptT ε (StateM σ) α) : Prop :=
  ∀ s, R s (a.run.run s).2

namespace Respects

variable {R : σ → σ → Prop}

lemma mono {R' : σ → σ → Prop} {a : ExceptT ε (StateM σ) α} (h : ∀ s s', R s s' → R' s s')
    (ha : Respects R a) : Respects R' a :=
  fun s => h _ _ (ha s)

lemma modify {f : σ → σ} (h : ∀ s, R s (f s)) :
    Respects R (modify f : ExceptT ε (StateM σ) Unit) := h

/-- After a look at the state, the rest of the computation is started from the state seen. -/
lemma get_bind {f : σ → ExceptT ε (StateM σ) β} (h : ∀ s, R s ((f s).run.run s).2) :
    Respects R (get >>= f) := h

section Preorder

variable [IsPreorder σ R]

lemma pure (a : α) : Respects R (pure a : ExceptT ε (StateM σ) α) := fun s => refl_of R s

lemma throw (e : ε) : Respects R (throw e : ExceptT ε (StateM σ) α) := fun s => refl_of R s

lemma get : Respects R (get : ExceptT ε (StateM σ) σ) := fun s => refl_of R s

lemma bind {a : ExceptT ε (StateM σ) α} {f : α → ExceptT ε (StateM σ) β} (ha : Respects R a)
    (hf : ∀ x, Respects R (f x)) : Respects R (a >>= f) := by
  intro s
  have hs := ha s
  rw [run_bind]
  revert hs
  rcases a.run.run s with ⟨_ | x, s'⟩ <;> intro hs
  · exact hs
  · exact trans_of R hs (hf x s')

lemma forM {l : List α} {f : α → ExceptT ε (StateM σ) PUnit} (h : ∀ a ∈ l, Respects R (f a)) :
    Respects R (l.forM f) := by
  induction l with
  | nil => exact Respects.pure _
  | cons a l ih =>
    exact bind (h a List.mem_cons_self) fun _ => ih fun b hb => h b (List.mem_cons_of_mem _ hb)

lemma foldlM {l : List α} {f : β → α → ExceptT ε (StateM σ) β}
    (h : ∀ b, ∀ a ∈ l, Respects R (f b a)) (b : β) : Respects R (l.foldlM f b) := by
  induction l generalizing b with
  | nil => exact Respects.pure _
  | cons a l ih =>
    rw [List.foldlM_cons]
    exact bind (h b a List.mem_cons_self) fun c =>
      ih (fun b a' ha' => h b a' (List.mem_cons_of_mem _ ha')) c

end Preorder

end Respects

/-- Whatever state a computation starts from, an answer of it has the property. -/
def Answers (P : α → Prop) (a : ExceptT ε (StateM σ) α) : Prop :=
  ∀ s x, (a.run.run s).1 = .ok x → P x

namespace Answers

variable {P : β → Prop}

lemma pure {b : β} (h : P b) : Answers P (pure b : ExceptT ε (StateM σ) β) := by
  rintro s x ⟨⟩
  exact h

lemma throw (e : ε) : Answers P (throw e : ExceptT ε (StateM σ) β) := nofun

/-- A sequence answers what its second part answers. -/
lemma bind {a : ExceptT ε (StateM σ) α} {f : α → ExceptT ε (StateM σ) β}
    (hf : ∀ x, Answers P (f x)) : Answers P (a >>= f) := by
  intro s x hx
  rw [run_bind] at hx
  revert hx
  rcases a.run.run s with ⟨_ | y, s'⟩ <;> intro hx
  · cases hx
  · exact hf y s' x hx

end Answers

/-- What a computation ended with: an answer that has a property or a failure that has one. -/
def Outcome (Q : α → Prop) (F : ε → Prop) : Except ε α → Prop
  | .ok x => Q x
  | .error e => F e

/-- From every state with a property a computation comes to such a state again, be it with an answer
that is right or with a failure that is. -/
def Secures (P : σ → Prop) (Q : α → Prop) (F : ε → Prop) (a : ExceptT ε (StateM σ) α) : Prop :=
  ∀ s, P s → P (a.run.run s).2 ∧ Outcome Q F (a.run.run s).1

namespace Secures

variable {P : σ → Prop} {Q : α → Prop} {Q' : β → Prop} {F : ε → Prop}

lemma pure {x : α} (hx : Q x) : Secures P Q F (pure x : ExceptT ε (StateM σ) α) :=
  fun _ hs => ⟨hs, hx⟩

lemma throw {e : ε} (he : F e) : Secures P Q F (throw e : ExceptT ε (StateM σ) α) :=
  fun _ hs => ⟨hs, he⟩

lemma modify {Q : PUnit → Prop} {f : σ → σ} (hf : ∀ s, P s → P (f s)) (hq : Q ⟨⟩) :
    Secures P Q F (modify f : ExceptT ε (StateM σ) PUnit) :=
  fun s hs => ⟨hf s hs, hq⟩

/-- After a look at the state, the rest of the computation is started from the state seen. -/
lemma get_bind {f : σ → ExceptT ε (StateM σ) β}
    (h : ∀ s, P s → P ((f s).run.run s).2 ∧ Outcome Q' F ((f s).run.run s).1) :
    Secures P Q' F (get >>= f) := h

/-- The rest of a computation has to do with the states and the answers that the first part comes
to. -/
lemma bind {a : ExceptT ε (StateM σ) α} {f : α → ExceptT ε (StateM σ) β} (ha : Secures P Q F a)
    (hf : ∀ x, Q x → Secures P Q' F (f x)) : Secures P Q' F (a >>= f) := by
  intro s hs
  have hfirst := ha s hs
  rw [run_bind]
  revert hfirst
  rcases a.run.run s with ⟨_ | x, s'⟩ <;> intro hfirst
  · exact hfirst
  · exact hf x hfirst.2 s' hfirst.1

/-- A loop hands an answer on from round to round. -/
lemma foldlM {ι : Type} {l : List ι} {f : α → ι → ExceptT ε (StateM σ) α}
    (h : ∀ x, Q x → ∀ i ∈ l, Secures P Q F (f x i)) {x : α} (hx : Q x) :
    Secures P Q F (l.foldlM f x) := by
  induction l generalizing x with
  | nil => exact Secures.pure hx
  | cons i l ih =>
    rw [List.foldlM_cons]
    exact bind (h x hx i List.mem_cons_self) fun y hy =>
      ih (fun z hz j hj => h z hz j (List.mem_cons_of_mem i hj)) hy

/-- What a computation answers and how it fails may be left out. -/
lemma respects {a : ExceptT ε (StateM σ) α} (ha : Secures P Q F a) :
    Respects (fun s s' => P s → P s') a :=
  fun s hs => (ha s hs).1

end Secures

namespace World.Action

variable {R : World → World → Prop}

/-! ### Operations on the world -/

@[simp] lemma on_pure (a : α) (w : World) : (Pure.pure a : Action α).on w = (.ok a, w) := rfl

@[simp] lemma on_throw (e : Failure) (w : World) :
    (throw e : Action α).on w = (.error e, w) := rfl

@[simp] lemma on_refuse (cause : Refusal) (w : World) :
    (refuse cause : Action α).on w = (.error (.refused cause), w) := rfl

@[simp] lemma on_modify (f : World → World) (w : World) :
    (modify f : Action Unit).on w = (.ok (), f w) := rfl

@[simp] lemma on_set (w' w : World) : (set w' : Action PUnit).on w = (.ok ⟨⟩, w') := rfl

lemma on_bind (a : Action α) (f : α → Action β) (w : World) :
    (a >>= f).on w =
      match a.on w with
      | (.ok x, w') => (f x).on w'
      | (.error e, w') => (.error e, w') := by
  show (ExceptT.bindCont f (a.on w).1).run (a.on w).2 = _
  rcases a.on w with ⟨_ | _, _⟩ <;> rfl

/-- An answer that nobody uses makes no difference to the world. -/
lemma on_discard (a : Action α) (w : World) :
    ((do let _ ← a : Action Unit).on w).2 = (a.on w).2 := by
  rw [on_bind]
  rcases a.on w with ⟨_ | _, _⟩ <;> rfl

/-- A sequence fails as its first part fails. -/
lemma on_bind_eq_error {a : Action α} (f : α → Action β) {w : World} {e : Failure}
    (h : (a.on w).1 = .error e) : ((a >>= f).on w).1 = .error e := by
  rw [on_bind]
  revert h
  rcases a.on w with ⟨_ | _, _⟩ <;> rintro ⟨⟩
  rfl

/-- A loop carries out its first round and goes on with the others. -/
lemma on_forM_cons (f : α → Action PUnit) (a : α) (l : List α) (w : World) :
    ((a :: l).forM f).on w =
      match (f a).on w with
      | (.ok _, w') => (l.forM f).on w'
      | (.error e, w') => (.error e, w') := by
  have hcons : (a :: l).forM f = (f a >>= fun _ => l.forM f) := rfl
  rw [hcons, on_bind]
  rcases (f a).on w with ⟨_ | _, _⟩ <;> rfl

@[simp] lemma on_get_bind (f : World → Action β) (w : World) : (get >>= f).on w = (f w).on w := by
  rfl

@[simp] lemma on_set_bind (w' : World) (f : PUnit → Action β) (w : World) :
    (set w' >>= f).on w = (f ⟨⟩).on w' := by
  rfl

@[simp] lemma on_modify_bind (g : World → World) (f : PUnit → Action β) (w : World) :
    (modify g >>= f).on w = (f ⟨⟩).on (g w) := by
  rfl

@[simp] lemma on_require_bind (r : Except Refusal α) (f : α → Action β) (w : World) :
    (require r >>= f).on w =
      match r with
      | .ok a => (f a).on w
      | .error cause => (.error (.refused cause), w) := by
  cases r <;> rfl

@[simp] lemma on_checked_bind (r : Except Overflow α) (f : α → Action β) (w : World) :
    (checked r >>= f).on w =
      match r with
      | .ok a => (f a).on w
      | .error cause => (.error (.halt (.overflow cause)), w) := by
  cases r <;> rfl

@[simp] lemma on_ofExcept_bind (r : Except Failure α) (f : α → Action β) (w : World) :
    (ofExcept r >>= f).on w =
      match r with
      | .ok a => (f a).on w
      | .error failure => (.error failure, w) := by
  cases r <;> rfl

section Preorder

variable [IsPreorder World R]

lemma respects_refuse (cause : Refusal) : Respects R (refuse cause : Action α) := Respects.throw _

lemma respects_require (r : Except Refusal α) : Respects R (require r) := by
  cases r with
  | ok a => exact Respects.pure a
  | error cause => exact respects_refuse cause

lemma respects_ofExcept (r : Except Failure α) : Respects R (ofExcept r) := by
  cases r with
  | ok a => exact Respects.pure a
  | error failure => exact Respects.throw _

/-- An operation is carried out, whatever it answers. -/
lemma respects_discard {a : Action α} (ha : Respects R a) :
    Respects R (do let _ ← a : Action Unit) := ha.bind fun _ => Respects.pure _

lemma on_orElse (a : Action α) (f : Refusal → Action α) (w : World) :
    (a.orElse f).on w =
      match a.on w with
      | (.error (.refused cause), w') => (f cause).on w'
      | result => result := by
  have hrun : StateT.run a.run w = a.on w := rfl
  rw [orElse, on, ExceptT.run_mk, StateT.run_bind, hrun]
  rcases a.on w with ⟨(_ | _) | _, _⟩ <;> rfl

lemma respects_orElse {a : Action α} {f : Refusal → Action α} (ha : Respects R a)
    (hf : ∀ cause, Respects R (f cause)) : Respects R (a.orElse f) := by
  intro w
  have hw : R w (a.on w).2 := ha w
  show R w ((a.orElse f).on w).2
  rw [on_orElse]
  revert hw
  rcases a.on w with ⟨(cause | _) | _, w'⟩ <;> intro hw
  · exact trans_of R hw (hf cause w')
  · exact hw
  · exact hw

end Preorder

end World.Action

end Lockstep
