import Lockstep.Proofs.Respects
/-!
# Two computations in step

Two computations are in step for a relation between their states if, started from related states,
they answer the same or fail in the same way, and end in related states again.  So nobody who sees
only the answers can tell them apart, however many of them are carried out one after the other.
Sequences and loops are in step if their parts are; a look at the state is harmless as long as what
comes of it is the same on both sides.
-/

namespace Lockstep

variable {σ τ ε α β : Type}

/-- From related states two computations come to the same answer, or fail in the same way, and to
related states. -/
def InStep (R : σ → τ → Prop) (a : ExceptT ε (StateM σ) α) (b : ExceptT ε (StateM τ) α) : Prop :=
  ∀ s t, R s t → (a.run.run s).1 = (b.run.run t).1 ∧ R (a.run.run s).2 (b.run.run t).2

namespace InStep

variable {R : σ → τ → Prop}

lemma pure (x : α) :
    InStep R (pure x : ExceptT ε (StateM σ) α) (pure x : ExceptT ε (StateM τ) α) :=
  fun _ _ h => ⟨rfl, h⟩

lemma throw (e : ε) :
    InStep R (throw e : ExceptT ε (StateM σ) α) (throw e : ExceptT ε (StateM τ) α) :=
  fun _ _ h => ⟨rfl, h⟩

lemma modify {f : σ → σ} {g : τ → τ} (h : ∀ s t, R s t → R (f s) (g t)) :
    InStep R (modify f : ExceptT ε (StateM σ) PUnit) (modify g : ExceptT ε (StateM τ) PUnit) :=
  fun s t hst => ⟨rfl, h s t hst⟩

lemma modifyGet {f : σ → α × σ} {g : τ → α × τ}
    (h : ∀ s t, R s t → (f s).1 = (g t).1 ∧ R (f s).2 (g t).2) :
    InStep R (modifyGet f : ExceptT ε (StateM σ) α) (modifyGet g : ExceptT ε (StateM τ) α) :=
  fun s t hst => ⟨congrArg Except.ok (h s t hst).1, (h s t hst).2⟩

lemma set {s : σ} {t : τ} (h : R s t) :
    InStep R (set s : ExceptT ε (StateM σ) PUnit) (set t : ExceptT ε (StateM τ) PUnit) :=
  fun _ _ _ => ⟨rfl, h⟩

/-- After a look at the states, what is done with them is compared for related states only. -/
lemma get_bind {f : σ → ExceptT ε (StateM σ) α} {g : τ → ExceptT ε (StateM τ) α}
    (h : ∀ s t, R s t → InStep R (f s) (g t)) : InStep R (get >>= f) (get >>= g) :=
  fun s t hst => h s t hst s t hst

lemma bind {a : ExceptT ε (StateM σ) α} {b : ExceptT ε (StateM τ) α}
    {f : α → ExceptT ε (StateM σ) β} {g : α → ExceptT ε (StateM τ) β} (hab : InStep R a b)
    (hfg : ∀ x, InStep R (f x) (g x)) : InStep R (a >>= f) (b >>= g) := by
  intro s t hst
  have hfirst := hab s t hst
  rw [run_bind, run_bind]
  revert hfirst
  rcases a.run.run s with ⟨answer, s'⟩
  rcases b.run.run t with ⟨answer', t'⟩
  rintro ⟨rfl, hst'⟩
  -- the answers agree, so that both computations end here or both go on
  cases answer with
  | error e => exact ⟨rfl, hst'⟩
  | ok x => exact hfg x s' t' hst'

lemma ite {p : Prop} [Decidable p] {a a' : ExceptT ε (StateM σ) α}
    {b b' : ExceptT ε (StateM τ) α} (h : InStep R a b) (h' : InStep R a' b') :
    InStep R (if p then a else a') (if p then b else b') := by
  split
  · exact h
  · exact h'

lemma forM {l : List α} {f : α → ExceptT ε (StateM σ) PUnit} {g : α → ExceptT ε (StateM τ) PUnit}
    (h : ∀ a ∈ l, InStep R (f a) (g a)) : InStep R (l.forM f) (l.forM g) := by
  induction l with
  | nil => exact .pure _
  | cons a l ih =>
    exact bind (h a List.mem_cons_self) fun _ => ih fun b hb => h b (List.mem_cons_of_mem _ hb)

lemma foldlM {l : List α} {f : β → α → ExceptT ε (StateM σ) β}
    {g : β → α → ExceptT ε (StateM τ) β} (h : ∀ b, ∀ a ∈ l, InStep R (f b a) (g b a)) (b : β) :
    InStep R (l.foldlM f b) (l.foldlM g b) := by
  induction l generalizing b with
  | nil => exact .pure _
  | cons a l ih =>
    rw [List.foldlM_cons, List.foldlM_cons]
    exact bind (h b a List.mem_cons_self) fun c =>
      ih (fun b a' ha' => h b a' (List.mem_cons_of_mem _ ha')) c

end InStep

/-! ### Operations on the world -/

namespace World.Action

variable {R : World → World → Prop}

lemma inStep_require (r : Except Refusal α) : InStep R (require r) (require r) := by
  cases r with
  | ok a => exact .pure a
  | error cause => exact .throw _

lemma inStep_checked (r : Except Overflow α) : InStep R (checked r) (checked r) := by
  cases r with
  | ok a => exact .pure a
  | error cause => exact .throw _

lemma inStep_ofExcept (r : Except Failure α) : InStep R (ofExcept r) (ofExcept r) := by
  cases r with
  | ok a => exact .pure a
  | error failure => exact .throw _

lemma inStep_orElse {a b : Action α} {f g : Refusal → Action α} (hab : InStep R a b)
    (hfg : ∀ cause, InStep R (f cause) (g cause)) : InStep R (a.orElse f) (b.orElse g) := by
  intro w w' hw
  have hfirst := hab w w' hw
  show ((a.orElse f).on w).1 = ((b.orElse g).on w').1 ∧
    R ((a.orElse f).on w).2 ((b.orElse g).on w').2
  rw [on_orElse, on_orElse]
  change (a.on w).1 = (b.on w').1 ∧ R (a.on w).2 (b.on w').2 at hfirst
  revert hfirst
  rcases a.on w with ⟨answer, w₁⟩
  rcases b.on w' with ⟨answer', w₁'⟩
  rintro ⟨rfl, hw₁⟩
  rcases answer with (cause | cause) | x
  · exact hfg cause w₁ w₁' hw₁
  · exact ⟨rfl, hw₁⟩
  · exact ⟨rfl, hw₁⟩

end World.Action

end Lockstep
