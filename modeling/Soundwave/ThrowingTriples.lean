import Soundwave.Throwing

/-!
# Triples for computations that may throw

`Triple P x Q E` says of a computation that, from a state with `P`, it returns with `Q` or
throws with `E`.  What it has changed before it throws stays changed, so `E` is about the
state that is left.

A computation with a triple is a sequence of parts with triples; a part that changes the
state only by a relation keeps whatever the relation keeps.
-/

namespace Soundwave

section Triples

variable {ε σ α β : Type} {P P' : σ → Prop} {Q Q' : α → σ → Prop} {E E' : σ → Prop}

/-- From a state with `P`, the computation returns with `Q` or throws with `E`. -/
def Triple (P : σ → Prop) (x : Throwing ε σ α) (Q : α → σ → Prop) (E : σ → Prop) : Prop :=
  ∀ s, P s → (∀ a t, x s = (.ok a, t) → Q a t) ∧ ∀ e t, x s = (.error e, t) → E t

namespace Triple

variable {x : Throwing ε σ α}

theorem consequence (h : Triple P x Q E) (hp : ∀ s, P' s → P s) (hq : ∀ a s, Q a s → Q' a s)
    (he : ∀ s, E s → E' s) : Triple P' x Q' E' := by
  intro s hs
  obtain ⟨hreturns, hthrows⟩ := h s (hp s hs)
  exact ⟨fun a t heq => hq a t (hreturns a t heq), fun e t heq => he t (hthrows e t heq)⟩

/-- A stronger precondition. -/
theorem pre (h : Triple P x Q E) (hp : ∀ s, P' s → P s) : Triple P' x Q E :=
  h.consequence hp (fun _ _ => id) fun _ => id

/-- A fact that does not depend on the state. -/
theorem assume {C : Prop} (h : C → Triple P x Q E) : Triple (fun s => P s ∧ C) x Q E :=
  fun s hs => h hs.2 s hs.1

theorem pure (a : α) (h : ∀ s, P s → Q a s) :
    Triple P (Pure.pure a : Throwing ε σ α) Q E := by
  intro s hs
  constructor
  · intro b t heq
    cases heq
    exact h s hs
  · intro e t heq
    cases heq

theorem modify {f : σ → σ} {Q : Unit → σ → Prop} (h : ∀ s, P s → Q () (f s)) :
    Triple P (Throwing.modify f : Throwing ε σ Unit) Q E := by
  intro s hs
  constructor
  · intro u t heq
    cases heq
    exact h s hs
  · intro e t heq
    cases heq

theorem throw (e : ε) : Triple E (Throwing.throw e : Throwing ε σ α) Q E := by
  intro s hs
  constructor
  · intro a t heq
    cases heq
  · intro e' t heq
    cases heq
    exact hs

theorem bind {R : β → σ → Prop} {f : α → Throwing ε σ β} (hx : Triple P x Q E)
    (hf : ∀ a, Triple (Q a) (f a) R E) : Triple P (x >>= f) R E := by
  intro s hs
  obtain ⟨hreturns, hthrows⟩ := hx s hs
  rw [Throwing.bind_apply]
  rcases hresult : x s with ⟨outcome, t⟩
  cases outcome with
  | ok a => exact hf a t (hreturns a t hresult)
  | error e =>
      constructor
      · intro b u heq
        cases heq
      · intro e' u heq
        cases heq
        exact hthrows e t hresult

theorem ite {c : Prop} [Decidable c] {y : Throwing ε σ α} (hx : Triple P x Q E)
    (hy : Triple P y Q E) : Triple P (if c then x else y) Q E := by
  split_ifs
  · exact hx
  · exact hy

theorem adapt {ε' : Type} {f : ε → ε'} (h : Triple P x Q E) : Triple P (x.adapt f) Q E := by
  intro s hs
  obtain ⟨hreturns, hthrows⟩ := h s hs
  constructor
  · intro a t heq
    exact hreturns a t (Throwing.adapt_eq_ok_iff.mp heq)
  · intro e t heq
    rcases hresult : x s with ⟨outcome, u⟩
    rw [Throwing.adapt, hresult] at heq
    cases outcome with
    | ok a => cases heq
    | error e' =>
        cases heq
        exact hthrows e' _ hresult

/-- A part of which it does not matter how it ends. -/
theorem of_state (h : ∀ s, P s → E (x s).2) : Triple P x (fun _ => E) E := by
  intro s hs
  have hkept := h s hs
  constructor
  · intro a t heq
    rw [heq] at hkept
    exact hkept
  · intro e t heq
    rw [heq] at hkept
    exact hkept

/-- A part that changes the state only by a relation that keeps the precondition. -/
theorem of_within {R : σ → σ → Prop} (hx : Within R x) (hp : ∀ s t, R s t → P s → P t) :
    Triple P x (fun _ => P) P :=
  of_state fun s hs => hp s (x s).2 (hx s) hs

/-- What a computation returns is looked at later. -/
theorem lift (h : Triple P x Q E) :
    Triple P (Throwing.lift x : Throwing ε σ (Except ε α))
      (fun outcome s => (∀ a, outcome = .ok a → Q a s) ∧ ∀ e, outcome = .error e → E s) E' := by
  intro s hs
  obtain ⟨hreturns, hthrows⟩ := h s hs
  constructor
  · intro outcome t heq
    cases heq
    exact ⟨fun a heq => hreturns a _ (Prod.ext heq rfl),
      fun e heq => hthrows e _ (Prod.ext heq rfl)⟩
  · intro e t heq
    cases heq

/-- What holds however the computation ends. -/
theorem last {G : σ → Prop} (h : Triple P x Q E) (hq : ∀ a s, Q a s → G s)
    (he : ∀ s, E s → G s) {s : σ} (hs : P s) : G (x s).2 := by
  obtain ⟨hreturns, hthrows⟩ := h s hs
  rcases hresult : x s with ⟨outcome, t⟩
  cases outcome with
  | ok a => exact hq a t (hreturns a t hresult)
  | error e => exact he t (hthrows e t hresult)

end Triple

end Triples

end Soundwave
