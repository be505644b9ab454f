import Mathlib.Order.Defs.Unbundled
import Mathlib.Tactic.SplitIfs

/-!
# Computations that may throw

A computation reads and changes a state and may throw; what it has changed before it
throws stays changed.  `runCatching`, `try` and a match on a `Result` turn it into a total
function.

`Within R x` says that `x` changes the state only by `R`, whether it throws or not.  For a
preorder `R` this follows from the parts of `x`; it is how "everything else is unchanged"
is proved of a block of calls.  What a computation returns is taken apart with
`bind_eq_ok_iff`.
-/

namespace Soundwave

section Throwing

variable {ε σ α β : Type}

/-- A computation that may throw an `ε`. -/
def Throwing (ε σ α : Type) : Type := σ → Except ε α × σ

namespace Throwing

/-- No exception and no change. -/
protected def pure (a : α) : Throwing ε σ α := fun s => (.ok a, s)

/-- Sequencing; an exception skips the rest. -/
protected def bind (x : Throwing ε σ α) (f : α → Throwing ε σ β) : Throwing ε σ β := fun s =>
  match x s with
  | (.ok a, s') => f a s'
  | (.error e, s') => (.error e, s')

instance : Monad (Throwing ε σ) where
  pure := Throwing.pure
  bind := Throwing.bind

/-- Reads from the state. -/
def gets (f : σ → α) : Throwing ε σ α := fun s => (.ok (f s), s)

/-- Changes the state. -/
def modify (f : σ → σ) : Throwing ε σ Unit := fun s => (.ok (), f s)

/-- A total function as a part of a computation. -/
def lift (f : σ → α × σ) : Throwing ε σ α := fun s => (.ok (f s).1, (f s).2)

/-- The same computation with other exceptions. -/
def adapt {ε' : Type} (f : ε → ε') (x : Throwing ε σ α) : Throwing ε' σ α := fun s =>
  ((x s).1.mapError f, (x s).2)

/-- Throws. -/
def throw (e : ε) : Throwing ε σ α := fun s => (.error e, s)

theorem pure_apply (a : α) (s : σ) : (pure a : Throwing ε σ α) s = (.ok a, s) := rfl

theorem bind_apply (x : Throwing ε σ α) (f : α → Throwing ε σ β) (s : σ) :
    (x >>= f) s =
      match x s with
      | (.ok a, s') => f a s'
      | (.error e, s') => (.error e, s') := rfl

theorem bind_of_ok {x : Throwing ε σ α} {s t : σ} {a : α} (h : x s = (.ok a, t))
    (f : α → Throwing ε σ β) : (x >>= f) s = f a t := by
  rw [bind_apply, h]

theorem bind_of_error {x : Throwing ε σ α} {s t : σ} {e : ε} (h : x s = (.error e, t))
    (f : α → Throwing ε σ β) : (x >>= f) s = (.error e, t) := by
  rw [bind_apply, h]

/-- A sequence returns if its parts do, one after the other. -/
theorem bind_eq_ok_iff {x : Throwing ε σ α} {f : α → Throwing ε σ β} {s t : σ} {b : β} :
    (x >>= f) s = (.ok b, t) ↔ ∃ a u, x s = (.ok a, u) ∧ f a u = (.ok b, t) := by
  rw [bind_apply]
  rcases x s with ⟨result, u⟩
  cases result with
  | ok a =>
      constructor
      · intro h
        exact ⟨a, u, rfl, h⟩
      · rintro ⟨a', u', heq, h⟩
        cases heq
        exact h
  | error e =>
      constructor
      · intro h
        cases h
      · rintro ⟨a', u', heq, h⟩
        cases heq

theorem adapt_of_error {ε' : Type} {f : ε → ε'} {x : Throwing ε σ α} {s t : σ} {e : ε}
    (h : x s = (.error e, t)) : x.adapt f s = (.error (f e), t) := by
  rw [adapt, h]
  rfl

theorem adapt_eq_ok_iff {ε' : Type} {f : ε → ε'} {x : Throwing ε σ α} {s t : σ} {a : α} :
    x.adapt f s = (.ok a, t) ↔ x s = (.ok a, t) := by
  rw [adapt]
  rcases x s with ⟨result, u⟩
  cases result with
  | ok b =>
      constructor
      · intro h
        cases h
        rfl
      · intro h
        cases h
        rfl
  | error e =>
      constructor
      · intro h
        cases h
      · intro h
        cases h

end Throwing

/-- The computation changes the state only by the relation. -/
def Within (R : σ → σ → Prop) (x : Throwing ε σ α) : Prop :=
  ∀ s, R s (x s).2

variable {R : σ → σ → Prop} [IsPreorder σ R]

theorem within_pure (a : α) : Within R (pure a : Throwing ε σ α) :=
  fun s => refl_of R s

theorem within_gets (f : σ → α) : Within R (Throwing.gets f : Throwing ε σ α) :=
  fun s => refl_of R s

theorem within_throw (e : ε) : Within R (Throwing.throw e : Throwing ε σ α) :=
  fun s => refl_of R s

omit [IsPreorder σ R] in
theorem within_adapt {ε' : Type} {f : ε → ε'} {x : Throwing ε σ α} (hx : Within R x) :
    Within R (x.adapt f) :=
  hx

omit [IsPreorder σ R] in
theorem within_modify {f : σ → σ} (h : ∀ s, R s (f s)) :
    Within R (Throwing.modify f : Throwing ε σ Unit) :=
  h

/-- What follows in a sequence happens after its first part. -/
theorem after_bind {x : Throwing ε σ α} {f : α → Throwing ε σ β}
    (hf : ∀ a, Within R (f a)) (s : σ) : R (x s).2 ((x >>= f) s).2 := by
  rw [Throwing.bind_apply]
  rcases x s with ⟨result, s'⟩
  cases result with
  | ok a => exact hf a s'
  | error e => exact refl_of R s'

theorem within_bind {x : Throwing ε σ α} {f : α → Throwing ε σ β} (hx : Within R x)
    (hf : ∀ a, Within R (f a)) : Within R (x >>= f) :=
  fun s => trans_of R (hx s) (after_bind hf s)

omit [IsPreorder σ R] in
theorem within_ite {c : Prop} [Decidable c] {x y : Throwing ε σ α} (hx : Within R x)
    (hy : Within R y) : Within R (if c then x else y) := by
  split_ifs
  · exact hx
  · exact hy

end Throwing

end Soundwave
