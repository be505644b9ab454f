import Mathlib.Logic.Basic
import Mathlib.Data.List.Basic

/-!
# Runs of a deterministic step function

A system is a step function on states and events; nondeterminism (which
thread moves, what the environment sends) is carried by the events.  A run is
a finite list of events.

`Along step ok s es` says that every event of `es` meets the side condition
`ok` in the state in which it happens, when the run starts in `s`.  The two
rules below are the only inductions over runs that invariants need: what every
admissible step keeps holds after every admissible run, and what every step
keeps holds after every run.  A state may carry a log to which its steps add at
the end; the last lemma takes such a log apart at one of its entries.
-/

namespace Soundwave

universe u v

section TransitionRuns

variable {σ : Type u} {ε : Type v}

/-- The state after a list of events. -/
def run (step : σ → ε → σ) (s : σ) (es : List ε) : σ :=
  es.foldl step s

/-- Every event of the run meets `ok` in the state it happens in. -/
def Along (step : σ → ε → σ) (ok : σ → ε → Prop) : σ → List ε → Prop
  | _, [] => True
  | s, e :: es => ok s e ∧ Along step ok (step s e) es

instance Along.decidable
    (step : σ → ε → σ) (ok : σ → ε → Prop) [∀ s e, Decidable (ok s e)] :
    ∀ (s : σ) (es : List ε), Decidable (Along step ok s es)
  | _, [] => isTrue trivial
  | s, e :: es =>
      have := Along.decidable step ok (step s e) es
      inferInstanceAs (Decidable (ok s e ∧ Along step ok (step s e) es))

@[simp] theorem run_nil (step : σ → ε → σ) (s : σ) :
    run step s [] = s := rfl

@[simp] theorem run_cons (step : σ → ε → σ) (s : σ) (e : ε) (es : List ε) :
    run step s (e :: es) = run step (step s e) es := rfl

theorem run_append (step : σ → ε → σ) (s : σ) (es fs : List ε) :
    run step s (es ++ fs) = run step (run step s es) fs := by
  simp [run]

theorem run_concat (step : σ → ε → σ) (s : σ) (es : List ε) (e : ε) :
    run step s (es ++ [e]) = step (run step s es) e := by
  simp [run_append]

theorem along_append
    (step : σ → ε → σ) (ok : σ → ε → Prop) (s : σ) (es fs : List ε) :
    Along step ok s (es ++ fs) ↔
      Along step ok s es ∧ Along step ok (run step s es) fs := by
  induction es generalizing s with
  | nil =>
      simp [Along]
  | cons e es ih =>
      simp [Along, ih, and_assoc]

theorem along_of_forall
    {step : σ → ε → σ} {ok : ε → Prop} {s : σ} {es : List ε} (h : ∀ e ∈ es, ok e) :
    Along step (fun _ e => ok e) s es := by
  induction es generalizing s with
  | nil =>
      trivial
  | cons e es ih =>
      exact ⟨h e List.mem_cons_self, ih (fun e he => h e (List.mem_cons_of_mem _ he))⟩

/-- **Invariant rule.**  What every admissible step keeps, every run keeps. -/
theorem run_invariant
    {step : σ → ε → σ} {ok : σ → ε → Prop} (Inv : σ → Prop)
    (hstep : ∀ s e, Inv s → ok s e → Inv (step s e))
    {s : σ} {es : List ε}
    (hs : Inv s) (hes : Along step ok s es) :
    Inv (run step s es) := by
  induction es generalizing s with
  | nil =>
      exact hs
  | cons e es ih =>
      exact ih (hstep s e hs hes.1) hes.2

/-- **Invariant rule** for runs without side conditions. -/
theorem run_preserves
    {step : σ → ε → σ} (Inv : σ → Prop)
    (hstep : ∀ s e, Inv s → Inv (step s e))
    {s : σ} (hs : Inv s) (es : List ε) :
    Inv (run step s es) := by
  induction es generalizing s with
  | nil =>
      exact hs
  | cons e es ih =>
      exact ih (hstep s e hs)

/-- Where an element stands in a log that grows at its end. -/
theorem concat_eq_append_cons {log before after : List ε} {e e' : ε}
    (h : log ++ [e] = before ++ e' :: after) :
    (after = [] ∧ log = before ∧ e = e') ∨
      ∃ earlier, after = earlier ++ [e] ∧ log = before ++ e' :: earlier := by
  rcases List.eq_nil_or_concat after with rfl | ⟨earlier, last, rfl⟩
  · obtain ⟨hbefore, hlast⟩ := List.append_inj' h rfl
    exact Or.inl ⟨rfl, hbefore, List.singleton_inj.mp hlast⟩
  · rw [List.concat_eq_append, ← List.cons_append, ← List.append_assoc] at h
    obtain ⟨hearlier, hlast⟩ := List.append_inj' h rfl
    refine Or.inr ⟨earlier, ?_, hearlier⟩
    rw [List.concat_eq_append, List.singleton_inj.mp hlast]

end TransitionRuns

end Soundwave
