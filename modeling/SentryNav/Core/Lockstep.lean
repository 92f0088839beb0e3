import Mathlib.Data.List.Basic
import Mathlib.Tactic.Common

/-!
# Two runs in step

A statement about two runs on the same events (that a part of the state has no influence, that two
machines cannot be told apart) is proved by a relation between the two states, kept by every step
that both make.

* `answers` is what a run sends out, event by event.
* `Together` says that every pair of steps of two runs meets a condition on the states before it.
* `answers_eq` is the rule.
-/

namespace Lockstep

variable {σ τ ε ω : Type*}

/-- What a run sends out, event by event. -/
def answers (step : σ → ε → σ × List ω) : σ → List ε → List (List ω)
  | _, [] => []
  | s, e :: events => (step s e).2 :: answers step (step s e).1 events

/-- Every pair of steps of two runs on the same events meets a condition on the states and the
event. -/
def Together (step₁ : σ → ε → σ × List ω) (step₂ : τ → ε → τ × List ω)
    (Guard : σ → τ → ε → Prop) : σ → τ → List ε → Prop
  | _, _, [] => True
  | s, t, e :: events =>
      Guard s t e ∧ Together step₁ step₂ Guard (step₁ s e).1 (step₂ t e).1 events

variable {step₁ : σ → ε → σ × List ω} {step₂ : τ → ε → τ × List ω} {Guard : σ → τ → ε → Prop}

lemma together_of_forall (h : ∀ s t e, Guard s t e) (s : σ) (t : τ) (events : List ε) :
    Together step₁ step₂ Guard s t events := by
  induction events generalizing s t with
  | nil => trivial
  | cons e events ih => exact ⟨h s t e, ih _ _⟩

/-- **Two runs in step send out the same.**  If related states answer every event that meets the
condition alike and are related afterwards, then runs from related states give the same answers. -/
theorem answers_eq (R : σ → τ → Prop)
    (hstep : ∀ s t e, R s t → Guard s t e →
      (step₁ s e).2 = (step₂ t e).2 ∧ R (step₁ s e).1 (step₂ t e).1) :
    ∀ (events : List ε) (s : σ) (t : τ), R s t → Together step₁ step₂ Guard s t events →
      answers step₁ s events = answers step₂ t events := by
  intro events
  induction events with
  | nil => intros; rfl
  | cons e events ih =>
      rintro s t hrelated ⟨hguard, hrest⟩
      obtain ⟨hanswer, hnext⟩ := hstep s t e hrelated hguard
      rw [answers, answers, hanswer, ih _ _ hnext hrest]

end Lockstep
