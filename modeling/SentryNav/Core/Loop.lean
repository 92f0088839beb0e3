import Mathlib.Data.Nat.Notation
import Mathlib.Logic.Function.Iterate
import Mathlib.Tactic.TypeStar
import Mathlib.Tactic.Lemma

/-!
# Loops with an early exit

A `while` loop of an imperative program is a body that, from a state, either asks for another
pass or leaves with a result.  `loop` runs such a body on fuel, so that it is computable and
total, and the two facts a verification needs are separate: that the fuel suffices, and what the
result is.  `loop_total` delivers both from one invariant and one measure.
-/

namespace Loop

variable {σ ρ : Type*}

/-- What one pass through a loop body ends in. -/
inductive Pass (σ ρ : Type*)
  /-- Go round again from this state. -/
  | again (s : σ)
  /-- Leave the loop with this result. -/
  | leave (r : ρ)

/-- Run a loop body until it leaves, for at most `fuel` passes.  `none` means that the fuel ran
out, never that the loop left. -/
def loop (body : σ → Pass σ ρ) : ℕ → σ → Option ρ
  | 0, _ => none
  | fuel + 1, s =>
      match body s with
      | .again s' => loop body fuel s'
      | .leave r => some r

variable {body : σ → Pass σ ρ} {s s' : σ} {r : ρ}

lemma loop_again (h : body s = .again s') (fuel : ℕ) :
    loop body (fuel + 1) s = loop body fuel s' := by
  rw [loop, h]

lemma loop_leave (h : body s = .leave r) (fuel : ℕ) : loop body (fuel + 1) s = some r := by
  rw [loop, h]

/-- What a pass owes to an invariant, a measure and a postcondition: going round again keeps the
invariant and lowers the measure, leaving establishes the postcondition. -/
def Pass.Meets (Inv : σ → Prop) (Post : ρ → Prop) (measure : σ → ℕ) (s : σ) : Pass σ ρ → Prop
  | .again s' => Inv s' ∧ measure s' < measure s
  | .leave r => Post r

/-- **Total correctness of a loop.**  If every pass from a state of the invariant meets its
obligation, then fuel above the measure is enough for the loop to leave, and it leaves with the
postcondition. -/
theorem loop_total (Inv : σ → Prop) (Post : ρ → Prop) (measure : σ → ℕ)
    (hpass : ∀ s, Inv s → (body s).Meets Inv Post measure s) :
    ∀ (fuel : ℕ) (s : σ), Inv s → measure s < fuel → ∃ r, loop body fuel s = some r ∧ Post r := by
  intro fuel
  induction fuel with
  | zero => intro s _ hlt; exact absurd hlt (Nat.not_lt_zero _)
  | succ fuel ih =>
      intro s hs hlt
      have hmeets := hpass s hs
      cases hb : body s with
      | again s' =>
          rw [hb] at hmeets
          rw [loop_again hb]
          exact ih s' hmeets.1 (by have := hmeets.2; omega)
      | leave r =>
          rw [hb] at hmeets
          exact ⟨r, loop_leave hb fuel, hmeets⟩

/-- The same pass, seen from other states and results. -/
def Pass.map {τ π : Type*} (f : σ → τ) (g : ρ → π) : Pass σ ρ → Pass τ π
  | .again s => .again (f s)
  | .leave r => .leave (g r)

/-- **A loop that does what another does**, from states that stand for those of the other. -/
theorem loop_map {τ π : Type*} {body' : τ → Pass τ π} (f : σ → τ) (g : ρ → π)
    (hbody : ∀ s, body' (f s) = (body s).map f g) :
    ∀ (fuel : ℕ) (s : σ), loop body' fuel (f s) = (loop body fuel s).map g := by
  intro fuel
  induction fuel with
  | zero => intro s; rfl
  | succ fuel ih =>
      intro s
      rw [loop, loop, hbody]
      cases body s with
      | again s' => exact ih s'
      | leave r => rfl

/-! ## Plain while loops -/

/-- The body of a `while` loop whose condition is tested first. -/
def whileBody (cond : σ → Prop) [DecidablePred cond] (step : σ → σ) (s : σ) : Pass σ σ :=
  if cond s then .again (step s) else .leave s

/-- **A `while` loop that makes progress ends**, after as many steps as the condition held. -/
theorem while_total {cond : σ → Prop} [DecidablePred cond] {step : σ → σ} (measure : σ → ℕ)
    (hprogress : ∀ s, cond s → measure (step s) < measure s) :
    ∀ (fuel : ℕ) (s : σ), measure s < fuel → ∃ n,
      loop (whileBody cond step) fuel s = some (step^[n] s) ∧ ¬ cond (step^[n] s) ∧
        ∀ k < n, cond (step^[k] s) := by
  intro fuel
  induction fuel with
  | zero => intro s hlt; exact absurd hlt (Nat.not_lt_zero _)
  | succ fuel ih =>
      intro s hlt
      by_cases hcond : cond s
      · have hagain : whileBody cond step s = .again (step s) := if_pos hcond
        have hless := hprogress s hcond
        obtain ⟨n, hloop, hend, hheld⟩ := ih (step s) (by omega)
        refine ⟨n + 1, ?_, hend, ?_⟩
        · rw [loop_again hagain, hloop, Function.iterate_succ_apply]
        · rintro (_ | k) hk
          · exact hcond
          · exact hheld k (by omega)
      · have hleave : whileBody cond step s = .leave s := if_neg hcond
        exact ⟨0, loop_leave hleave fuel, hcond, by simp⟩

end Loop
