import Mathlib.Analysis.InnerProductSpace.Basic
import Mathlib.LinearAlgebra.AffineSpace.AffineMap

/-!
# Where a segment leaves a ball

A segment that begins inside a ball around the origin and ends outside, or on the sphere, crosses
the sphere once on the way.  Where it does is the larger solution of a quadratic equation; this is
the parameter `exitTime` in closed form, in any real inner product space.

* `inner_sq_lt_radicand`: the square root is that of a positive number.
* `exitTime_pos`, `exitTime_le_one`: the point is on the segment, and not its first.
* `norm_exitPoint`: it is on the sphere.
-/

namespace BallExit

open scoped RealInnerProductSpace

variable {E : Type*} [NormedAddCommGroup E] [InnerProductSpace ℝ E]

/-- A quarter of the discriminant. -/
noncomputable def radicand (p q : E) (r : ℝ) : ℝ :=
  ⟪p, q - p⟫ ^ 2 + (r ^ 2 - ‖p‖ ^ 2) * ‖q - p‖ ^ 2

/-- The parameter at which the line from `p` to `q` leaves the ball with radius `r`. -/
noncomputable def exitTime (p q : E) (r : ℝ) : ℝ :=
  (√(radicand p q r) - ⟪p, q - p⟫) / ‖q - p‖ ^ 2

/-- The point where it does. -/
noncomputable def exitPoint (p q : E) (r : ℝ) : E := p + exitTime p q r • (q - p)

variable {p q : E} {r : ℝ}

lemma norm_sq_end (p q : E) : ‖q‖ ^ 2 = ‖p‖ ^ 2 + 2 * ⟪p, q - p⟫ + ‖q - p‖ ^ 2 := by
  rw [← norm_add_sq_real, add_sub_cancel]

section Crossing

variable (hp : ‖p‖ < r) (hq : r ≤ ‖q‖)
include hp hq

omit [InnerProductSpace ℝ E] in
lemma norm_sq_direction_pos : 0 < ‖q - p‖ ^ 2 := by
  have hne : q - p ≠ 0 := by
    rw [sub_ne_zero]
    rintro rfl
    exact absurd hp (not_lt.mpr hq)
  positivity

/-- The segment begins inside. -/
lemma inner_sq_lt_radicand : ⟪p, q - p⟫ ^ 2 < radicand p q r := by
  have hin : ‖p‖ ^ 2 < r ^ 2 := by gcongr
  rw [radicand, lt_add_iff_pos_right]
  exact mul_pos (sub_pos.mpr hin) (norm_sq_direction_pos hp hq)

/-- It ends outside, or on the sphere. -/
lemma radicand_le : radicand p q r ≤ (⟪p, q - p⟫ + ‖q - p‖ ^ 2) ^ 2 := by
  have hout : r ^ 2 ≤ ‖q‖ ^ 2 := by
    have hr : 0 ≤ r := (norm_nonneg p).trans hp.le
    gcongr
  have hscaled := mul_le_mul_of_nonneg_right hout (sq_nonneg ‖q - p‖)
  rw [norm_sq_end p q] at hscaled
  rw [radicand]
  linarith

lemma exitTime_pos : 0 < exitTime p q r := by
  have hroot : ⟪p, q - p⟫ < √(radicand p q r) :=
    Real.lt_sqrt_of_sq_lt (inner_sq_lt_radicand hp hq)
  exact div_pos (sub_pos.mpr hroot) (norm_sq_direction_pos hp hq)

lemma exitTime_le_one : exitTime p q r ≤ 1 := by
  have hend := norm_sq_end p q
  have hgrow : ‖p‖ ^ 2 < ‖q‖ ^ 2 := by
    have hlt := hp.trans_le hq
    gcongr
  have hdirection := norm_sq_direction_pos hp hq
  have hroot : √(radicand p q r) ≤ ⟪p, q - p⟫ + ‖q - p‖ ^ 2 :=
    Real.sqrt_le_iff.mpr ⟨by linarith, radicand_le hp hq⟩
  rw [exitTime, div_le_one hdirection]
  linarith

/-- **The segment leaves the ball where it crosses the sphere.** -/
theorem norm_exitPoint : ‖exitPoint p q r‖ = r := by
  have hdirection := norm_sq_direction_pos hp hq
  have hroot : √(radicand p q r) ^ 2 = radicand p q r :=
    Real.sq_sqrt ((sq_nonneg _).trans (inner_sq_lt_radicand hp hq).le)
  have htime : exitTime p q r * ‖q - p‖ ^ 2 = √(radicand p q r) - ⟪p, q - p⟫ :=
    div_mul_cancel₀ _ hdirection.ne'
  have hsquare : ‖exitPoint p q r‖ ^ 2 = r ^ 2 := by
    rw [exitPoint, norm_add_sq_real, real_inner_smul_right, norm_smul, mul_pow, Real.norm_eq_abs,
      sq_abs]
    have hroot' : (exitTime p q r * ‖q - p‖ ^ 2 + ⟪p, q - p⟫) ^ 2 = radicand p q r := by
      rw [htime, sub_add_cancel, hroot]
    rw [radicand] at hroot'
    refine mul_right_cancel₀ hdirection.ne' ?_
    linear_combination hroot'
  have hr : 0 ≤ r := (norm_nonneg p).trans hp.le
  exact (sq_eq_sq₀ (norm_nonneg _) hr).mp hsquare

end Crossing

end BallExit
