import SentryNav.PursuitController.FreshStart
import SentryNav.PursuitController.SpeedEnvelope
import Mathlib.Data.List.Forall2

/-!
# Tighter curves are driven slower

The limitation for curvature carries the speed it has allowed over to the next cycle.  So a cycle
on a tighter curve has an influence on all later ones, and what it means that the curvature slows
the robot down is a statement about two runs: on the same speeds from `move_pid_`, the run that sees
the larger curvature in every cycle is the slower one in every cycle (`speeds_antitone`).

The step lemma, `applyCurvatureLimitation_antitone`, is that the limitation is monotone in the speed
that it remembers and antitone in the curvature.
-/

namespace SentryNav.PursuitController

open Limiter

variable {K : Type*} [Field K] [LinearOrder K]

/-! ## Runs of the limitation -/

/-- The arguments of `applyCurvatureLimitation`. -/
structure LimitationCall (K : Type*) where
  path : Path K
  lookaheadPose : PoseStamped K
  linearVel : K

/-- The curvature that a call sees. -/
def LimitationCall.curvature (m : Libm K) (nav2 : Nav2 K) (p : Params K) (x : LimitationCall K) :
    K :=
  calculateCurvature m nav2 x.path x.lookaheadPose p.curvatureForwardDist p.curvatureBackwardDist

/-- The speeds that the calls of a run result in, from a last speed on. -/
def speeds (m : Libm K) (nav2 : Nav2 K) (p : Params K) : K → List (LimitationCall K) → List K
  | _, [] => []
  | last, x :: calls =>
      let speed := applyCurvatureLimitation p last (x.curvature m nav2 p) x.linearVel
      speed :: speeds m nav2 p speed calls

/-! ## Two runs -/

/-- A call on the same speed that sees a curvature at least as large. -/
def Tighter (m : Libm K) (nav2 : Nav2 K) (p : Params K) (x y : LimitationCall K) : Prop :=
  x.linearVel = y.linearVel ∧ x.curvature m nav2 p ≤ y.curvature m nav2 p

variable [IsStrictOrderedRing K] {p : Params K}

/-- The larger the curvature, the stronger the reduction. -/
lemma reductionRatio_antitone (hratio : p.reductionRatioAtHighCurvature ≤ 1) {c c' : K}
    (hc : p.curvatureMin < c) (hcc' : c ≤ c') : reductionRatio p c' ≤ reductionRatio p c := by
  have hlow : 0 ≤ 1 - p.reductionRatioAtHighCurvature := sub_nonneg.mpr hratio
  rw [reductionRatio, reductionRatio]
  by_cases hhigh : p.curvatureMax < c
  · rw [if_pos hhigh, if_pos (hhigh.trans_le hcc')]
  · rw [if_neg hhigh]
    have hspan : 0 < p.curvatureMax - p.curvatureMin :=
      sub_pos.mpr (hc.trans_le (not_lt.mp hhigh))
    by_cases hhigh' : p.curvatureMax < c'
    · have hpart : (c - p.curvatureMin) / (p.curvatureMax - p.curvatureMin) ≤ 1 :=
        (div_le_one hspan).mpr (sub_le_sub_right (not_lt.mp hhigh) _)
      rw [if_pos hhigh']
      linarith [mul_le_of_le_one_left hlow hpart]
    · have hpart : (c - p.curvatureMin) / (p.curvatureMax - p.curvatureMin)
          ≤ (c' - p.curvatureMin) / (p.curvatureMax - p.curvatureMin) :=
        div_le_div_of_nonneg_right (sub_le_sub_right hcc' _) hspan.le
      rw [if_neg hhigh']
      linarith [mul_le_mul_of_nonneg_right hpart hlow]

/-- **A call on a tighter curve**, by a limitation that remembers a lower speed, results in a lower
speed. -/
lemma applyCurvatureLimitation_antitone (hratio : p.reductionRatioAtHighCurvature ≤ 1)
    (hfloor : 0 ≤ p.minApproachLinearVelocity) (hrate : 0 ≤ p.slewRate) {last last' c c' : K}
    (hlast : last' ≤ last) (hcc' : c ≤ c') (linearVel : K) :
    applyCurvatureLimitation p last' c' linearVel
      ≤ applyCurvatureLimitation p last c linearVel := by
  rw [applyCurvatureLimitation_eq, applyCurvatureLimitation_eq]
  by_cases hc : p.curvatureMin < c
  · rcases le_total 0 linearVel with hforward | hbackward
    · have htarget : linearVel * reductionRatio p c' ≤ linearVel * reductionRatio p c :=
        mul_le_mul_of_nonneg_left (reductionRatio_antitone hratio hc hcc') hforward
      refine cap_mono_limit _ _ ?_
      rw [curvatureLimit, curvatureLimit, if_pos hc, if_pos (hc.trans_le hcc')]
      exact slew_mono hrate hlast htarget
    · -- the robot drives backwards, and the floor lets it
      have hbelow : linearVel ≤ 2 * p.minApproachLinearVelocity := by linarith
      rw [cap_of_le _ hbelow, cap_of_le _ hbelow]
  · have hfree : curvatureLimit p last c linearVel = linearVel := if_neg hc
    rw [hfree, cap_of_le_limit _ le_rfl]
    exact cap_le_demand _ _ _

/-- **Tighter curves are driven slower**, over whole runs and in exact arithmetic: of two runs of
the limitation from the same last speed on the same speeds, that which sees a curvature at least as
large in every cycle results in a speed at most as large in every cycle. -/
theorem speeds_antitone (m : Libm K) (nav2 : Nav2 K) (p : Params K)
    (hratio : p.reductionRatioAtHighCurvature ≤ 1) (hfloor : 0 ≤ p.minApproachLinearVelocity)
    (hrate : 0 ≤ p.maxVelocityScalingFactorRate * p.controlDuration) (last : K)
    {first second : List (LimitationCall K)} (h : List.Forall₂ (Tighter m nav2 p) first second) :
    List.Forall₂ (· ≥ ·) (speeds m nav2 p last first) (speeds m nav2 p last second) := by
  have hruns : ∀ last last' : K, last' ≤ last →
      List.Forall₂ (· ≥ ·) (speeds m nav2 p last first) (speeds m nav2 p last' second) := by
    induction h with
    | nil => exact fun _ _ _ => .nil
    | cons hcall _ ih =>
        obtain ⟨hspeed, hcurvature⟩ := hcall
        intro last last' hlast
        have hnext := applyCurvatureLimitation_antitone hratio hfloor hrate hlast hcurvature
        rw [speeds, speeds, hspeed]
        exact .cons (hnext _) (ih _ _ (hnext _))
  exact hruns last last le_rfl

/-! ### Straight on, and around a corner -/

/-- The limitation is called with a carrot a metre ahead, at three metres per second. -/
def aMetreAhead (path : Path ℚ) : LimitationCall ℚ where
  path := path
  lookaheadPose := poseAt 1 0
  linearVel := 3

/-- Two cycles on a straight plan, and two on a plan that turns left after a metre. -/
theorem speeds_antitone_corner :
    List.Forall₂ (· ≥ ·)
      (speeds exactLibm shortPlan turning 0
        (List.replicate 2 (aMetreAhead (planOf [poseAt 0 0, poseAt 1 0, poseAt 2 0]))))
      (speeds exactLibm shortPlan turning 0 (List.replicate 2 (aMetreAhead corner))) := by
  have htighter : Tighter exactLibm shortPlan turning
      (aMetreAhead (planOf [poseAt 0 0, poseAt 1 0, poseAt 2 0])) (aMetreAhead corner) :=
    ⟨rfl, by decide +kernel⟩
  exact speeds_antitone exactLibm shortPlan turning (by decide +kernel) (by decide +kernel)
    (by decide +kernel) 0 (.cons htighter (.cons htighter .nil))

end SentryNav.PursuitController
