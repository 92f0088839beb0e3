import SentryNav.Core.Polyline
import SentryNav.PursuitController.LookAhead

/-!
# The sample points of the curvature

`calculateCurvature` puts a circle through the carrot and two samples of the plan, one behind and
one ahead.  The carrot is found by its distance from the robot, in a straight line; the samples are
found by arc length, from the first pose of the plan.  The code takes the one distance for the
other.

* `calculateCurvature_eq`: the samples are the poses at the places that `Polyline.locate` finds.
* `bracketsCarrot_iff`: they are on either side of the carrot just if the two distances do not
  differ too much, or the carrot is the end of the plan on that side.
-/

namespace SentryNav.PursuitController

open Limiter Polyline

variable {K : Type*} [Field K] [LinearOrder K]

/-! ## Samples -/

/-- The pose at a place of a plan. -/
def poseAtPlace (path : Path K) : Place K → PoseStamped K
  | .start => path.poses.head?.getD default
  | .stop => path.poses.getLast?.getD default
  | .between k ratio =>
      let pose1 := path.poses[k]?.getD default
      let pose2 := path.poses[k + 1]?.getD default
      let p1 := pose1.pose.position
      let p2 := pose2.pose.position
      { header := pose2.header
        pose :=
          { position :=
              { x := p1.x + ratio * (p2.x - p1.x)
                y := p1.y + ratio * (p2.y - p1.y)
                z := p1.z + ratio * (p2.z - p1.z) }
            orientation := pose2.pose.orientation } }

/-- The code looks up the pose at the place with an arc length. -/
lemma findPoseAtDistance_eq {path : Path K} {cumulativeDistances : List K} (target : K)
    (hpath : path.poses ≠ []) (hne : cumulativeDistances ≠ []) :
    findPoseAtDistance path cumulativeDistances target
      = poseAtPlace path (locate cumulativeDistances target) := by
  rw [findPoseAtDistance, locate, total, List.head?_eq_some_head hpath,
    List.getLast?_eq_some_getLast hpath, List.getLast?_eq_some_getLast hne, Option.getD_some]
  dsimp only
  split
  · rw [poseAtPlace, List.head?_eq_some_head hpath, Option.getD_some]
  · split
    · rw [poseAtPlace, List.getLast?_eq_some_getLast hpath, Option.getD_some]
    · split
      · rw [poseAtPlace, List.head?_eq_some_head hpath, Option.getD_some]
      · next hindex => rw [poseAtPlace, Nat.sub_add_cancel (Nat.pos_of_ne_zero hindex)]

/-- The place of the sample that is a distance ahead of the carrot. -/
def samplePlace (m : Libm K) (nav2 : Nav2 K) (plan : Path K) (carrot : PoseStamped K) (ahead : K) :
    Place K :=
  locate (calculateCumulativeDistances m plan) (nav2.euclideanDistance default carrot + ahead)

omit [LinearOrder K] in
lemma calculateCumulativeDistances_head? (m : Libm K) (plan : Path K) :
    (calculateCumulativeDistances m plan).head? = some 0 := List.head?_scanl

/-- **The samples of the curvature**, on either side of the carrot. -/
lemma calculateCurvature_eq (m : Libm K) (nav2 : Nav2 K) {plan : Path K} (hplan : plan.poses ≠ [])
    (carrot : PoseStamped K) (forwardDist backwardDist : K) :
    calculateCurvature m nav2 plan carrot forwardDist backwardDist
      = 1 / calculateCurvatureRadius m
          (poseAtPlace plan (samplePlace m nav2 plan carrot (-backwardDist))).pose.position
          carrot.pose.position
          (poseAtPlace plan (samplePlace m nav2 plan carrot forwardDist)).pose.position := by
  have hne : calculateCumulativeDistances m plan ≠ [] :=
    List.ne_nil_of_mem (List.mem_of_head? (calculateCumulativeDistances_head? m plan))
  rw [calculateCurvature, findPoseAtDistance_eq _ hplan hne, findPoseAtDistance_eq _ hplan hne,
    sub_eq_add_neg]
  rfl

/-! ## The carrot -/

/-- The pose that is the carrot, as an index. -/
def carrotIndex (m : Libm K) (L : K) (plan : Path K) : ℕ :=
  (crossing? m L plan).getD (plan.poses.length - 1)

/-- Without interpolation the carrot is a pose of the plan. -/
lemma getLookAheadPoint_eq (m : Libm K) (L : K) (plan : Path K) :
    getLookAheadPoint m false L plan = plan.poses[carrotIndex m L plan]?.getD default := by
  rw [carrotIndex]
  cases hcrossing : crossing? m L plan with
  | none => rw [getLookAheadPoint_of_none hcrossing, List.getLast?_eq_getElem?, Option.getD_none]
  | some i => rw [getLookAheadPoint_plain hcrossing, Option.getD_some]

/-- How far the carrot is along the plan, from its first pose. -/
def arcDistance (m : Libm K) (L : K) (plan : Path K) : K :=
  (calculateCumulativeDistances m plan)[carrotIndex m L plan]?.getD 0

/-- How far the carrot is from the robot, in a straight line. -/
def straightDistance (m : Libm K) (nav2 : Nav2 K) (L : K) (plan : Path K) : K :=
  nav2.euclideanDistance default (plan.poses[carrotIndex m L plan]?.getD default)

/-- The backward sample is not after the carrot, and the forward sample is not before it. -/
def BracketsCarrot (m : Libm K) (nav2 : Nav2 K) (L forwardDist backwardDist : K) (plan : Path K) :
    Prop :=
  let carrot := getLookAheadPoint m false L plan
  let marks := calculateCumulativeDistances m plan
  (samplePlace m nav2 plan carrot (-backwardDist)).mark marks ≤ arcDistance m L plan ∧
    arcDistance m L plan ≤ (samplePlace m nav2 plan carrot forwardDist).mark marks

instance (m : Libm K) (nav2 : Nav2 K) (L forwardDist backwardDist : K) (plan : Path K) :
    Decidable (BracketsCarrot m nav2 L forwardDist backwardDist plan) :=
  inferInstanceAs (Decidable (_ ∧ _))

variable [IsStrictOrderedRing K] {m : Libm K} (hhypot : ∀ x y, 0 ≤ m.hypot x y)
include hhypot

/-- The marks of a plan go from zero to its length. -/
lemma cumulativeDistance_bounds {plan : Path K} {d : K}
    (hd : d ∈ calculateCumulativeDistances m plan) :
    0 ≤ d ∧ d ≤ total (calculateCumulativeDistances m plan) := by
  refine marks_bounds (fun l hl => ?_) hd
  rw [← List.map_uncurry_zip_eq_zipWith] at hl
  obtain ⟨_, -, rfl⟩ := List.mem_map.mp hl
  exact hhypot _ _

lemma arcDistance_bounds (L : K) (plan : Path K) :
    0 ≤ arcDistance m L plan ∧
      arcDistance m L plan ≤ total (calculateCumulativeDistances m plan) := by
  have hzero : (0 : K) ∈ calculateCumulativeDistances m plan :=
    List.mem_of_head? (calculateCumulativeDistances_head? m plan)
  rw [arcDistance]
  cases hd : (calculateCumulativeDistances m plan)[carrotIndex m L plan]? with
  | none => exact cumulativeDistance_bounds hhypot hzero
  | some d => exact cumulativeDistance_bounds hhypot (List.mem_of_getElem? hd)

/-- **When the samples bracket the carrot**: the carrot is not farther from the robot than along the
plan by more than the backward distance, or it is the end of the plan; and it is not farther along
the plan than from the robot by more than the forward distance, or it is the beginning.  The samples
are those that the curvature is calculated from. -/
theorem bracketsCarrot_iff (nav2 : Nav2 K) (L forwardDist backwardDist : K) (plan : Path K) :
    (plan.poses ≠ [] →
      calculateCurvature m nav2 plan (getLookAheadPoint m false L plan) forwardDist backwardDist
        = 1 / calculateCurvatureRadius m
            (poseAtPlace plan (samplePlace m nav2 plan (getLookAheadPoint m false L plan)
              (-backwardDist))).pose.position
            (getLookAheadPoint m false L plan).pose.position
            (poseAtPlace plan (samplePlace m nav2 plan (getLookAheadPoint m false L plan)
              forwardDist)).pose.position) ∧
    (BracketsCarrot m nav2 L forwardDist backwardDist plan ↔
      (straightDistance m nav2 L plan - backwardDist ≤ arcDistance m L plan ∨
          arcDistance m L plan = total (calculateCumulativeDistances m plan)) ∧
        (arcDistance m L plan ≤ straightDistance m nav2 L plan + forwardDist ∨
          arcDistance m L plan = 0)) := by
  refine ⟨fun hplan => calculateCurvature_eq m nav2 hplan _ forwardDist backwardDist, ?_⟩
  obtain ⟨hzero, hend⟩ := arcDistance_bounds hhypot L plan
  have htotal := hzero.trans hend
  have hstraight : nav2.euclideanDistance default (getLookAheadPoint m false L plan)
      = straightDistance m nav2 L plan := by rw [getLookAheadPoint_eq, straightDistance]
  have hmark : ∀ ahead, (samplePlace m nav2 plan (getLookAheadPoint m false L plan) ahead).mark
        (calculateCumulativeDistances m plan)
      = max 0 (min (straightDistance m nav2 L plan + ahead)
          (total (calculateCumulativeDistances m plan))) := by
    intro ahead
    rw [samplePlace, mark_locate (calculateCumulativeDistances_head? m plan) htotal,
      clamp_eq htotal, hstraight]
  rw [BracketsCarrot, hmark, hmark, ← sub_eq_add_neg]
  refine and_congr ?_ ?_
  · rw [max_le_iff, and_iff_right hzero, min_le_iff, hend.ge_iff_eq]
  · rw [le_max_iff, hzero.ge_iff_eq', le_min_iff, and_iff_left hend, or_comm, eq_comm]

omit hhypot

/-! ### A plan that begins ahead of the robot -/

lemma exactLibm_hypot_nonneg (x y : ℚ) : 0 ≤ exactLibm.hypot x y := Rat.sqrt_nonneg _

/-- On a plan that begins at the robot, with a carrot a metre ahead. -/
theorem bracketsCarrot_iff_near :
    BracketsCarrot exactLibm shortPlan 0.5 0.7 0.3 (planOf [poseAt 0 0, poseAt 1 0, poseAt 2 0]) ↔
      (straightDistance exactLibm shortPlan 0.5 (planOf [poseAt 0 0, poseAt 1 0, poseAt 2 0]) - 0.3
            ≤ arcDistance exactLibm 0.5 (planOf [poseAt 0 0, poseAt 1 0, poseAt 2 0]) ∨
          arcDistance exactLibm 0.5 (planOf [poseAt 0 0, poseAt 1 0, poseAt 2 0])
            = total (calculateCumulativeDistances exactLibm
              (planOf [poseAt 0 0, poseAt 1 0, poseAt 2 0]))) ∧
        (arcDistance exactLibm 0.5 (planOf [poseAt 0 0, poseAt 1 0, poseAt 2 0])
            ≤ straightDistance exactLibm shortPlan 0.5
              (planOf [poseAt 0 0, poseAt 1 0, poseAt 2 0]) + 0.7 ∨
          arcDistance exactLibm 0.5 (planOf [poseAt 0 0, poseAt 1 0, poseAt 2 0]) = 0) :=
  (bracketsCarrot_iff exactLibm_hypot_nonneg shortPlan 0.5 0.7 0.3 _).2

/-- **A sample on the wrong side**: the plan begins a metre ahead, and its first pose is the carrot.
The sample behind it is taken 0.7 metres along the plan, ahead of it. -/
theorem sampled_ahead :
    (0 : ℚ) ≤ 0.7 ∧ (0 : ℚ) ≤ 0.3 ∧
      ¬ BracketsCarrot exactLibm shortPlan 0.3 0.7 0.3 (planOf [poseAt 1 0, poseAt 2 0]) := by
  decide +kernel

end SentryNav.PursuitController
