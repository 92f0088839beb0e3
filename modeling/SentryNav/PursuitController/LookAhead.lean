import SentryNav.Core.BallExit
import SentryNav.PursuitController.CollisionVeto
import SentryNav.RealMath
import Mathlib.Tactic.FieldSimp
import Mathlib.Tactic.LinearCombination

/-!
# The look-ahead point

The carrot is the first pose of the plan outside the look-ahead circle, or the last pose if there is
none; with interpolation it is put back on the circle, between that pose and the one before.

* `lookAheadPoint_spec`: with interpolation the carrot is where it should be, on the circle and on
  the segment, and nothing in the closed form is divided by zero or rooted below zero.
* `same_heading_iff`: the interpolated carrot is a new message, whose orientation is not that of the
  plan.  So the heading that the controller steers for depends on the interpolation, unless the yaw
  of the pose that was crossed is that of the new message.
-/

namespace SentryNav.PursuitController

section Crossing

variable {K : Type*} [Field K] [LinearOrder K] {m : Libm K} {L : K} {plan : Path K}

/-- The first pose outside the look-ahead circle, as an index. -/
def crossing? (m : Libm K) (L : K) (plan : Path K) : Option ℕ :=
  plan.poses.findIdx? fun ps => L ≤ planarNorm m ps.pose.position

omit [Field K] in
lemma crossing?_eq_none (h : crossing? m L plan = none) :
    ∀ ps ∈ plan.poses, planarNorm m ps.pose.position < L := by
  intro ps hps
  have hnot := List.findIdx?_eq_none_iff.mp h ps hps
  exact not_le.mp (of_decide_eq_false hnot)

omit [Field K] in
/-- The poses before the crossing are inside the circle. -/
lemma crossing?_eq_some {i : ℕ} (h : crossing? m L plan = some i) :
    (∃ ps, plan.poses[i]? = some ps ∧ L ≤ planarNorm m ps.pose.position) ∧
      ∀ j < i, ∀ ps, plan.poses[j]? = some ps → planarNorm m ps.pose.position < L := by
  obtain ⟨hlt, hout, hin⟩ := List.findIdx?_eq_some_iff_getElem.mp h
  refine ⟨⟨plan.poses[i], List.getElem?_eq_getElem hlt, of_decide_eq_true hout⟩, ?_⟩
  intro j hj ps hps
  obtain ⟨hj', rfl⟩ := List.getElem?_eq_some_iff.mp hps
  exact not_le.mp fun hle => hin j hj (decide_eq_true hle)

lemma getLookAheadPoint_of_none (h : crossing? m L plan = none) (useInterpolation : Bool) :
    getLookAheadPoint m useInterpolation L plan = plan.poses.getLast?.getD default := by
  rw [crossing?] at h
  rw [getLookAheadPoint, h]

lemma getLookAheadPoint_of_first (h : crossing? m L plan = some 0) (useInterpolation : Bool) :
    getLookAheadPoint m useInterpolation L plan = plan.poses[0]?.getD default := by
  rw [crossing?] at h
  rw [getLookAheadPoint, h]
  simp

lemma getLookAheadPoint_plain {i : ℕ} (h : crossing? m L plan = some i) :
    getLookAheadPoint m false L plan = plan.poses[i]?.getD default := by
  rw [crossing?] at h
  rw [getLookAheadPoint, h]
  simp

/-- Beyond the first pose the carrot is interpolated. -/
lemma getLookAheadPoint_interpolated {k : ℕ} (h : crossing? m L plan = some (k + 1))
    {prev goal : PoseStamped K} (hprev : plan.poses[k]? = some prev)
    (hgoal : plan.poses[k + 1]? = some goal) :
    getLookAheadPoint m true L plan =
      { header := { frameId := prev.header.frameId, stamp := goal.header.stamp }
        pose := { (default : Pose K) with
          position := circleSegmentIntersection m prev.pose.position goal.pose.position L } } := by
  rw [crossing?] at h
  rw [getLookAheadPoint, h]
  simp [hprev, hgoal]

end Crossing

/-! ## On the circle and on the segment -/

section Geometry

/-- The divisor in `circleSegmentIntersection`. -/
def divisor (p1 p2 : Vector3 ℝ) : ℝ :=
  (p2.x - p1.x) * (p2.x - p1.x) + (p2.y - p1.y) * (p2.y - p1.y)

/-- The number there of which the square root is taken. -/
def radicand (p1 p2 : Vector3 ℝ) (r : ℝ) : ℝ :=
  r * r * divisor p1 p2 - (p1.x * p2.y - p2.x * p1.y) * (p1.x * p2.y - p2.x * p1.y)

/-- What the code computes for a segment that ends farther out than it begins. -/
lemma circleSegmentIntersection_def (p1 p2 : Vector3 ℝ) (r : ℝ)
    (hsign : ¬ p2.x * p2.x + p2.y * p2.y - (p1.x * p1.x + p1.y * p1.y) < 0) :
    circleSegmentIntersection realLibm p1 p2 r =
      { x := ((p1.x * p2.y - p2.x * p1.y) * (p2.y - p1.y)
            + (p2.x - p1.x) * √(radicand p1 p2 r)) / divisor p1 p2
        y := (-(p1.x * p2.y - p2.x * p1.y) * (p2.x - p1.x)
            + (p2.y - p1.y) * √(radicand p1 p2 r)) / divisor p1 p2
        z := 0 } := by
  simp only [circleSegmentIntersection, copySignOne, if_neg hsign, one_mul]
  rfl

/-- A point lies on the segment between two others and is not the first of them. -/
def OnSegment (p1 p2 p : Vector3 ℝ) : Prop :=
  ∃ t : ℝ, 0 < t ∧ t ≤ 1 ∧ p.x = p1.x + t * (p2.x - p1.x) ∧ p.y = p1.y + t * (p2.y - p1.y)

/-- A point as a vector of the plane. -/
def planePoint (p : Vector3 ℝ) : ℂ := ⟨p.x, p.y⟩

@[simp] lemma planePoint_re (p : Vector3 ℝ) : (planePoint p).re = p.x := rfl

@[simp] lemma planePoint_im (p : Vector3 ℝ) : (planePoint p).im = p.y := rfl

variable {p1 p2 : Vector3 ℝ} {r : ℝ}

lemma norm_planePoint (p : Vector3 ℝ) : ‖planePoint p‖ = planarNorm realLibm p :=
  Complex.norm_eq_sqrt_sq_add_sq _

lemma norm_sq_planePoint (p : Vector3 ℝ) : ‖planePoint p‖ ^ 2 = p.x * p.x + p.y * p.y :=
  (Complex.sq_norm _).trans (Complex.normSq_apply _)

lemma inner_planePoint (p q : Vector3 ℝ) :
    inner ℝ (planePoint p) (planePoint q - planePoint p)
      = p.x * (q.x - p.x) + p.y * (q.y - p.y) := by
  simp only [Complex.inner, Complex.mul_re, Complex.sub_re, Complex.sub_im, Complex.conj_re,
    Complex.conj_im, planePoint_re, planePoint_im]
  ring

lemma divisor_eq (p1 p2 : Vector3 ℝ) :
    divisor p1 p2 = ‖planePoint p2 - planePoint p1‖ ^ 2 := by
  rw [Complex.sq_norm, Complex.normSq_apply]
  rfl

/-- The code's radicand is a quarter of the discriminant. -/
lemma radicand_eq (p1 p2 : Vector3 ℝ) (r : ℝ) :
    radicand p1 p2 r = BallExit.radicand (planePoint p1) (planePoint p2) r := by
  rw [BallExit.radicand, inner_planePoint, norm_sq_planePoint, ← divisor_eq, radicand, divisor]
  ring

/-- The code's point is where the segment leaves the circle. -/
lemma circleSegmentIntersection_eq (hp : planarNorm realLibm p1 < r)
    (hq : r ≤ planarNorm realLibm p2) :
    planePoint (circleSegmentIntersection realLibm p1 p2 r)
      = BallExit.exitPoint (planePoint p1) (planePoint p2) r := by
  rw [← norm_planePoint] at hp hq
  have hdivisor : divisor p1 p2 ≠ 0 := by
    rw [divisor_eq]
    exact (BallExit.norm_sq_direction_pos hp hq).ne'
  have hsign : ¬ p2.x * p2.x + p2.y * p2.y - (p1.x * p1.x + p1.y * p1.y) < 0 := by
    rw [← norm_sq_planePoint, ← norm_sq_planePoint, not_lt, sub_nonneg]
    have hle := hp.le.trans hq
    gcongr
  have htime : BallExit.exitTime (planePoint p1) (planePoint p2) r * divisor p1 p2
      = √(radicand p1 p2 r) - (p1.x * (p2.x - p1.x) + p1.y * (p2.y - p1.y)) := by
    rw [BallExit.exitTime, ← radicand_eq, ← divisor_eq, inner_planePoint,
      div_mul_cancel₀ _ hdivisor]
  have hx : (circleSegmentIntersection realLibm p1 p2 r).x * divisor p1 p2
      = (p1.x * p2.y - p2.x * p1.y) * (p2.y - p1.y) + (p2.x - p1.x) * √(radicand p1 p2 r) := by
    rw [circleSegmentIntersection_def p1 p2 r hsign]
    exact div_mul_cancel₀ _ hdivisor
  have hy : (circleSegmentIntersection realLibm p1 p2 r).y * divisor p1 p2
      = -(p1.x * p2.y - p2.x * p1.y) * (p2.x - p1.x) + (p2.y - p1.y) * √(radicand p1 p2 r) := by
    rw [circleSegmentIntersection_def p1 p2 r hsign]
    exact div_mul_cancel₀ _ hdivisor
  rw [divisor] at htime hx hy hdivisor
  apply Complex.ext
  · simp only [BallExit.exitPoint, Complex.add_re, Complex.smul_re, Complex.sub_re, smul_eq_mul,
      planePoint_re]
    refine mul_right_cancel₀ hdivisor ?_
    linear_combination hx - (p2.x - p1.x) * htime
  · simp only [BallExit.exitPoint, Complex.add_im, Complex.smul_im, Complex.sub_im, smul_eq_mul,
      planePoint_im]
    refine mul_right_cancel₀ hdivisor ?_
    linear_combination hy - (p2.y - p1.y) * htime

/-- **The point that the code computes** for a segment out of the circle is on the circle and on the
segment; on the way it takes the root of a positive number and divides by another. -/
lemma circleSegmentIntersection_spec (hp : planarNorm realLibm p1 < r)
    (hq : r ≤ planarNorm realLibm p2) :
    planarNorm realLibm (circleSegmentIntersection realLibm p1 p2 r) = r ∧
      OnSegment p1 p2 (circleSegmentIntersection realLibm p1 p2 r) ∧ 0 ≤ radicand p1 p2 r ∧
        divisor p1 p2 ≠ 0 := by
  have hexit := circleSegmentIntersection_eq hp hq
  rw [← norm_planePoint] at hp hq
  refine ⟨?_, ?_, ?_, ?_⟩
  · rw [← norm_planePoint, hexit]
    exact BallExit.norm_exitPoint hp hq
  · refine ⟨_, BallExit.exitTime_pos hp hq, BallExit.exitTime_le_one hp hq, ?_, ?_⟩
    · simpa [BallExit.exitPoint] using congrArg Complex.re hexit
    · simpa [BallExit.exitPoint] using congrArg Complex.im hexit
  · rw [radicand_eq]
    exact (sq_nonneg _).trans (BallExit.inner_sq_lt_radicand hp hq).le
  · rw [divisor_eq]
    exact (BallExit.norm_sq_direction_pos hp hq).ne'

/-- Where the carrot is: at the first pose, if that is outside the circle already; at the last pose,
if none is outside; or else on the circle, between the last pose before the first crossing and the
pose that crosses. -/
inductive LooksAhead (L : ℝ) (poses : List (PoseStamped ℝ)) (carrot : PoseStamped ℝ) : Prop
  | first (hfirst : poses[0]? = some carrot) (hout : L ≤ planarNorm realLibm carrot.pose.position)
  | last (hlast : poses.getLast? = some carrot)
      (hin : ∀ ps ∈ poses, planarNorm realLibm ps.pose.position < L)
  | crossing (k : ℕ) (prev goal : PoseStamped ℝ) (hprev : poses[k]? = some prev)
      (hgoal : poses[k + 1]? = some goal)
      (hin : ∀ j ≤ k, ∀ ps, poses[j]? = some ps → planarNorm realLibm ps.pose.position < L)
      (hout : L ≤ planarNorm realLibm goal.pose.position)
      (hcircle : planarNorm realLibm carrot.pose.position = L)
      (hsegment : OnSegment prev.pose.position goal.pose.position carrot.pose.position)
      (hradicand : 0 ≤ radicand prev.pose.position goal.pose.position L)
      (hdivisor : divisor prev.pose.position goal.pose.position ≠ 0)

/-- **The look-ahead point**, with interpolation and in exact arithmetic, for every plan and every
look-ahead distance. -/
theorem lookAheadPoint_spec (L : ℝ) (plan : Path ℝ) (hplan : plan.poses ≠ []) :
    LooksAhead L plan.poses (getLookAheadPoint realLibm true L plan) := by
  cases hcrossing : crossing? realLibm L plan with
  | none =>
      rw [getLookAheadPoint_of_none hcrossing, List.getLast?_eq_some_getLast hplan]
      exact .last (List.getLast?_eq_some_getLast hplan) (crossing?_eq_none hcrossing)
  | some i =>
      obtain ⟨⟨goal, hgoal, hout⟩, hin⟩ := crossing?_eq_some hcrossing
      cases i with
      | zero =>
          rw [getLookAheadPoint_of_first hcrossing, hgoal]
          exact .first hgoal hout
      | succ k =>
          have hlt : k < plan.poses.length :=
            (Nat.lt_succ_self k).trans (List.getElem?_eq_some_iff.mp hgoal).1
          have hprev := List.getElem?_eq_getElem hlt
          obtain ⟨hcircle, hsegment, hradicand, hdivisor⟩ :=
            circleSegmentIntersection_spec (hin k (Nat.lt_succ_self k) _ hprev) hout
          rw [getLookAheadPoint_interpolated hcrossing hprev hgoal]
          exact .crossing k _ goal hprev hgoal (fun j hj => hin j (Nat.lt_succ_of_le hj)) hout
            hcircle hsegment hradicand hdivisor

/-- A plan that crosses a circle of half a metre between two poses. -/
theorem lookAheadPoint_spec_ahead :
    LooksAhead (1 / 2) [default, ⟨default, ⟨⟨1, 0, 0⟩, default⟩⟩]
      (getLookAheadPoint realLibm true (1 / 2)
        ⟨default, [default, ⟨default, ⟨⟨1, 0, 0⟩, default⟩⟩]⟩) :=
  lookAheadPoint_spec (1 / 2) ⟨default, [default, ⟨default, ⟨⟨1, 0, 0⟩, default⟩⟩]⟩
    (List.cons_ne_nil _ _)

end Geometry

/-! ## The heading of the carrot -/

section Heading

variable {K : Type*} [Field K] [LinearOrder K]

/-- The heading error that `heading_pid_` gets, with interpolation or without. -/
def angleToGoal (m : Libm K) (nav2 : Nav2 K) (velocity : Twist K) (plan : Path K) (c : Controller K)
    (useInterpolation : Bool) : K :=
  let p := { c.params with useInterpolation := useInterpolation }
  (computeDrive m nav2 velocity plan { c with params := p }).1.angleToGoal

/-- The yaw of the pose at which the look-ahead circle is first crossed, or of the last pose. -/
def crossingYaw (m : Libm K) (nav2 : Nav2 K) (L : K) (plan : Path K) : K :=
  nav2.getYaw (((crossing? m L plan).elim plan.poses.getLast? fun i => plan.poses[i]?).getD
    default).pose.orientation

/-- A pose that crosses the circle, and is not the first of the plan, has the yaw of a new message,
which is zero. -/
def CrossesStraight (m : Libm K) (nav2 : Nav2 K) (L : K) (plan : Path K) : Prop :=
  ∀ k, crossing? m L plan = some (k + 1) → crossingYaw m nav2 L plan = nav2.getYaw default

variable {m : Libm K} {nav2 : Nav2 K} {L : K} {plan : Path K}

/-- Without interpolation the carrot is turned as the plan is. -/
lemma getYaw_plain :
    nav2.getYaw (getLookAheadPoint m false L plan).pose.orientation
      = crossingYaw m nav2 L plan := by
  rw [crossingYaw]
  cases hcrossing : crossing? m L plan with
  | none => rw [getLookAheadPoint_of_none hcrossing, Option.elim_none]
  | some i => rw [getLookAheadPoint_plain hcrossing, Option.elim_some]

/-- With interpolation it is not, beyond the first pose. -/
lemma getYaw_interpolated :
    nav2.getYaw (getLookAheadPoint m true L plan).pose.orientation = crossingYaw m nav2 L plan ↔
      CrossesStraight m nav2 L plan := by
  rw [CrossesStraight]
  cases hcrossing : crossing? m L plan with
  | none => simp [crossingYaw, hcrossing, getLookAheadPoint_of_none hcrossing]
  | some i =>
      cases i with
      | zero => simp [crossingYaw, hcrossing, getLookAheadPoint_of_first hcrossing]
      | succ k =>
          obtain ⟨⟨goal, hgoal, -⟩, -⟩ := crossing?_eq_some hcrossing
          have hlt : k < plan.poses.length :=
            (Nat.lt_succ_self k).trans (List.getElem?_eq_some_iff.mp hgoal).1
          rw [getLookAheadPoint_interpolated hcrossing (List.getElem?_eq_getElem hlt) hgoal]
          constructor
          · exact fun hsame _ _ => hsame.symm
          · exact fun hstraight => (hstraight k rfl).symm

/-- **When interpolation does not change the heading target**: the controller steers for the yaw of
the pose that is crossed, with interpolation and without, just when that pose is the first of the
plan, or there is none, or it is not turned. -/
theorem same_heading_iff (m : Libm K) (nav2 : Nav2 K) (velocity : Twist K) (plan : Path K)
    (c : Controller K) (hrotate : c.params.useRotateToHeading = false) :
    (∀ useInterpolation, angleToGoal m nav2 velocity plan c useInterpolation
        = crossingYaw m nav2 (getLookAheadDistance m c.params velocity) plan) ↔
      CrossesStraight m nav2 (getLookAheadDistance m c.params velocity) plan := by
  have hangle : ∀ useInterpolation, angleToGoal m nav2 velocity plan c useInterpolation
      = nav2.getYaw (getLookAheadPoint m useInterpolation
          (getLookAheadDistance m c.params velocity) plan).pose.orientation := by
    intro useInterpolation
    simp only [angleToGoal, computeDrive, hrotate, Bool.false_eq_true, if_false]
    rfl
  rw [Bool.forall_bool, hangle, hangle, getYaw_interpolated]
  exact and_iff_right getYaw_plain

/-! ### A plan that turns around -/

/-- A pose that looks back. -/
def backAt (x y : ℚ) : PoseStamped ℚ :=
  { poseAt x y with pose := { (poseAt x y).pose with orientation := ⟨0, 0, 1, 0⟩ } }

/-- The yaw of a pose that looks back is the double that is closest to half a turn. -/
def turnedBack : Nav2 ℚ :=
  { shortPlan with getYaw := fun q => if q = ⟨0, 0, 1, 0⟩ then 3.141592653589793 else 0 }

/-- A controller that follows the heading of the carrot. -/
def followingHeading : Controller ℚ :=
  configuredWith { Params.declared 20 2.5 with useRotateToHeading := false } ahead

theorem same_heading_iff_straight :
    (∀ useInterpolation, angleToGoal exactLibm turnedBack default
          (planOf [poseAt 0 0, poseAt 1 0]) followingHeading useInterpolation
        = crossingYaw exactLibm turnedBack
          (getLookAheadDistance exactLibm followingHeading.params default)
          (planOf [poseAt 0 0, poseAt 1 0])) ↔
      CrossesStraight exactLibm turnedBack
        (getLookAheadDistance exactLibm followingHeading.params default)
        (planOf [poseAt 0 0, poseAt 1 0]) :=
  same_heading_iff exactLibm turnedBack default _ followingHeading rfl

/-- **A robot that never turns**: with interpolation it steers for a heading straight ahead, without
for one that looks back. -/
theorem never_turns :
    followingHeading.params.useRotateToHeading = false ∧
      followingHeading.params.enableRotation = true ∧
      angleToGoal exactLibm turnedBack default (planOf [poseAt 0 0, backAt 1 0]) followingHeading
          true
        ≠ angleToGoal exactLibm turnedBack default (planOf [poseAt 0 0, backAt 1 0])
          followingHeading false := by
  refine ⟨rfl, rfl, ?_⟩
  decide +kernel

end Heading

end SentryNav.PursuitController
