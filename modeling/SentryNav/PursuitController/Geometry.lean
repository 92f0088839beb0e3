import SentryNav.Messages
import Mathlib.Algebra.Order.Field.Basic
import Mathlib.Data.Rat.Cast.OfScientific

/-!
# The geometry of the pursuit controller

The functions of `omni_pid_pursuit_controller.cpp` that look at a plan in the robot frame: the
carrot on the look-ahead circle, arc lengths along the plan, and the curvature there.  They are
over any ordered field with the functions of `<cmath>` for a parameter; what the controller takes
from `nav2_util` and `tf2` is in `Nav2`.
-/

namespace SentryNav.PursuitController

variable {K : Type*} [Field K] [LinearOrder K]

/-- The functions of `nav2_util::geometry_utils` and `tf2` that the controller calls.  A position in
a range of poses is an index; the end of the range is its length. -/
structure Nav2 (K : Type*) where
  euclideanDistance : PoseStamped K → PoseStamped K → K
  firstAfterIntegratedDistance : List (PoseStamped K) → K → ℕ
  minBy : List (PoseStamped K) → (PoseStamped K → K) → ℕ
  calculatePathLength : Path K → K
  getYaw : Quaternion K → K

/-- `hypot` of the first two coordinates. -/
def planarNorm (m : Libm K) (p : Vector3 K) : K := m.hypot p.x p.y

/-- `std::copysign(1.0, v)`; a difference of numbers that is zero is a positive zero. -/
def copySignOne (v : K) : K := if v < 0 then -1 else 1

/-! ## The carrot -/

/-- `circleSegmentIntersection`. -/
def circleSegmentIntersection (m : Libm K) (p1 p2 : Vector3 K) (r : K) : Vector3 K :=
  let dx := p2.x - p1.x
  let dy := p2.y - p1.y
  let dr2 := dx * dx + dy * dy
  let d := p1.x * p2.y - p2.x * p1.y
  let d1 := p1.x * p1.x + p1.y * p1.y
  let d2 := p2.x * p2.x + p2.y * p2.y
  let dd := d2 - d1
  let sqrtTerm := m.sqrt (r * r * dr2 - d * d)
  { x := (d * dy + copySignOne dd * dx * sqrtTerm) / dr2
    y := (-d * dx + copySignOne dd * dy * sqrtTerm) / dr2
    z := 0 }

/-- `getLookAheadPoint`: the first pose outside the look-ahead circle, or the last pose; with
interpolation, the point of the circle on the segment before it, as a new message. -/
def getLookAheadPoint (m : Libm K) (useInterpolation : Bool) (lookaheadDist : K)
    (transformedPlan : Path K) : PoseStamped K :=
  let poses := transformedPlan.poses
  match poses.findIdx? fun ps => lookaheadDist ≤ planarNorm m ps.pose.position with
  | none => poses.getLast?.getD default
  | some i =>
      if useInterpolation && i ≠ 0 then
        let prev := poses[i - 1]?.getD default
        let goal := poses[i]?.getD default
        let point := circleSegmentIntersection m prev.pose.position goal.pose.position lookaheadDist
        { header := { frameId := prev.header.frameId, stamp := goal.header.stamp }
          pose := { (default : Pose K) with position := point } }
      else poses[i]?.getD default

/-! ## Arc lengths -/

/-- `calculateCumulativeDistances`. -/
def calculateCumulativeDistances (m : Libm K) (path : Path K) : List K :=
  let segment (prev curr : PoseStamped K) : K :=
    m.hypot (curr.pose.position.x - prev.pose.position.x)
      (curr.pose.position.y - prev.pose.position.y)
  (path.poses.zipWith segment path.poses.tail).scanl (· + ·) 0

/-- `findPoseAtDistance`; `std::lower_bound` finds the first distance that is not less than the
target. -/
def findPoseAtDistance (path : Path K) (cumulativeDistances : List K) (targetDistance : K) :
    PoseStamped K :=
  match path.poses.head?, path.poses.getLast?, cumulativeDistances.getLast? with
  | some front, some back, some total =>
      if targetDistance ≤ 0 then front
      else if total ≤ targetDistance then back
      else
        let index := cumulativeDistances.findIdx fun d => ¬ d < targetDistance
        if index = 0 then front
        else
          let before := cumulativeDistances[index - 1]?.getD 0
          let after := cumulativeDistances[index]?.getD 0
          let ratio := (targetDistance - before) / (after - before)
          let pose1 := path.poses[index - 1]?.getD default
          let pose2 := path.poses[index]?.getD default
          let p1 := pose1.pose.position
          let p2 := pose2.pose.position
          { header := pose2.header
            pose :=
              { position :=
                  { x := p1.x + ratio * (p2.x - p1.x)
                    y := p1.y + ratio * (p2.y - p1.y)
                    z := p1.z + ratio * (p2.z - p1.z) }
                orientation := pose2.pose.orientation } }
  | _, _, _ => default

/-! ## Curvature -/

/-- `calculateCurvatureRadius`.  On three points in a line the divisor is zero, the centre not
finite, and the radius the fallback. -/
def calculateCurvatureRadius (m : Libm K) (nearPoint currentPoint farPoint : Vector3 K) : K :=
  let x1 := nearPoint.x
  let y1 := nearPoint.y
  let x2 := currentPoint.x
  let y2 := currentPoint.y
  let x3 := farPoint.x
  let y3 := farPoint.y
  let divisor := 2.0 * (x1 * (y2 - y3) + x2 * (y3 - y1) + x3 * (y1 - y2))
  let centerX := ((x1 * x1 + y1 * y1) * (y2 - y3) + (x2 * x2 + y2 * y2) * (y3 - y1)
    + (x3 * x3 + y3 * y3) * (y1 - y2)) / divisor
  let centerY := ((x1 * x1 + y1 * y1) * (x3 - x2) + (x2 * x2 + y2 * y2) * (x1 - x3)
    + (x3 * x3 + y3 * y3) * (x2 - x1)) / divisor
  let radius := m.hypot (x2 - centerX) (y2 - centerY)
  if divisor = 0 ∨ radius < 1e-9 then 1e9 else radius

/-- `calculateCurvature`. -/
def calculateCurvature (m : Libm K) (nav2 : Nav2 K) (path : Path K) (lookaheadPose : PoseStamped K)
    (forwardDist backwardDist : K) : K :=
  let cumulativeDistances := calculateCumulativeDistances m path
  let lookaheadDistance := nav2.euclideanDistance default lookaheadPose
  let backwardPose := findPoseAtDistance path cumulativeDistances (lookaheadDistance - backwardDist)
  let forwardPose := findPoseAtDistance path cumulativeDistances (lookaheadDistance + forwardDist)
  1 / calculateCurvatureRadius m backwardPose.pose.position lookaheadPose.pose.position
    forwardPose.pose.position

end SentryNav.PursuitController
