import SentryNav.Core.Limiter
import SentryNav.PursuitController.Geometry
import SentryNav.PursuitController.Pid

/-!
# `OmniPidPursuitController`

One control cycle as the code runs it: the global plan is pruned and its near part taken into the
robot frame, a carrot is chosen on it, two PID controllers give a speed and a turning rate, the
speed is limited for curvature and for the approach to the goal, and the command is given unless
the plan is seen to collide.

A call can throw at several places and keeps what it has changed by then, so a call gives its
outcome and the controller afterwards.  Lookups in the tf buffer are part of what a cycle is given,
one for each place in the code that asks for one, since each can fail for itself.
-/

namespace SentryNav.PursuitController

open Limiter

variable {K : Type*} [Field K] [LinearOrder K]

/-- The parameters, under the names of the members that hold them. -/
structure Params (K : Type*) where
  translationKp : K
  translationKi : K
  translationKd : K
  enableRotation : Bool
  rotationKp : K
  rotationKi : K
  rotationKd : K
  minMaxSumError : K
  controlDuration : K
  maxRobotPoseSearchDist : K
  useInterpolation : Bool
  lookaheadDist : K
  useVelocityScaledLookaheadDist : Bool
  minLookaheadDist : K
  maxLookaheadDist : K
  lookaheadTime : K
  useRotateToHeading : Bool
  useRotateToHeadingTreshold : K
  vLinearMin : K
  vLinearMax : K
  vAngularMin : K
  vAngularMax : K
  minApproachLinearVelocity : K
  approachVelocityScalingDist : K
  curvatureMin : K
  curvatureMax : K
  reductionRatioAtHighCurvature : K
  curvatureForwardDist : K
  curvatureBackwardDist : K
  maxVelocityScalingFactorRate : K
  transformTolerance : K

/-- The defaults that `configure` declares; the search distance is that of the costmap, and the
control frequency is a parameter of the controller server. -/
def Params.declared (controlFrequency costmapMaxExtent : K) : Params K where
  translationKp := 3.0
  translationKi := 0.1
  translationKd := 0.3
  enableRotation := true
  rotationKp := 3.0
  rotationKi := 0.1
  rotationKd := 0.3
  minMaxSumError := 1.0
  controlDuration := 1 / controlFrequency
  maxRobotPoseSearchDist := costmapMaxExtent
  useInterpolation := true
  lookaheadDist := 0.3
  useVelocityScaledLookaheadDist := true
  minLookaheadDist := 0.2
  maxLookaheadDist := 1.0
  lookaheadTime := 1.0
  useRotateToHeading := true
  useRotateToHeadingTreshold := 0.1
  vLinearMin := -3.0
  vLinearMax := 3.0
  vAngularMin := -3.0
  vAngularMax := 3.0
  minApproachLinearVelocity := 0.05
  approachVelocityScalingDist := 0.6
  curvatureMin := 0.4
  curvatureMax := 0.7
  reductionRatioAtHighCurvature := 0.5
  curvatureForwardDist := 0.7
  curvatureBackwardDist := 0.3
  maxVelocityScalingFactorRate := 0.9
  transformTolerance := 0.1

/-- The members that a cycle reads. -/
structure Controller (K : Type*) where
  params : Params K
  movePid : PID K
  headingPid : PID K
  lastVelocityScalingFactor : K
  globalPlan : Path K

/-- `configure`, on an object with whatever its other members hold: new parameters, new PIDs. -/
def configure (p : Params K) (c : Controller K) : Controller K :=
  { c with
    params := p
    movePid := .make p.controlDuration p.vLinearMax p.vLinearMin p.translationKp p.translationKd
      p.translationKi
    headingPid := .make p.controlDuration p.vAngularMax p.vAngularMin p.rotationKp p.rotationKd
      p.rotationKi }

/-- `setPlan`. -/
def setPlan (path : Path K) (c : Controller K) : Controller K := { c with globalPlan := path }

/-! ## What a cycle is given -/

/-- `nav2_costmap_2d::INSCRIBED_INFLATED_OBSTACLE`. -/
def inscribedInflatedObstacle : UInt8 := 253

/-- The local costmap and the frames it knows of. -/
structure Costmap (K : Type*) where
  sizeInMetersX : K
  sizeInMetersY : K
  /-- The cell of a point, if it lies in the map. -/
  worldToMap : K → K → Option (ℕ × ℕ)
  getCost : ℕ → ℕ → UInt8
  globalFrameId : String
  baseFrameId : String

/-- The places in a cycle that ask the tf buffer for a transform. -/
inductive TfCall
  | robotPose
  | planPose (i : ℕ)
  | samplePose (i : ℕ)
deriving DecidableEq

/-- The arguments of `computeVelocityCommands`, and what it finds when it looks around. -/
structure CycleInput (K : Type*) where
  pose : PoseStamped K
  velocity : Twist K
  costmap : Costmap K
  /-- `tf_->transform` for a call, with its tolerance, to a frame; `none` if it throws. -/
  transform : TfCall → K → String → PoseStamped K → Option (PoseStamped K)

/-- `transformPose`: whether it succeeded, and the pose written out. -/
def transformPose (i : CycleInput K) (tolerance : K) (call : TfCall) (frame : String)
    (inPose outPose : PoseStamped K) : Bool × PoseStamped K :=
  if inPose.header.frameId = frame then (true, inPose)
  else
    match i.transform call tolerance frame inPose with
    | some transformed => (true, transformed)
    | none => (false, outPose)

/-- `getCostmapMaxExtent`. -/
def getCostmapMaxExtent (costmap : Costmap K) : K :=
  max costmap.sizeInMetersX costmap.sizeInMetersY / 2.0

/-! ## The plan in the robot frame -/

/-- `transform_global_pose_to_local`: the result of `transformPose` is not looked at. -/
def transformGlobalPoseToLocal (i : CycleInput K) (c : Controller K) (robotPose : PoseStamped K)
    (k : ℕ) (globalPlanPose : PoseStamped K) : PoseStamped K :=
  let stampedPose : PoseStamped K :=
    { header := { frameId := c.globalPlan.header.frameId, stamp := robotPose.header.stamp }
      pose := globalPlanPose.pose }
  let transformed := (transformPose i c.params.transformTolerance (.planPose k)
    i.costmap.baseFrameId stampedPose default).2
  { transformed with
    pose := { transformed.pose with position := { transformed.pose.position with z := 0 } } }

/-- `transformGlobalPlan`. -/
def transformGlobalPlan (nav2 : Nav2 K) (i : CycleInput K) (c : Controller K) :
    Except String (Path K) × Controller K :=
  let poses := c.globalPlan.poses
  if poses = [] then (.error "Received plan with zero length", c)
  else
    match transformPose i c.params.transformTolerance .robotPose c.globalPlan.header.frameId
        i.pose default with
    | (false, _) => (.error "Unable to transform robot pose into global plan's frame", c)
    | (true, robotPose) =>
        let maxCostmapExtent := getCostmapMaxExtent i.costmap
        let upper := nav2.firstAfterIntegratedDistance poses c.params.maxRobotPoseSearchDist
        let first := nav2.minBy (poses.take upper) fun ps => nav2.euclideanDistance robotPose ps
        let near := (poses.drop first).takeWhile fun ps =>
          ¬ maxCostmapExtent < nav2.euclideanDistance ps robotPose
        let transformedPlan : Path K :=
          { header := { frameId := i.costmap.baseFrameId, stamp := robotPose.header.stamp }
            poses := near.mapIdx (transformGlobalPoseToLocal i c robotPose) }
        let pruned := { c with globalPlan := { c.globalPlan with poses := poses.drop first } }
        if transformedPlan.poses = [] then (.error "Resulting plan has 0 poses in it.", pruned)
        else (.ok transformedPlan, pruned)

/-! ## The speed and its limits -/

/-- `getLookAheadDistance`. -/
def getLookAheadDistance (m : Libm K) (p : Params K) (speed : Twist K) : K :=
  if p.useVelocityScaledLookaheadDist then
    clamp (m.hypot speed.linear.x speed.linear.y * p.lookaheadTime) p.minLookaheadDist
      p.maxLookaheadDist
  else p.lookaheadDist

/-- `approachVelocityScalingFactor`. -/
def approachVelocityScalingFactor (m : Libm K) (nav2 : Nav2 K) (p : Params K) (path : Path K) : K :=
  if nav2.calculatePathLength path < p.approachVelocityScalingDist then
    planarNorm m (path.poses.getLast?.getD default).pose.position / p.approachVelocityScalingDist
  else 1

/-- `applyApproachVelocityScaling`. -/
def applyApproachVelocityScaling (m : Libm K) (nav2 : Nav2 K) (p : Params K) (path : Path K)
    (linearVel : K) : K :=
  let velocityScaling := approachVelocityScalingFactor m nav2 p path
  let unboundedVel := linearVel * velocityScaling
  let approachVel :=
    if unboundedVel < p.minApproachLinearVelocity then p.minApproachLinearVelocity
    else linearVel * velocityScaling
  min linearVel approachVel

/-- The reduction of the speed for a curvature above `curvature_min`. -/
def reductionRatio (p : Params K) (curvature : K) : K :=
  if p.curvatureMax < curvature then p.reductionRatioAtHighCurvature
  else
    1 - (curvature - p.curvatureMin) / (p.curvatureMax - p.curvatureMin)
      * (1 - p.reductionRatioAtHighCurvature)

/-- `applyCurvatureLimitation`, from the curvature on; the result is both the new speed and the new
`last_velocity_scaling_factor_`. -/
def applyCurvatureLimitation (p : Params K) (last curvature linearVel : K) : K :=
  let scaledLinearVel :=
    if p.curvatureMin < curvature then
      let targetScaledVel := linearVel * reductionRatio p curvature
      last + clamp (targetScaledVel - last) (-p.maxVelocityScalingFactorRate * p.controlDuration)
        (p.maxVelocityScalingFactorRate * p.controlDuration)
    else linearVel
  min linearVel (max scaledLinearVel (2.0 * p.minApproachLinearVelocity))

/-! ## The collision check -/

/-- `isCollisionDetected`: it stops at the first pose that is outside the map. -/
def isCollisionDetected (costmap : Costmap K) : List (PoseStamped K) → Bool
  | [] => false
  | ps :: rest =>
      match costmap.worldToMap ps.pose.position.x ps.pose.position.y with
      | some (mx, my) =>
          if inscribedInflatedObstacle ≤ costmap.getCost mx my then true
          else isCollisionDetected costmap rest
      | none => false

/-- `sample_points`. -/
def samplePoints : ℕ := 10

/-- The sampled poses in the frame of the costmap; the result of `transformPose` is not looked
at. -/
def costmapFrameLocalPlan (i : CycleInput K) (p : Params K) (transformedPlan : Path K) :
    List (PoseStamped K) :=
  let planSize := transformedPlan.poses.length
  (List.range samplePoints).map fun k =>
    let index := min (k * planSize / samplePoints) (planSize - 1)
    (transformPose i p.transformTolerance (.samplePose k) i.costmap.globalFrameId
      (transformedPlan.poses[index]?.getD default) default).2

/-! ## A cycle -/

/-- What a cycle computes between the transformed plan and the collision check. -/
structure Drive (K : Type*) where
  carrotPose : PoseStamped K
  thetaDist : K
  linDist : K
  angleToGoal : K
  curvature : K
  /-- The speed from `move_pid_`, after the curvature limitation and after the approach scaling. -/
  pidVel : K
  curvatureVel : K
  linVel : K
  angularVel : K

/-- The middle part of `computeVelocityCommands`. -/
def computeDrive (m : Libm K) (nav2 : Nav2 K) (velocity : Twist K) (transformedPlan : Path K)
    (c : Controller K) : Drive K × Controller K :=
  let p := c.params
  let carrotPose := getLookAheadPoint m p.useInterpolation (getLookAheadDistance m p velocity)
    transformedPlan
  let carrot := carrotPose.pose.position
  let lastPose := transformedPlan.poses.getLast?.getD default
  let angleToGoal :=
    if p.useRotateToHeading then nav2.getYaw lastPose.pose.orientation
    else nav2.getYaw carrotPose.pose.orientation
  let linDist :=
    if p.useRotateToHeading && p.useRotateToHeadingTreshold < |angleToGoal| then 0
    else m.hypot carrot.x carrot.y
  let (pidVel, movePid) := c.movePid.calculate linDist 0
  let (angularVel, headingPid) :=
    if p.enableRotation then c.headingPid.calculate angleToGoal 0 else (0, c.headingPid)
  let curvature := calculateCurvature m nav2 transformedPlan carrotPose p.curvatureForwardDist
    p.curvatureBackwardDist
  let curvatureVel := applyCurvatureLimitation p c.lastVelocityScalingFactor curvature pidVel
  let linVel := applyApproachVelocityScaling m nav2 p transformedPlan curvatureVel
  ({ carrotPose := carrotPose
     thetaDist := m.atan2 carrot.y carrot.x
     linDist := linDist
     angleToGoal := angleToGoal
     curvature := curvature
     pidVel := pidVel
     curvatureVel := curvatureVel
     linVel := linVel
     angularVel := angularVel },
    { c with
      movePid := movePid
      headingPid := headingPid
      lastVelocityScalingFactor := curvatureVel })

/-- The last part of `computeVelocityCommands`: the collision check and the command. -/
def command (m : Libm K) (i : CycleInput K) (p : Params K) (transformedPlan : Path K)
    (drive : Drive K) : Except String (TwistStamped K) :=
  if isCollisionDetected i.costmap (costmapFrameLocalPlan i p transformedPlan) then
    .error "Collision detected in the trajectory. Stopping the robot!"
  else
    .ok
      { header := i.pose.header
        twist :=
          { linear :=
              { x := drive.linVel * m.cos drive.thetaDist
                y := drive.linVel * m.sin drive.thetaDist
                z := 0 }
            angular := { x := 0, y := 0, z := drive.angularVel } } }

/-- How a cycle ends: thrown out of `transformGlobalPlan`, or with a plan, what was computed from
it, and a command or the exception of the collision check. -/
inductive Cycle (K : Type*)
  | unplanned (reason : String)
  | driven (transformedPlan : Path K) (drive : Drive K) (result : Except String (TwistStamped K))

/-- `computeVelocityCommands`, with all that it has computed. -/
def runCycle (m : Libm K) (nav2 : Nav2 K) (i : CycleInput K) (c : Controller K) :
    Cycle K × Controller K :=
  match transformGlobalPlan nav2 i c with
  | (.error reason, c) => (.unplanned reason, c)
  | (.ok transformedPlan, c) =>
      let (drive, c) := computeDrive m nav2 i.velocity transformedPlan c
      (.driven transformedPlan drive (command m i c.params transformedPlan drive), c)

/-- `computeVelocityCommands`: the command, or the text of the exception. -/
def computeVelocityCommands (m : Libm K) (nav2 : Nav2 K) (i : CycleInput K) (c : Controller K) :
    Except String (TwistStamped K) × Controller K :=
  match runCycle m nav2 i c with
  | (.unplanned reason, c) => (.error reason, c)
  | (.driven _ _ result, c) => (result, c)

/-! ## Histories -/

/-- A call of the controller server. -/
inductive Call (K : Type*)
  | setPlan (path : Path K)
  | computeVelocityCommands (i : CycleInput K)

/-- A call, with the cycle that it runs. -/
def call (m : Libm K) (nav2 : Nav2 K) (c : Controller K) : Call K → Controller K × List (Cycle K)
  | .setPlan path => (setPlan path c, [])
  | .computeVelocityCommands i =>
      let (cycle, c) := runCycle m nav2 i c
      (c, [cycle])

end SentryNav.PursuitController
