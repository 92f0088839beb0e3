import SentryNav.Core.FloatFormat
import SentryNav.Core.Raster
import SentryNav.Core.Sectors
import SentryNav.Messages

/-!
# `BackUpFreeSpace`

A recovery behaviour: `onRun` fetches the costmap, searches it for a free direction and prepares a
velocity; `onCycleUpdate`, called until it no longer returns `RUNNING`, publishes that velocity and
decides when to end.

`findBestDirection` marches along one ray per sampled angle and takes the middle of a sector of safe
angles.  What the behaviour gets from elsewhere is an argument of the call: the answer of the
costmap service, the readings of the clock, in nanoseconds, the poses that `getCurrentPose` finds,
with `getYaw` of their orientation, and what `isCollisionFree` of the base class says.

The search computes in `float`, and so does its model: every variable and every operation is rounded
as the source declares it.  The velocity and the distance that has been driven are exact.  The
visualisation is not part of the model.
-/

namespace SentryNav.Nav2Plugins.BackUpFreeSpace

open FloatFormat Raster Sectors

variable {K : Type*} [Field K] [LinearOrder K] [FloorRing K]

/-- `nav2_msgs::msg::Costmap`, as far as it is read; `data` by index. -/
structure Costmap (K : Type*) [Field K] [LinearOrder K] where
  resolution : K
  originX : K
  originY : K
  sizeX : ℕ
  sizeY : ℕ
  data : ℕ → UInt8
  resolution_pos : 0 < resolution

/-- `geometry_msgs::msg::Pose2D`. -/
structure Pose2D (K : Type*) where
  x : K
  y : K
  theta : K

/-! ## The free direction -/

/-- `x += step`. -/
def advance (step x : K) : K := float32 (x + step)

/-- The values of `x` in `for (float x = start; x <= stop; x += step)`.  A pass that moves on moves
on by the least `float`, which bounds their number; a loop that does not move on, and so never ends,
is cut off there. -/
def floatSweep (start stop step : K) : List K :=
  sweep (advance step) stop ((⌊(stop - start) / binary32.least⌋ + 1).toNat + 1) start

/-- What the march along a ray asks of a point. -/
def pointFree (costmap : Costmap K) (x y : K) : Bool :=
  let resolution := float32 costmap.resolution
  let originX := float32 costmap.originX
  let originY := float32 costmap.originY
  let mapMinX := originX
  let mapMaxX := float32 (originX + float32 (float32 (costmap.sizeX : K) * resolution))
  let mapMinY := originY
  let mapMaxY := float32 (originY + float32 (float32 (costmap.sizeY : K) * resolution))
  if mapMinX ≤ x ∧ x ≤ mapMaxX ∧ mapMinY ≤ y ∧ y ≤ mapMaxY then
    let i := trunc (float32 (float32 (x - originX) / resolution))
    let j := trunc (float32 (float32 (y - originY) / resolution))
    if 0 ≤ i ∧ i < costmap.sizeX ∧ 0 ≤ j ∧ j < costmap.sizeY then
      !(253 ≤ costmap.data (i + j * costmap.sizeX).toNat)
    else false
  else false

/-- A coordinate of a point on a ray: `double` and `float` are added as `double`s. -/
def rayPoint (start r direction : K) : K :=
  float32 (float64 (start + float32 (r * float32 direction)))

/-- `is_safe`: no point of the ray stops the march. -/
def isSafe (m : Libm K) (costmap : Costmap K) (pose : Pose2D K) (radius angle : K) : Bool :=
  (floatSweep 0 radius (float32 costmap.resolution)).all fun r =>
    pointFree costmap (rayPoint pose.x r (m.cos angle)) (rayPoint pose.y r (m.sin angle))

/-- The four variables of the search. -/
structure Markers (K : Type*) where
  firstSafeAngle : K
  lastUnsafeAngle : K
  finalSafeAngle : K
  finalUnsafeAngle : K

/-- What the variables are initialised with. -/
def Markers.init : Markers K := ⟨-1, -1, 0, 0⟩

/-- A pass of the loop over the angles, once it is known whether the angle is safe. -/
def Markers.scan (s : Markers K) (angle : K) (safe : Bool) : Markers K :=
  let s :=
    if safe ∧ s.firstSafeAngle = -1 then { s with firstSafeAngle := angle } else s
  let s :=
    if ¬ safe ∧ s.firstSafeAngle ≠ -1 ∧ s.lastUnsafeAngle = -1 then
      { s with lastUnsafeAngle := angle }
    else s
  if float32 (s.finalUnsafeAngle - s.finalSafeAngle)
        < float32 (s.lastUnsafeAngle - s.firstSafeAngle) ∧
      s.firstSafeAngle ≠ -1 ∧ s.lastUnsafeAngle ≠ -1 then
    { firstSafeAngle := -1
      lastUnsafeAngle := -1
      finalSafeAngle := s.firstSafeAngle
      finalUnsafeAngle := s.lastUnsafeAngle }
  else s

/-- `findBestDirection`.  The last four arguments are narrowed as they are passed. -/
def findBestDirection (m : Libm K) (costmap : Costmap K) (pose : Pose2D K)
    (startAngle endAngle radius angleIncrement : K) : K :=
  let angles := floatSweep (float32 startAngle) (float32 endAngle) (float32 angleIncrement)
  let s := angles.foldl
    (fun s angle => s.scan angle (isSafe m costmap pose (float32 radius) angle)) Markers.init
  float32 (float32 (s.finalSafeAngle + s.finalUnsafeAngle) / 2.0)

/-! ## The behaviour -/

/-- `nav2_behaviors::Status`. -/
inductive Status
  | succeeded
  | failed
  | running
deriving DecidableEq

/-- `BackUpAction::Goal`. -/
structure Goal (K : Type*) where
  targetX : K
  speed : K
  timeAllowance : ℤ

/-- The members, as far as a cycle reads them. -/
structure State (K : Type*) where
  maxRadius : K
  initialPose : Pose2D K
  twistX : K
  twistY : K
  commandX : K
  commandTimeAllowance : ℤ
  endTime : ℤ

/-- What a call of `onRun` is given and gets. -/
structure RunCall (K : Type*) [Field K] [LinearOrder K] where
  command : Goal K
  /-- Whether the service became available before a shutdown. -/
  serviceReady : Bool
  /-- The response, unless it takes too long. -/
  costmap : Option (Costmap K)
  pose : Option (Pose2D K)
  now : ℤ
  /-- The pose when the command has been computed. -/
  initialPose : Option (Pose2D K)

/-- `M_PI`. -/
def mPi : K := float64 3.14159265358979323846

/-- The direction `onRun` chooses. -/
def bestAngle (m : Libm K) (costmap : Costmap K) (pose : Pose2D K) (maxRadius : K) : K :=
  findBestDirection m costmap pose (-mPi) mPi maxRadius (mPi / 32.0)

/-- `onRun`. -/
def onRun (m : Libm K) (s : State K) (call : RunCall K) : State K × Status :=
  if !call.serviceReady then (s, .failed)
  else match call.costmap with
    | none => (s, .failed)
    | some costmap => match call.pose with
      | none => (s, .failed)
      | some pose =>
          let best := bestAngle m costmap pose s.maxRadius
          let s := { s with
            initialPose := pose
            twistX := m.cos best * call.command.speed
            twistY := m.sin best * call.command.speed
            commandX := call.command.targetX
            commandTimeAllowance := call.command.timeAllowance
            endTime := call.now + call.command.timeAllowance }
          match call.initialPose with
          | none => (s, .failed)
          | some initialPose => ({ s with initialPose := initialPose }, .succeeded)

/-- What the behaviour does to the outside, and what it returns to its caller. -/
inductive Output (K : Type*)
  | stopRobot
  | cmdVel (twist : Twist K)
  | feedback (distanceTraveled : K)
  | returned (status : Status)

/-- What a call of `onCycleUpdate` gets. -/
structure CycleCall (K : Type*) where
  now : ℤ
  currentPose : Option (Pose2D K)
  isCollisionFree : K → Twist K → Pose2D K → Bool

/-- The time allowance is used up. -/
def outOfTime (s : State K) (call : CycleCall K) : Bool :=
  s.endTime - call.now < 0 && 0 < s.commandTimeAllowance

/-- The command that a cycle publishes. -/
def cmdVel (s : State K) : Twist K := ⟨⟨s.twistX, s.twistY, 0⟩, default⟩

/-- `onCycleUpdate`: what it does, and what it returns. -/
def onCycleUpdate (m : Libm K) (s : State K) (call : CycleCall K) : List (Output K) :=
  if outOfTime s call then [.stopRobot, .returned .failed]
  else match call.currentPose with
    | none => [.returned .failed]
    | some currentPose =>
        let diffX := s.initialPose.x - currentPose.x
        let diffY := s.initialPose.y - currentPose.y
        let distance := m.hypot diffX diffY
        if |s.commandX| ≤ distance then
          [.feedback distance, .stopRobot, .returned .succeeded]
        else if !call.isCollisionFree distance (cmdVel s) currentPose then
          [.feedback distance, .stopRobot, .returned .failed]
        else [.feedback distance, .cmdVel (cmdVel s), .returned .running]

end SentryNav.Nav2Plugins.BackUpFreeSpace
