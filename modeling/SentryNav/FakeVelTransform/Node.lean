import SentryNav.Core.Machine
import SentryNav.Messages
import Mathlib.Algebra.Order.Field.Basic
import Mathlib.Data.Rat.Cast.OfScientific

/-!
# `FakeVelTransform`

The node takes velocity commands given in a frame that does not turn with the robot, and publishes
them turned into the robot's frame.  Which yaw it turns them by, and when, depends on two inputs
that arrive independently: a command that cannot be matched with odometry is published at once, any
other waits in `latest_cmd_vel_` for the synchronised pair of odometry and local plan.

The model has the five callbacks with the clock readings they take, in nanoseconds; the member
`current_robot_base_angle_` has no initialiser, so a run may start with any value of it.  Calls of
`cos` and `sin`, and the rounding of a `double` to the `float` parameter of `transformVelocity`, are
parameters.
-/

namespace SentryNav.FakeVelTransform

variable {K : Type*} [Field K] [LinearOrder K]

/-- `EPSILON`. -/
def epsilon : K := 1e-5

/-- `CONTROLLER_TIMEOUT`, `0.5` seconds, in nanoseconds. -/
def controllerTimeout : ℤ := 500000000

/-- The members of the node that its callbacks use. -/
structure State (K : Type*) where
  spinSpeed : K
  latestCmdVel : Option (Twist K)
  currentRobotBaseAngle : K
  lastControllerActivateTime : ℤ

/-- What the node is called with: the message, as far as the callback reads it, and the reading of
the clock where it takes one. -/
inductive Event (K : Type*)
  | cmdSpin (data : K)
  | odometry (yaw : K) (now : ℤ)
  | cmdVel (msg : Twist K) (now : ℤ)
  | localPlan (now : ℤ)
  | sync (yaw : K)

/-- A node that has been constructed: `init_spin_speed` is a parameter of it, the angle has not been
set. -/
def State.init (initSpinSpeed angle : K) : State K where
  spinSpeed := initSpinSpeed
  latestCmdVel := none
  currentRobotBaseAngle := angle
  lastControllerActivateTime := 0

/-- `transformVelocity(twist, yaw_diff)`. -/
def transformVelocity (m : Libm K) (spinSpeed : K) (twist : Twist K) (yawDiff : K) : Twist K where
  linear :=
    { x := twist.linear.x * m.cos yawDiff + twist.linear.y * m.sin yawDiff
      y := -twist.linear.x * m.sin yawDiff + twist.linear.y * m.cos yawDiff
      z := 0 }
  angular := { x := 0, y := 0, z := twist.angular.z + spinSpeed }

/-- `is_zero_vel`. -/
def isZeroVel (msg : Twist K) : Bool :=
  |msg.linear.x| < epsilon && |msg.linear.y| < epsilon && |msg.angular.z| < epsilon

/-- The controller has not been heard of for longer than the timeout. -/
def timedOut (lastActivate now : ℤ) : Bool := controllerTimeout < now - lastActivate

/-! ## The callbacks -/

def cmdSpinCallback (data : K) (s : State K) : State K := { s with spinSpeed := data }

def odometryCallback (yaw : K) (now : ℤ) (s : State K) : State K :=
  if timedOut s.lastControllerActivateTime now then { s with currentRobotBaseAngle := yaw } else s

def localPlanCallback (now : ℤ) (s : State K) : State K :=
  { s with lastControllerActivateTime := now }

def cmdVelCallback (m : Libm K) (narrow : K → K) (msg : Twist K) (now : ℤ) (s : State K) :
    State K × List (Twist K) :=
  if isZeroVel msg || timedOut s.lastControllerActivateTime now then
    (s, [transformVelocity m s.spinSpeed msg (narrow s.currentRobotBaseAngle)])
  else ({ s with latestCmdVel := some msg }, [])

def syncCallback (m : Libm K) (narrow : K → K) (yaw : K) (s : State K) :
    State K × List (Twist K) :=
  match s.latestCmdVel with
  | none => (s, [])
  | some currentCmdVel =>
      let s := { s with currentRobotBaseAngle := yaw }
      let yawDiff := narrow s.currentRobotBaseAngle
      (s, [transformVelocity m s.spinSpeed currentCmdVel yawDiff])

/-- One callback: the members afterwards, and what is published on the chassis topic. -/
def step (m : Libm K) (narrow : K → K) (s : State K) : Event K → State K × List (Twist K)
  | .cmdSpin data => (cmdSpinCallback data s, [])
  | .odometry yaw now => (odometryCallback yaw now s, [])
  | .cmdVel msg now => cmdVelCallback m narrow msg now s
  | .localPlan now => (localPlanCallback now s, [])
  | .sync yaw => syncCallback m narrow yaw s

/-! ## What a node has been told

Read off the events so far, newest first.
-/

/-- The command received last. -/
def lastReceived : List (Event K) → Option (Twist K)
  | [] => none
  | .cmdVel msg _ :: _ => some msg
  | _ :: past => lastReceived past

/-- When the controller was last heard of. -/
def lastActivation : List (Event K) → ℤ
  | [] => 0
  | .localPlan now :: _ => now
  | _ :: past => lastActivation past

/-- A command published at once: it is zero, or the controller has timed out. -/
def publishedDirectly (past : List (Event K)) (msg : Twist K) (now : ℤ) : Bool :=
  isZeroVel msg || timedOut (lastActivation past) now

/-- Some command was left for `syncCallback`. -/
def someWaited : List (Event K) → Bool
  | [] => false
  | .cmdVel msg now :: past => !publishedDirectly past msg now || someWaited past
  | _ :: past => someWaited past

/-- The command received last was published directly, after another had been left for
`syncCallback`. -/
def overtaken : List (Event K) → Bool
  | [] => false
  | .cmdVel msg now :: past => publishedDirectly past msg now && someWaited past
  | _ :: past => overtaken past

end SentryNav.FakeVelTransform
