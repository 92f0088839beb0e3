import SentryNav.Core.Machine
import SentryNav.Core.Raster
import SentryNav.Messages
import Mathlib.Data.Rat.Cast.OfScientific

/-!
# `TeleopTwistJoyNode`

The node turns the axes of a joystick into velocity commands, gimbal targets and shoot commands.
Which axis drives what, and at which scale, is in maps of parameters, one map of scales for each of
the two buttons; a message has as many axes and buttons as the joystick has, so every read of one
looks whether it is there.

An axis or a button with a negative number passes that test, and the vector is read before its
beginning: what is found there is part of the event.  So is the outcome of the transform lookup that
`auto_control` needs.  One reading of the clock, in nanoseconds, stands for those of one call.
-/

namespace SentryNav.TeleopTwistJoy

open Raster

variable {K : Type*} [Field K] [LinearOrder K]

/-- The keys of `scale_chassis_map_` and `scale_gimbal_map_`. -/
inductive WhichMap
  | normal
  | turbo
deriving DecidableEq

/-- The members read from parameters. -/
structure Config (K : Type*) where
  publishStampedTwist : Bool
  robotBaseFrame : String
  requireEnableButton : Bool
  enableButton : ℤ
  enableTurboButton : ℤ
  invertedReverse : Bool
  controlMode : String
  axisChassisMap : List (String × ℤ)
  axisGimbalMap : List (String × ℤ)
  scaleChassisMap : WhichMap → List (String × K)
  scaleGimbalMap : WhichMap → List (String × K)

/-- What the constructor declares. -/
def Config.declared : Config K where
  publishStampedTwist := false
  robotBaseFrame := "base_link"
  requireEnableButton := true
  enableButton := 5
  enableTurboButton := -1
  invertedReverse := false
  controlMode := "manual_control"
  axisChassisMap := [("x", 5), ("y", -1), ("yaw", -1)]
  axisGimbalMap := [("yaw", 3), ("pitch", 4), ("roll", -1), ("shoot", 5)]
  scaleChassisMap
    | .normal => [("x", 0.5), ("y", 0.0), ("yaw", 0.0)]
    | .turbo => [("x", 1.0), ("y", 0.0), ("yaw", 0.0)]
  scaleGimbalMap
    | .normal => [("yaw", 0.5), ("pitch", 0.0), ("roll", 0.0), ("shoot", 1.0)]
    | .turbo => [("yaw", 1.0), ("pitch", 0.0), ("roll", 0.0), ("shoot", 1.0)]

/-- `sensor_msgs::msg::JointState`, without the fields that stay empty. -/
structure JointState (K : Type*) where
  header : Header
  name : List String
  position : List K
deriving DecidableEq

/-- A message on `joy`, with what else the callback comes across. -/
structure JoyEvent (K : Type*) where
  axes : List K
  buttons : List ℤ
  /-- What a read outside of the axes yields. -/
  outsideAxes : ℤ → K
  /-- What a read outside of the buttons yields. -/
  outsideButtons : ℤ → ℤ
  now : ℤ
  /-- `lookupTransform("map", robot_base_frame_)`, as what `doTransform` does with it. -/
  transform : Option (PoseStamped K → PoseStamped K)

/-- What is published, and what is asked of `navigate_to_pose`. -/
inductive Output (K : Type*)
  | cmdVel (msg : Twist K)
  | cmdVelStamped (msg : TwistStamped K)
  | cmdGimbalJoint (msg : JointState K)
  /-- The data of the message; none if it is undefined. -/
  | cmdShoot (data : Option UInt8)
  | sendGoal (pose : PoseStamped K)
  | cancelGoalsBefore (stamp : ℤ)

/-- The members that change, and the variables in the functions that are `static`. -/
structure State (K : Type*) where
  sentDisableMsg : Bool
  dt : K
  lastTime : Option ℤ
  pitch : K
  yaw : K
  lastGoalTime : Option ℤ

/-- A node that has been constructed: two members have no initialiser. -/
def State.init (sentDisableMsg : Bool) (dt : K) : State K where
  sentDisableMsg := sentDisableMsg
  dt := dt
  lastTime := none
  pitch := 0
  yaw := 0
  lastGoalTime := none

/-! ## Reading the message -/

/-- `static_cast<int>` of a size. -/
def toInt (size : ℕ) : ℤ := Int.bmod size (2 ^ 32)

/-- `operator[]` of a vector. -/
def vectorAt {α : Type*} (xs : List α) (outside : ℤ → α) (i : ℤ) : α :=
  if 0 ≤ i then xs.getD i.toNat (outside i) else outside i

/-- A button is there and pressed. -/
def buttonDown (joy : JoyEvent K) (i : ℤ) : Bool :=
  i < toInt joy.buttons.length && vectorAt joy.buttons joy.outsideButtons i != 0

def getVal (joy : JoyEvent K) (axisMap : List (String × ℤ)) (scaleMap : List (String × K))
    (fieldname : String) : K :=
  match axisMap.lookup fieldname, scaleMap.lookup fieldname with
  | some axis, some scale =>
      if axis = -1 ∨ toInt joy.axes.length ≤ axis then 0
      else vectorAt joy.axes joy.outsideAxes axis * scale
  | _, _ => 0

/-- Assigning to a `uint8_t` cuts off the fraction, and is undefined for what does not fit. -/
def toUInt8 [FloorRing K] (v : K) : Option UInt8 :=
  if 0 ≤ trunc v ∧ trunc v < 256 then some (UInt8.ofNat (trunc v).toNat) else none

/-- Seconds between two readings of the clock. -/
def seconds (duration : ℤ) : K := duration * 1e-9

section

variable (cfg : Config K) (joy : JoyEvent K)

def fillShootMsg [FloorRing K] (which : WhichMap) : Option UInt8 :=
  toUInt8 (getVal joy cfg.axisGimbalMap (cfg.scaleGimbalMap which) "shoot")

def fillCmdVelMsg (which : WhichMap) : Twist K :=
  let linX := getVal joy cfg.axisChassisMap (cfg.scaleChassisMap which) "x"
  let angZ := getVal joy cfg.axisChassisMap (cfg.scaleChassisMap which) "yaw"
  { linear :=
      { x := linX
        y := getVal joy cfg.axisChassisMap (cfg.scaleChassisMap which) "y"
        z := getVal joy cfg.axisChassisMap (cfg.scaleChassisMap which) "z" }
    angular :=
      { x := getVal joy cfg.axisChassisMap (cfg.scaleChassisMap which) "roll"
        y := getVal joy cfg.axisChassisMap (cfg.scaleChassisMap which) "pitch"
        z := if linX < 0 ∧ cfg.invertedReverse then -angZ else angZ } }

/-- Integrates the axes into the angles that are sent. -/
def fillJointStateMsg (which : WhichMap) (s : State K) : State K × JointState K :=
  let pitch := s.pitch + getVal joy cfg.axisGimbalMap (cfg.scaleGimbalMap which) "pitch" * s.dt
  let yaw := s.yaw + getVal joy cfg.axisGimbalMap (cfg.scaleGimbalMap which) "yaw" * s.dt
  ({ s with pitch := pitch, yaw := yaw },
    { header := ⟨joy.now, ""⟩
      name := ["gimbal_pitch_joint", "gimbal_yaw_joint"]
      position := [pitch, yaw] })

/-! ## The callback -/

/-- A velocity command, on the topic of the type that is published. -/
def publishCmdVel (twist : Twist K) : Output K :=
  if cfg.publishStampedTwist then .cmdVelStamped ⟨⟨joy.now, cfg.robotBaseFrame⟩, twist⟩
  else .cmdVel twist

def sendGoalPoseAction (which : WhichMap) (s : State K) : State K × List (Output K) :=
  let x := getVal joy cfg.axisChassisMap (cfg.scaleChassisMap which) "x"
  let y := getVal joy cfg.axisChassisMap (cfg.scaleChassisMap which) "y"
  if |x| ≤ 0.1 ∧ |y| ≤ 0.1 then ({ s with sentDisableMsg := true }, [])
  else
    match joy.transform with
    | none => (s, [])
    | some doTransform =>
        let gimbalPose : PoseStamped K := ⟨default, ⟨⟨x, y, 0⟩, default⟩⟩
        let lastGoalTime := s.lastGoalTime.getD joy.now
        if 0.25 ≤ (seconds (joy.now - lastGoalTime) : K) then
          ({ s with lastGoalTime := some joy.now }, [.sendGoal (doTransform gimbalPose)])
        else ({ s with lastGoalTime := some lastGoalTime }, [])

def sendCmdVelMsg (which : WhichMap) (s : State K) : State K × List (Output K) :=
  let moved :=
    if cfg.controlMode = "manual_control" then
      (s, [publishCmdVel cfg joy (fillCmdVelMsg cfg joy which)])
    else sendGoalPoseAction cfg joy which s
  let joint := fillJointStateMsg cfg joy which moved.1
  ({ joint.1 with sentDisableMsg := true }, moved.2 ++ [.cmdGimbalJoint joint.2])

def sendZeroCommand : List (Output K) :=
  (if cfg.controlMode = "auto_control" then [.cancelGoalsBefore joy.now] else [])
    ++ [publishCmdVel cfg joy default]

/-- The last branch of `joyCallback`: when the enable button is released, a single command without
motion is sent. -/
def stop (s : State K) : State K × List (Output K) :=
  if s.sentDisableMsg then ({ s with sentDisableMsg := false }, sendZeroCommand cfg joy)
  else (s, [])

/-- The part of `joyCallback` that looks at the buttons. -/
def moveOrStop (s : State K) : State K × List (Output K) :=
  if 0 ≤ cfg.enableTurboButton && buttonDown joy cfg.enableTurboButton then
    sendCmdVelMsg cfg joy .turbo s
  else if !cfg.requireEnableButton || buttonDown joy cfg.enableButton then
    sendCmdVelMsg cfg joy .normal s
  else stop cfg joy s

end

/-- The part of it that takes the time since the last call. -/
def measureTime (joy : JoyEvent K) (s : State K) : State K :=
  { s with dt := seconds (joy.now - s.lastTime.getD joy.now), lastTime := some joy.now }

def joyCallback [FloorRing K] (cfg : Config K) (s : State K) (joy : JoyEvent K) :
    State K × List (Output K) :=
  let moved := moveOrStop cfg joy (measureTime joy s)
  (moved.1, moved.2 ++ [.cmdShoot (fillShootMsg cfg joy .normal)])

end SentryNav.TeleopTwistJoy
