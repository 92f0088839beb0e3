import SentryNav.PursuitController.Controller
import Mathlib.Logic.Function.Basic

/-!
# Parameters by name

`configure` declares its parameters at the node and reads their values into members;
`dynamicParametersCallback` stores new values in the members, one parameter after the other, and
always reports success.  Both go by the names of the parameters, which begin with that of the
plugin.

A parameter keeps the type that it was declared with, so the node has a table for each type.
-/

namespace SentryNav.PursuitController

variable {K : Type*}

/-- The parameters of a node, by their names. -/
structure ParameterServer (K : Type*) where
  double : String → K
  bool : String → Bool

/-- `rclcpp::ParameterValue`, as far as the callback looks at it. -/
inductive ParameterValue (K : Type*)
  | double (v : K)
  | bool (b : Bool)
  | other

/-- `rclcpp::Parameter`. -/
structure Parameter (K : Type*) where
  name : String
  value : ParameterValue K

/-- The node has accepted a new value. -/
def ParameterServer.set (server : ParameterServer K) (parameter : Parameter K) :
    ParameterServer K :=
  match parameter.value with
  | .double v => { server with double := Function.update server.double parameter.name v }
  | .bool b => { server with bool := Function.update server.bool parameter.name b }
  | .other => server

/-! ## Reading -/

section Configure

variable [Field K]

/-- What `configure` reads, from the values of the parameters without the name of the plugin. -/
def Params.ofValues (controlFrequency : K) (double : String → K) (bool : String → Bool) :
    Params K where
  translationKp := double ".translation_kp"
  translationKi := double ".translation_ki"
  translationKd := double ".translation_kd"
  enableRotation := bool ".enable_rotation"
  rotationKp := double ".rotation_kp"
  rotationKi := double ".rotation_ki"
  rotationKd := double ".rotation_kd"
  minMaxSumError := double ".min_max_sum_error"
  controlDuration := 1 / controlFrequency
  maxRobotPoseSearchDist := double ".max_robot_pose_search_dist"
  useInterpolation := bool ".use_interpolation"
  lookaheadDist := double ".lookahead_dist"
  useVelocityScaledLookaheadDist := bool ".use_velocity_scaled_lookahead_dist"
  minLookaheadDist := double ".min_lookahead_dist"
  maxLookaheadDist := double ".max_lookahead_dist"
  lookaheadTime := double ".lookahead_time"
  useRotateToHeading := bool ".use_rotate_to_heading"
  useRotateToHeadingTreshold := double ".use_rotate_to_heading_treshold"
  vLinearMin := double ".v_linear_min"
  vLinearMax := double ".v_linear_max"
  vAngularMin := double ".v_angular_min"
  vAngularMax := double ".v_angular_max"
  minApproachLinearVelocity := double ".min_approach_linear_velocity"
  approachVelocityScalingDist := double ".approach_velocity_scaling_dist"
  curvatureMin := double ".curvature_min"
  curvatureMax := double ".curvature_max"
  reductionRatioAtHighCurvature := double ".reduction_ratio_at_high_curvature"
  curvatureForwardDist := double ".curvature_forward_dist"
  curvatureBackwardDist := double ".curvature_backward_dist"
  maxVelocityScalingFactorRate := double ".max_velocity_scaling_factor_rate"
  transformTolerance := double ".transform_tolerance"

/-- The `get_parameter` calls of `configure`. -/
def Params.get (pluginName : String) (server : ParameterServer K) : Params K :=
  .ofValues (server.double "controller_frequency") (fun name => server.double (pluginName ++ name))
    (fun name => server.bool (pluginName ++ name))

/-- The doubles that `configure` declares, with their defaults. -/
def declaredDoubles (costmapMaxExtent : K) : List (String × K) :=
  [(".translation_kp", 3.0),
    (".translation_ki", 0.1),
    (".translation_kd", 0.3),
    (".rotation_kp", 3.0),
    (".rotation_ki", 0.1),
    (".rotation_kd", 0.3),
    (".transform_tolerance", 0.1),
    (".min_max_sum_error", 1.0),
    (".lookahead_dist", 0.3),
    (".min_lookahead_dist", 0.2),
    (".max_lookahead_dist", 1.0),
    (".lookahead_time", 1.0),
    (".use_rotate_to_heading_treshold", 0.1),
    (".min_approach_linear_velocity", 0.05),
    (".approach_velocity_scaling_dist", 0.6),
    (".v_linear_min", -3.0),
    (".v_linear_max", 3.0),
    (".v_angular_min", -3.0),
    (".v_angular_max", 3.0),
    (".max_robot_pose_search_dist", costmapMaxExtent),
    (".curvature_min", 0.4),
    (".curvature_max", 0.7),
    (".reduction_ratio_at_high_curvature", 0.5),
    (".curvature_forward_dist", 0.7),
    (".curvature_backward_dist", 0.3),
    (".max_velocity_scaling_factor_rate", 0.9)]

/-- The booleans that `configure` declares, with their defaults. -/
def declaredBools : List (String × Bool) :=
  [(".enable_rotation", true),
    (".use_velocity_scaled_lookahead_dist", true),
    (".use_interpolation", true),
    (".use_rotate_to_heading", true)]

/-- A node on which nothing but the declarations has set a parameter. -/
def ParameterServer.declared (pluginName : String) (controlFrequency costmapMaxExtent : K) :
    ParameterServer K where
  double name :=
    if name = "controller_frequency" then controlFrequency
    else
      (((declaredDoubles costmapMaxExtent).find? fun parameter =>
        name = pluginName ++ parameter.1).map Prod.snd).getD 0
  bool name :=
    ((declaredBools.find? fun parameter =>
      name = pluginName ++ parameter.1).map Prod.snd).getD false

end Configure

/-! ## Updates -/

/-- The doubles that `dynamicParametersCallback` handles, each with the member it is stored in. -/
def doubleMembers : List (String × (K → Params K → Params K)) :=
  [(".translation_kp", fun v p => { p with translationKp := v }),
    (".translation_ki", fun v p => { p with translationKi := v }),
    (".translation_kd", fun v p => { p with translationKd := v }),
    (".rotation_kp", fun v p => { p with rotationKp := v }),
    (".rotation_ki", fun v p => { p with rotationKi := v }),
    (".rotation_kd", fun v p => { p with rotationKd := v }),
    (".transform_tolerance", fun v p => { p with transformTolerance := v }),
    (".min_max_sum_error", fun v p => { p with minMaxSumError := v }),
    (".lookahead_dist", fun v p => { p with lookaheadDist := v }),
    (".min_lookahead_dist", fun v p => { p with minLookaheadDist := v }),
    (".max_lookahead_dist", fun v p => { p with maxLookaheadDist := v }),
    (".lookahead_time", fun v p => { p with lookaheadTime := v }),
    (".use_rotate_to_heading_treshold", fun v p => { p with useRotateToHeadingTreshold := v }),
    (".min_approach_linear_velocity", fun v p => { p with minApproachLinearVelocity := v }),
    (".approach_velocity_scaling_dist", fun v p => { p with approachVelocityScalingDist := v }),
    (".v_linear_max", fun v p => { p with vLinearMax := v }),
    (".v_linear_min", fun v p => { p with vLinearMin := v }),
    (".v_angular_max", fun v p => { p with vAngularMax := v }),
    (".v_angular_min", fun v p => { p with vAngularMin := v }),
    (".curvature_min", fun v p => { p with curvatureMin := v }),
    (".curvature_max", fun v p => { p with curvatureMax := v }),
    (".reduction_ratio_at_high_curvature",
      fun v p => { p with reductionRatioAtHighCurvature := v }),
    (".curvature_forward_dist", fun v p => { p with curvatureForwardDist := v }),
    (".curvature_backward_dist", fun v p => { p with curvatureBackwardDist := v }),
    (".max_velocity_scaling_factor_rate", fun v p => { p with maxVelocityScalingFactorRate := v })]

/-- The booleans that it handles. -/
def boolMembers : List (String × (Bool → Params K → Params K)) :=
  [(".use_velocity_scaled_lookahead_dist",
      fun b p => { p with useVelocityScaledLookaheadDist := b }),
    (".use_interpolation", fun b p => { p with useInterpolation := b }),
    (".use_rotate_to_heading", fun b p => { p with useRotateToHeading := b })]

/-- The comparisons of a name with those in a table, and the assignment for the first that fits. -/
def assign {α : Type*} (members : List (String × (α → Params K → Params K))) (pluginName : String)
    (name : String) (v : α) (p : Params K) : Params K :=
  match members.find? fun member => name = pluginName ++ member.1 with
  | some member => member.2 v p
  | none => p

/-- One pass of the loop in `dynamicParametersCallback`. -/
def storeParameter (pluginName : String) (p : Params K) (parameter : Parameter K) : Params K :=
  match parameter.value with
  | .double v => assign doubleMembers pluginName parameter.name v p
  | .bool b => assign boolMembers pluginName parameter.name b p
  | .other => p

/-- `dynamicParametersCallback`: `result.successful`, and the controller afterwards. -/
def dynamicParametersCallback (pluginName : String) (parameters : List (Parameter K))
    (c : Controller K) : Bool × Controller K :=
  (true, { c with params := parameters.foldl (storeParameter pluginName) c.params })

/-- The callback handles a parameter: its name is in the table for its type. -/
def Handled (pluginName : String) (parameter : Parameter K) : Prop :=
  match parameter.value with
  | .double _ => ∃ member ∈ doubleMembers (K := K), parameter.name = pluginName ++ member.1
  | .bool _ => ∃ member ∈ boolMembers (K := K), parameter.name = pluginName ++ member.1
  | .other => False

end SentryNav.PursuitController
