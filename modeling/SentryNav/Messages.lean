import Mathlib.Algebra.Group.Defs

/-!
# Message types and the C math library

The message types that several packages exchange, over any type of numbers, with the values a
default-constructed message holds.  The functions of `<cmath>` are a parameter, `Libm`: exact
statements take the real functions for it.
-/

namespace SentryNav

/-- `std_msgs::msg::Header`. -/
structure Header where
  stamp : ℤ
  frameId : String
deriving DecidableEq

instance : Inhabited Header := ⟨⟨0, ""⟩⟩

/-- `geometry_msgs::msg::Vector3` and `Point`. -/
structure Vector3 (K : Type*) where
  x : K
  y : K
  z : K
deriving DecidableEq

/-- `geometry_msgs::msg::Quaternion`. -/
structure Quaternion (K : Type*) where
  x : K
  y : K
  z : K
  w : K
deriving DecidableEq

/-- `geometry_msgs::msg::Twist`. -/
structure Twist (K : Type*) where
  linear : Vector3 K
  angular : Vector3 K
deriving DecidableEq

/-- `geometry_msgs::msg::TwistStamped`. -/
structure TwistStamped (K : Type*) where
  header : Header
  twist : Twist K
deriving DecidableEq

/-- `geometry_msgs::msg::Pose`. -/
structure Pose (K : Type*) where
  position : Vector3 K
  orientation : Quaternion K
deriving DecidableEq

/-- `geometry_msgs::msg::PoseStamped`. -/
structure PoseStamped (K : Type*) where
  header : Header
  pose : Pose K
deriving DecidableEq

/-- `nav_msgs::msg::Path`. -/
structure Path (K : Type*) where
  header : Header
  poses : List (PoseStamped K)
deriving DecidableEq

section Default

variable {K : Type*} [Zero K] [One K]

instance : Inhabited (Vector3 K) := ⟨⟨0, 0, 0⟩⟩
instance : Inhabited (Quaternion K) := ⟨⟨0, 0, 0, 1⟩⟩
instance : Inhabited (Twist K) := ⟨⟨default, default⟩⟩
instance : Inhabited (Pose K) := ⟨⟨default, default⟩⟩
instance : Inhabited (PoseStamped K) := ⟨⟨default, default⟩⟩

end Default

/-- The functions of `<cmath>` that the packages call. -/
structure Libm (K : Type*) where
  sqrt : K → K
  cos : K → K
  sin : K → K
  hypot : K → K → K
  atan2 : K → K → K

end SentryNav
