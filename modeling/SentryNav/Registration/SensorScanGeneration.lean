import SentryNav.Core.Rigid
import SentryNav.Messages

/-!
# Clouds, odometry, and `SensorScanGenerationNode`

The messages on the way from the odometry source to the terrain chain, and the node at the end of
it: given the odometry message of the lidar and a cloud in the odometry frame, it publishes the pose
of the chassis and of the robot base, and the cloud taken back into the lidar frame.

A pose message holds a position and a quaternion.  The model leaves its contents open and asks of
tf2's conversions only that a transform written to a message is read back from it (`PoseCodec`),
which holds for rigid transforms without rounding.
-/

namespace SentryNav.Registration

/-- `nav_msgs::msg::Odometry`, as far as it is read; `P` is the type of pose messages. -/
structure Odometry (P : Type*) where
  header : Header
  childFrameId : String
  pose : P

/-- A cloud message with points of some type. -/
structure Cloud (α : Type*) where
  header : Header
  points : List α

/-- `pcl::PointXYZI`. -/
structure PointXYZI (K : Type*) where
  xyz : Fin 3 → K
  intensity : K

variable {K P : Type*} [CommRing K]

/-- The conversions of tf2 between pose messages and rigid transforms. -/
structure PoseCodec (K P : Type*) [CommRing K] where
  toMsg : Rigid K → P
  fromMsg : P → Rigid K
  fromMsg_toMsg : ∀ T, fromMsg (toMsg T) = T

/-- The transform is the message. -/
def PoseCodec.plain (K : Type*) [CommRing K] : PoseCodec K (Rigid K) where
  toMsg := id
  fromMsg := id
  fromMsg_toMsg _ := rfl

/-- The points of a cloud without their intensities. -/
def Cloud.positions (cloud : Cloud (PointXYZI K)) : List (Fin 3 → K) :=
  cloud.points.map PointXYZI.xyz

/-- `pcl_ros::transformPointCloud(target_frame, transform, in, out)`. -/
def transformPointCloud (targetFrame : String) (T : Rigid K) (cloud : Cloud (PointXYZI K)) :
    Cloud (PointXYZI K) where
  header := { cloud.header with frameId := targetFrame }
  points := cloud.points.map fun p => { p with xyz := T • p.xyz }

@[simp] lemma positions_transformPointCloud (targetFrame : String) (T : Rigid K)
    (cloud : Cloud (PointXYZI K)) :
    (transformPointCloud targetFrame T cloud).positions = cloud.positions.map fun p => T • p := by
  simp only [Cloud.positions, transformPointCloud, List.map_map]
  rfl

/-- `SensorScanGenerationNode::getTransform`, given what `lookupTransform` finds: the identity when
it throws. -/
def getTransform (lookup : Option (Rigid K)) : Rigid K := lookup.getD 1

/-- What `laserCloudAndOdometryHandler` hands to `publishTransform` and `publishOdometry`, and the
cloud it publishes. -/
structure ScanOutputs (K : Type*) [CommRing K] where
  odomToChassis : Rigid K
  odomToRobotBase : Rigid K
  sensorScan : Cloud (PointXYZI K)

/-- `SensorScanGenerationNode::laserCloudAndOdometryHandler`, with the outcomes of its lookups. -/
def laserCloudAndOdometryHandler (codec : PoseCodec K P) (lidarFrame : String)
    (lidarToRobotBase lidarToChassis : Option (Rigid K)) (odometryMsg : Odometry P)
    (pcdMsg : Cloud (PointXYZI K)) : ScanOutputs K :=
  let odomToLidar := codec.fromMsg odometryMsg.pose
  { odomToChassis := odomToLidar * getTransform lidarToChassis
    odomToRobotBase := odomToLidar * getTransform lidarToRobotBase
    sensorScan := transformPointCloud lidarFrame odomToLidar⁻¹ pcdMsg }

end SentryNav.Registration
