import SentryNav.Messages
import SentryNav.TerrainAnalysis.PlanarVoxels

/-!
# `terrain_analysis`: the terrain map

An iteration ends with the terrain map: the points of the terrain cloud near the ground, each with
its height above the ground of its planar voxel for the intensity, and the no-data obstacles.

Voxels with dynamic obstacles are left out if `clearDyObs` is set.  A point of the terrain cloud
counts for a dynamic obstacle if it stands high and the sensor could see it now, and counts at once
for enough if it is very near; a voxel in which the latest scan still has a high point is cleared
again.  The heights and the counts are collected in one loop of the source, in separate arrays; here
they are two loops.
-/

namespace SentryNav.TerrainAnalysis

variable {K : Type*} [Field K] [LinearOrder K]

/-- The parameters of the terrain map. -/
structure MapParams (K : Type*) extends GroundParams K where
  considerDrop : Bool
  clearDyObs : Bool
  minDyObsDis : K
  minDyObsAngle : K
  minDyObsRelZ : K
  absDyObsRelZThre : K
  minDyObsVFOV : K
  maxDyObsVFOV : K
  minDyObsPointNum : ℤ

/-- The values with which the program declares them. -/
def MapParams.declared : MapParams K where
  toGroundParams := .declared
  considerDrop := false
  clearDyObs := false
  minDyObsDis := 0.3
  minDyObsAngle := 0
  minDyObsRelZ := -0.5
  absDyObsRelZThre := 0.2
  minDyObsVFOV := -16.0
  maxDyObsVFOV := 16.0
  minDyObsPointNum := 1

/-- The variables of the program, with those for the attitude of the vehicle. -/
structure MapNode (K : Type*) (width : ℕ) extends Node K width where
  sinVehicleRoll : K
  cosVehicleRoll : K
  sinVehiclePitch : K
  cosVehiclePitch : K
  sinVehicleYaw : K
  cosVehicleYaw : K

/-- The program when it enters the main loop. -/
def MapNode.init (p : MapParams K) (width : ℕ) : MapNode K width where
  toNode := .init p.toParams width
  sinVehicleRoll := 0
  cosVehicleRoll := 0
  sinVehiclePitch := 0
  cosVehiclePitch := 0
  sinVehicleYaw := 0
  cosVehicleYaw := 0

variable {width : ℕ}

/-- `odometryHandler`, with the angles that `getRPY` finds. -/
def MapNode.odometryHandler (m : Libm K) (p : MapParams K) (n : MapNode K width)
    (x y z roll pitch yaw : K) : MapNode K width where
  toNode := TerrainAnalysis.odometryHandler m.sqrt p.toParams n.toNode x y z
  sinVehicleRoll := m.sin roll
  cosVehicleRoll := m.cos roll
  sinVehiclePitch := m.sin pitch
  cosVehiclePitch := m.cos pitch
  sinVehicleYaw := m.sin yaw
  cosVehicleYaw := m.cos yaw

/-! ## Dynamic obstacles -/

section DynamicObstacles

variable (m : Libm K) (pi : K) (p : MapParams K) (n : MapNode K width)

/-- `angle1` exceeds its bound: a point stands high, seen from `minDyObsRelZ` above the vehicle. -/
def MapNode.High (point : Point K) : Prop :=
  p.minDyObsAngle
    < m.atan2 (point.z - n.vehicleZ - p.minDyObsRelZ) (n.dis m.sqrt point) * 180.0 / pi

/-- The sensor could see a point, turned into its frame. -/
def MapNode.InView (point : Point K) : Prop :=
  let pointX1 := point.x - n.vehicleX
  let pointY1 := point.y - n.vehicleY
  let pointZ1 := point.z - n.vehicleZ
  let pointX2 := pointX1 * n.cosVehicleYaw + pointY1 * n.sinVehicleYaw
  let pointY2 := -pointX1 * n.sinVehicleYaw + pointY1 * n.cosVehicleYaw
  let pointZ2 := pointZ1
  let pointX3 := pointX2 * n.cosVehiclePitch - pointZ2 * n.sinVehiclePitch
  let pointY3 := pointY2
  let pointZ3 := pointX2 * n.sinVehiclePitch + pointZ2 * n.cosVehiclePitch
  let pointX4 := pointX3
  let pointY4 := pointY3 * n.cosVehicleRoll + pointZ3 * n.sinVehicleRoll
  let pointZ4 := -pointY3 * n.sinVehicleRoll + pointZ3 * n.cosVehicleRoll
  let dis4 := m.sqrt (pointX4 * pointX4 + pointY4 * pointY4)
  let angle4 := m.atan2 pointZ4 dis4 * 180.0 / pi
  p.minDyObsVFOV < angle4 ∧ angle4 < p.maxDyObsVFOV ∨ |pointZ4| < p.absDyObsRelZThre

instance (point : Point K) : Decidable (n.High m pi p point) := inferInstanceAs (Decidable (_ < _))

instance (point : Point K) : Decidable (n.InView m pi p point) :=
  inferInstanceAs (Decidable (_ ∨ _))

variable [FloorRing K]

/-- The planar voxel of a point, if there is one. -/
def Node.planarVoxel (n : Node K width) (point : Point K) : Option PlanarVoxel :=
  cell? planarVoxelWidth (planarIndex (point.x - n.vehicleX)) (planarIndex (point.y - n.vehicleY))

/-- One pass of the loop over the terrain cloud, on `planarVoxelDyObs`. -/
def MapNode.countDyObs (planarVoxelDyObs : PlanarVoxel → ℤ) (point : Point K) : PlanarVoxel → ℤ :=
  match n.planarVoxel point with
  | none => planarVoxelDyObs
  | some i =>
      if p.minDyObsDis < n.dis m.sqrt point then
        if n.High m pi p point then
          if n.InView m pi p point then
            Function.update planarVoxelDyObs i (planarVoxelDyObs i + 1)
          else planarVoxelDyObs
        else planarVoxelDyObs
      else Function.update planarVoxelDyObs i (planarVoxelDyObs i + p.minDyObsPointNum)

/-- One pass of the loop over the scan. -/
def MapNode.clearDyObs (planarVoxelDyObs : PlanarVoxel → ℤ) (point : Point K) : PlanarVoxel → ℤ :=
  match n.planarVoxel point with
  | none => planarVoxelDyObs
  | some i =>
      if n.High m pi p point then Function.update planarVoxelDyObs i 0 else planarVoxelDyObs

/-- `planarVoxelDyObs`, when both loops have been run. -/
def MapNode.planarVoxelDyObs : PlanarVoxel → ℤ :=
  if p.clearDyObs then
    n.laserCloudCrop.foldl (n.clearDyObs m pi p)
      (n.terrainCloud.foldl (n.countDyObs m pi p) fun _ => 0)
  else fun _ => 0

end DynamicObstacles

/-! ## Points with their heights -/

section Heights

variable [FloorRing K] (m : Libm K) (pi : K) (p : MapParams K) (n : MapNode K width)

/-- One pass of the loop that fills `terrainCloudElev`. -/
def Node.elevate (p : MapParams K) (n : Node K width) (planarVoxelDyObs : PlanarVoxel → ℤ)
    (planarVoxelElev : PlanarVoxel → K) (pointElev : PlanarVoxel → List K)
    (terrainCloudElev : List (Point K)) (point : Point K) : List (Point K) :=
  if n.InBand p.toGroundParams point then
    match n.planarVoxel point with
    | none => terrainCloudElev
    | some i =>
        if planarVoxelDyObs i < p.minDyObsPointNum ∨ p.clearDyObs = false then
          let disZ := point.z - planarVoxelElev i
          let disZ := if p.considerDrop then |disZ| else disZ
          if 0 ≤ disZ ∧ disZ < p.vehicleHeight ∧ p.minBlockPointNum ≤ (pointElev i).length then
            terrainCloudElev ++ [{ point with intensity := disZ }]
          else terrainCloudElev
        else terrainCloudElev
  else terrainCloudElev

/-- `terrainCloudElev` at the end of an iteration. -/
def MapNode.terrainCloudElev : List (Point K) :=
  let pointElev := n.planarPointElev p.toGroundParams
  n.noDataObstacles p.toGroundParams pointElev <|
    n.terrainCloud.foldl (n.elevate p (n.planarVoxelDyObs m pi p)
      (planarVoxelElev p.toGroundParams pointElev) pointElev) []

end Heights

/-! ## The program -/

/-- What can happen. -/
inductive MapEvent (K : Type*)
  | odometry (x y z roll pitch yaw : K)
  | laserCloud (stamp : ℤ) (cloud : List (Point K))
  | joystick (button : ℤ)
  | clearing (dis : K)
  | iterate

/-- The message that is published. -/
structure TerrainMap (K : Type*) where
  stamp : ℤ
  frameId : String
  points : List (Point K)

variable [FloorRing K] (m : Libm K) (pi : K) (vg : VoxelGrid K) (p : MapParams K) (g : Grid K)

/-- What happens then, and what is published. -/
def Grid.mapStep (n : MapNode K g.width) : MapEvent K → MapNode K g.width × List (TerrainMap K)
  | .odometry x y z roll pitch yaw => (n.odometryHandler m p x y z roll pitch yaw, [])
  | .laserCloud stamp cloud =>
      ({ n with toNode := laserCloudHandler m.sqrt p.toParams g n.toNode stamp cloud }, [])
  | .joystick button => ({ n with toNode := joystickHandler n.toNode button }, [])
  | .clearing dis => ({ n with toNode := clearingHandler n.toNode dis }, [])
  | .iterate =>
      let n' := { n with toNode := g.iterate m.sqrt vg p.toParams n.toNode }
      (n', if n.newlaserCloud then
          [{ stamp := stampOfSeconds n'.laserCloudTime
             frameId := "odom"
             points := n'.terrainCloudElev m pi p }]
        else [])

end SentryNav.TerrainAnalysis
