import SentryNav.Core.Raster
import SentryNav.Core.Window
import SentryNav.Messages

/-!
# `IntensityVoxelLayer`

A layer of the costmap that is built anew in every cycle: `updateBounds` resets the maps, marks the
cells under enough of the observed points, clears the footprint of the robot, and extends the window
in which the layers are to be combined to the places that it marks or clears.

The layer is derived from `ObstacleLayer`, `CostmapLayer` and `Costmap2D` of Nav2, and marks voxels
with `nav2_voxel_grid`.  What it calls there is `Nav2Costmap`, a parameter; `resetMaps` sets the
default value everywhere, and `touch` extends the window to a place.  Publishing the voxels is not
part of this model.
-/

namespace SentryNav.Nav2Plugins

open Raster

variable {K : Type*} [Field K] [LinearOrder K] [FloorRing K]

/-- `FREE_SPACE`. -/
def freeSpace : UInt8 := 0

/-- `LETHAL_OBSTACLE`. -/
def lethalObstacle : UInt8 := 254

/-- `Costmap2D`.  A cell, in a column and a row, stands for its index. -/
structure Costmap2D (K : Type*) [Field K] [LinearOrder K] where
  sizeX : ℕ
  sizeY : ℕ
  resolution : K
  originX : K
  originY : K
  defaultValue : UInt8
  costmap : ℕ × ℕ → UInt8
  resolution_pos : 0 < resolution

/-- The cells that there are. -/
def Costmap2D.InMap (m : Costmap2D K) (cell : ℕ × ℕ) : Prop := cell.1 < m.sizeX ∧ cell.2 < m.sizeY

instance (m : Costmap2D K) (cell : ℕ × ℕ) : Decidable (m.InMap cell) :=
  inferInstanceAs (Decidable (_ ∧ _))

/-- The column of a coordinate, which may be off the map. -/
def Costmap2D.column (m : Costmap2D K) (x : K) : ℤ := ⌊(x - m.originX) / m.resolution⌋

/-- The row of a coordinate. -/
def Costmap2D.row (m : Costmap2D K) (y : K) : ℤ := ⌊(y - m.originY) / m.resolution⌋

/-- A point of an observed cloud. -/
structure CloudPoint (K : Type*) where
  x : K
  y : K
  z : K
  intensity : K

/-- `Observation`, as far as it is read. -/
structure Observation (K : Type*) where
  origin : Vector3 K
  cloud : List (CloudPoint K)
  obstacleMaxRange : K
  obstacleMinRange : K

/-- What the layer calls in Nav2; `V` is the type of the voxel grid. -/
structure Nav2Costmap (K V : Type*) [Field K] [LinearOrder K] where
  /-- `VoxelGrid::reset`. -/
  resetVoxels : V → V
  markVoxelInMap : V → ℕ → ℕ → ℕ → ℕ → V × Bool
  transformFootprint : K → K → K → List (K × K) → List (K × K)
  /-- The cells that `setConvexPolygonCost` sets. -/
  convexFillCells : Costmap2D K → List (K × K) → List (ℕ × ℕ)
  /-- `getSizeInMetersX` and `getSizeInMetersY`, from the number of cells. -/
  getSizeInMeters : Costmap2D K → ℕ → K

/-- The layer. -/
structure IntensityVoxelLayer (K V : Type*) [Field K] [LinearOrder K] extends Costmap2D K where
  enabled : Bool
  rollingWindow : Bool
  footprintClearingEnabled : Bool
  minObstacleHeight : K
  maxObstacleHeight : K
  minObstacleIntensity : K
  maxObstacleIntensity : K
  sizeZ : ℕ
  originZ : K
  zResolution : K
  markThreshold : ℕ
  /-- What `getFootprint` gives. -/
  footprint : List (K × K)
  current : Bool
  voxelGrid : V
  transformedFootprint : List (K × K)

/-- What a call of `updateBounds` is given, and what it gets from its base classes. -/
structure Call (K : Type*) where
  robotX : K
  robotY : K
  robotYaw : K
  /-- What `useExtraBounds` makes of the window. -/
  useExtraBounds : Window K → Window K
  /-- What `getMarkingObservations` says and gives. -/
  current : Bool
  observations : List (Observation K)

variable {V : Type*} (nav2 : Nav2Costmap K V)

namespace IntensityVoxelLayer

/-- `worldToMap3D`. -/
def worldToMap3D (l : IntensityVoxelLayer K V) (wx wy wz : K) : Option (ℕ × ℕ × ℕ) :=
  if wx < l.originX ∨ wy < l.originY ∨ wz < l.originZ then none
  else
    let mx := (trunc ((wx - l.originX) / l.resolution)).toNat
    let my := (trunc ((wy - l.originY) / l.resolution)).toNat
    let mz := (trunc ((wz - l.originZ) / l.zResolution)).toNat
    if mx < l.sizeX ∧ my < l.sizeY ∧ mz < l.sizeZ then some (mx, my, mz) else none

/-- The voxel to mark for a point of an observation, if it is not skipped. -/
def voxelOf (l : IntensityVoxelLayer K V) (obs : Observation K) (point : CloudPoint K) :
    Option (ℕ × ℕ × ℕ) :=
  let sqObstacleMaxRange := obs.obstacleMaxRange * obs.obstacleMaxRange
  let sqObstacleMinRange := obs.obstacleMinRange * obs.obstacleMinRange
  if point.z < l.minObstacleHeight ∨ l.maxObstacleHeight < point.z then none
  else if point.intensity < l.minObstacleIntensity ∨ l.maxObstacleIntensity < point.intensity then
    none
  else
    let sqDist := (point.x - obs.origin.x) * (point.x - obs.origin.x)
      + (point.y - obs.origin.y) * (point.y - obs.origin.y)
      + (point.z - obs.origin.z) * (point.z - obs.origin.z)
    if sqDist ≤ sqObstacleMinRange ∨ sqObstacleMaxRange ≤ sqDist then none
    else if point.z < l.originZ then l.worldToMap3D point.x point.y l.originZ
    else l.worldToMap3D point.x point.y point.z

/-- A pass of the inner loop, over the points of an observation. -/
def markPoint (obs : Observation K) (s : IntensityVoxelLayer K V × Window K)
    (point : CloudPoint K) : IntensityVoxelLayer K V × Window K :=
  match s.1.voxelOf obs point with
  | none => s
  | some (mx, my, mz) =>
      let marked := nav2.markVoxelInMap s.1.voxelGrid mx my mz s.1.markThreshold
      let l := { s.1 with voxelGrid := marked.1 }
      if marked.2 then
        ({ l with costmap := Function.update l.costmap (mx, my) lethalObstacle },
          s.2.touch (point.x, point.y))
      else (l, s.2)

/-- The marking loops. -/
def markObservations (s : IntensityVoxelLayer K V × Window K)
    (observations : List (Observation K)) : IntensityVoxelLayer K V × Window K :=
  observations.foldl (fun s obs => obs.cloud.foldl (markPoint nav2 obs) s) s

/-- `updateOrigin`. -/
def updateOrigin (l : IntensityVoxelLayer K V) (newOriginX newOriginY : K) :
    IntensityVoxelLayer K V :=
  let cellOx := trunc ((newOriginX - l.originX) / l.resolution)
  let cellOy := trunc ((newOriginY - l.originY) / l.resolution)
  { l with
    originX := l.originX + cellOx * l.resolution
    originY := l.originY + cellOy * l.resolution }

/-- `resetMaps`. -/
def resetMaps (l : IntensityVoxelLayer K V) : IntensityVoxelLayer K V :=
  { l with costmap := fun _ => l.defaultValue, voxelGrid := nav2.resetVoxels l.voxelGrid }

/-- `updateFootprint`. -/
def updateFootprint (s : IntensityVoxelLayer K V × Window K) (robotX robotY robotYaw : K) :
    IntensityVoxelLayer K V × Window K :=
  let l := s.1
  if l.footprintClearingEnabled then
    let polygon := nav2.transformFootprint robotX robotY robotYaw l.footprint
    let cells := nav2.convexFillCells l.toCostmap2D polygon
    ({ l with
        transformedFootprint := polygon
        costmap := cells.foldl (fun cost cell => Function.update cost cell freeSpace) l.costmap },
      s.2.touchAll polygon)
  else s

/-- `updateBounds`: the layer afterwards, and the window. -/
def updateBounds (l : IntensityVoxelLayer K V) (c : Call K) (window : Window K) :
    IntensityVoxelLayer K V × Window K :=
  let l :=
    if l.rollingWindow then
      l.updateOrigin (c.robotX - nav2.getSizeInMeters l.toCostmap2D l.sizeX / 2.0)
        (c.robotY - nav2.getSizeInMeters l.toCostmap2D l.sizeY / 2.0)
    else l
  let l := l.resetMaps nav2
  if l.enabled then
    let window := c.useExtraBounds window
    let l := { l with current := c.current }
    updateFootprint nav2 (markObservations nav2 (l, window) c.observations) c.robotX c.robotY
      c.robotYaw
  else (l, window)

end IntensityVoxelLayer

end SentryNav.Nav2Plugins
