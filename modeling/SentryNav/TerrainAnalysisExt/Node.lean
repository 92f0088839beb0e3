import SentryNav.TerrainAnalysis.TerrainMap
import SentryNav.TerrainAnalysisExt.ConnectedTerrain

/-!
# `terrain_analysis_ext`

The program keeps a larger grid than `terrain_analysis`, by the same loops, so the variables of the
grid and what an iteration does to it are those of that program.  Its map is made of two parts: away
from the vehicle, the points of its own terrain cloud that are near the ground and over terrain that
is connected; near the vehicle, the points of the last map that came from `terrain_analysis`, as
they are.
-/

namespace SentryNav.TerrainAnalysisExt

open Raster
open TerrainAnalysis (Point VoxelGrid Grid GroundParams cell? around TerrainMap)

variable {K : Type*} [Field K] [LinearOrder K]

def planarVoxelSize (K : Type*) [Field K] : K := 0.4

/-- The parameters of the program; in `terrain` the bounds for heights are `lowerBoundZ` and
`upperBoundZ`. -/
structure MapParams (K : Type*) extends Params K where
  terrain : TerrainAnalysis.Params K
  useSorting : Bool
  quantileZ : K
  vehicleHeight : K
  localTerrainMapRadius : K

/-- The values with which the program declares them. -/
def MapParams.declared : MapParams K where
  toParams := .declared
  terrain :=
    { decayTime := 10.0
      noDecayDis := 0
      clearingDis := 30.0
      voxelPointUpdateThre := 100
      voxelTimeUpdateThre := 2.0
      minRelZ := -1.5
      maxRelZ := 1.0
      disRatioZ := 0.1 }
  useSorting := false
  quantileZ := 0.25
  vehicleHeight := 1.5
  localTerrainMapRadius := 4.0

/-- The parameters as the ground estimation of `terrain_analysis` has them, without its limit to the
lift of the ground and without no-data obstacles. -/
def MapParams.ground (p : MapParams K) : GroundParams K where
  toParams := p.terrain
  useSorting := p.useSorting
  quantileZ := p.quantileZ
  limitGroundLift := false
  maxGroundLift := 0
  noDataObstacle := false
  noDataBlockSkipNum := 0
  minBlockPointNum := 0
  vehicleHeight := p.vehicleHeight

/-- The global variables of the program. -/
structure Node (K : Type*) (width : ℕ) extends TerrainAnalysis.Node K width where
  terrainCloudLocal : List (Point K)

/-- The program when it enters the main loop. -/
def Node.init (p : MapParams K) (width : ℕ) : Node K width where
  toNode := .init p.terrain width
  terrainCloudLocal := []

/-! ## Ground -/

section Ground

variable [FloorRing K] (sqrt : K → K) (p : MapParams K) {width : ℕ} (n : Node K width)

/-- `indX` or `indY` of a point, from its place relative to the vehicle. -/
def planarIndex (d : K) : ℤ := bin (planarVoxelSize K) d + planarVoxelHalfWidth

/-- One pass of the two inner loops: a height is pushed back, if there is a voxel. -/
def pushElev (z : K) (ix iy : ℤ) (pointElev : PlanarVoxel → List K) (d : ℤ × ℤ) :
    PlanarVoxel → List K :=
  match voxelAt? (ix + d.1) (iy + d.2) with
  | none => pointElev
  | some i => Function.update pointElev i (pointElev i ++ [z])

/-- One pass of the loop over the terrain cloud. -/
def Node.enter (pointElev : PlanarVoxel → List K) (point : Point K) : PlanarVoxel → List K :=
  if n.HeightInRange sqrt p.terrain point then
    around.foldl (pushElev point.z (planarIndex (point.x - n.vehicleX))
      (planarIndex (point.y - n.vehicleY))) pointElev
  else pointElev

/-- `planarPointElev`, when all points have been entered. -/
def Node.planarPointElev : PlanarVoxel → List K :=
  n.terrainCloud.foldl (n.enter sqrt p) fun _ => []

/-- `planarVoxelElev`, from the heights in a voxel. -/
def planarVoxelElev (heights : List K) : K :=
  (if p.useSorting then TerrainAnalysis.quantileElev? p.ground heights
    else TerrainAnalysis.lowestElev? heights).getD 0

/-- The planar voxels when the connectivity has been checked. -/
def Node.planar : Option (Option (Planar K)) :=
  let pointElev := n.planarPointElev sqrt p
  checkConnectivity p.toParams n.vehicleZ
    (Planar.start (fun i => planarVoxelElev p (pointElev i)) pointElev)

/-- One pass of the loop that fills `terrainCloudElev` beyond the radius. -/
def Node.elevate (s : Planar K) (terrainCloudElev : List (Point K)) (point : Point K) :
    List (Point K) :=
  if n.HeightInRange sqrt p.terrain point ∧ p.localTerrainMapRadius < n.dis sqrt point then
    match voxelAt? (planarIndex (point.x - n.vehicleX))
        (planarIndex (point.y - n.vehicleY)) with
    | none => terrainCloudElev
    | some i =>
        let disZ := |point.z - s.elev i|
        if disZ < p.vehicleHeight ∧ (s.conn i = 2 ∨ p.checkTerrainConn = false) then
          terrainCloudElev ++ [{ point with intensity := disZ }]
        else terrainCloudElev
  else terrainCloudElev

/-- One pass of the loop that merges in the local terrain map. -/
def Node.mergeLocal (terrainCloudElev : List (Point K)) (point : Point K) : List (Point K) :=
  if n.dis sqrt point ≤ p.localTerrainMapRadius then terrainCloudElev ++ [point]
  else terrainCloudElev

/-- `terrainCloudElev` at the end of an iteration. -/
def Node.terrainCloudElev (s : Planar K) : List (Point K) :=
  n.terrainCloudLocal.foldl (n.mergeLocal sqrt p)
    (n.terrainCloud.foldl (n.elevate sqrt p s) [])

end Ground

/-! ## The program -/

section Program

variable [FloorRing K] (sqrt : K → K) (vg : VoxelGrid K) (p : MapParams K) (g : Grid K)

/-- The indices that are not more than ten from the centre. -/
def near : List ℤ := (List.range 21).map fun (k : ℕ) => (g.halfWidth : ℤ) - 10 + k

/-- The clouds of the cells near the centre, one after the other. -/
def terrainCloud (t : TerrainAnalysis.Terrain K g.width) : List (Point K) :=
  (near g).flatMap fun indX => (near g).flatMap fun indY =>
    (cell? g.width indX indY).elim [] t.cells.deref

/-- An iteration of the main loop with a new scan, up to the terrain cloud. -/
def iterate (n : Node K g.width) : Node K g.width :=
  { n with
    newlaserCloud := false
    terrain := g.update sqrt vg p.terrain n.toNode
    terrainCloud := terrainCloud g (g.update sqrt vg p.terrain n.toNode)
    clearingCloud := false }

/-- What can happen. -/
inductive Event (K : Type*)
  | odometry (x y z : K)
  | laserCloud (stamp : ℤ) (cloud : List (Point K))
  | terrainCloudLocal (cloud : List (Point K))
  | joystick (button : ℤ)
  | clearing (dis : K)
  | iterate

/-- What happens then, and what is published. -/
def step (n : Node K g.width) : Event K → Node K g.width × List (TerrainMap K)
  | .odometry x y z => ({ n with vehicleX := x, vehicleY := y, vehicleZ := z }, [])
  | .laserCloud stamp cloud =>
      ({ n with
        toNode := TerrainAnalysis.laserCloudHandler sqrt p.terrain g n.toNode stamp cloud }, [])
  | .terrainCloudLocal cloud => ({ n with terrainCloudLocal := cloud }, [])
  | .joystick button =>
      (if (0.5 : K) < button then { n with clearingCloud := true } else n, [])
  | .clearing dis => ({ n with clearingDis := dis, clearingCloud := true }, [])
  | .iterate =>
      if n.newlaserCloud then
        let n' := iterate sqrt vg p g n
        (n', match n'.planar sqrt p with
          | some (some s) =>
              [{ stamp := stampOfSeconds n'.laserCloudTime
                 frameId := "odom"
                 points := n'.terrainCloudElev sqrt p s }]
          | _ => [])
      else (n, [])

end Program

end SentryNav.TerrainAnalysisExt
