import SentryNav.Core.Machine
import SentryNav.RosTime
import SentryNav.TerrainAnalysis.Grid
import Mathlib.Data.Rat.Sqrt

/-!
# `terrain_analysis`

The program keeps the latest pose of the vehicle and the latest registered scan, cropped.  An
iteration of the main loop with a new scan rolls the grid over, stacks the scan on it, filters the
cells that are due, and takes the cells near the centre as the terrain cloud.

The ground estimation on the terrain cloud is not part of this module.  `sqrt` and the voxel filter
of PCL are parameters.  The seconds of a stamp are rounded as the program rounds them; everything
else is in exact arithmetic.
-/

namespace SentryNav.TerrainAnalysis

open Loop PointerArray Raster

variable {K : Type*} [Field K] [LinearOrder K]

/-- The parameters that decide what is in the grid. -/
structure Params (K : Type*) where
  decayTime : K
  noDecayDis : K
  clearingDis : K
  voxelPointUpdateThre : ℤ
  voxelTimeUpdateThre : K
  minRelZ : K
  maxRelZ : K
  disRatioZ : K

/-- The values with which the program declares them. -/
def Params.declared : Params K where
  decayTime := 2.0
  noDecayDis := 4.0
  clearingDis := 8.0
  voxelPointUpdateThre := 100
  voxelTimeUpdateThre := 2.0
  minRelZ := -1.5
  maxRelZ := 0.2
  disRatioZ := 0.2

/-- `downSizeFilter`: a point that it puts out lies between points that it got, in each
coordinate. -/
structure VoxelGrid (K : Type*) [LinearOrder K] where
  filter : List (Point K) → List (Point K)
  between : ∀ cloud, ∀ point ∈ filter cloud,
    ((∃ a ∈ cloud, a.x ≤ point.x) ∧ ∃ b ∈ cloud, point.x ≤ b.x) ∧
      (∃ a ∈ cloud, a.y ≤ point.y) ∧ ∃ b ∈ cloud, point.y ≤ b.y

/-- A voxel filter for clouds with no two points in a voxel. -/
def VoxelGrid.sparse (K : Type*) [LinearOrder K] : VoxelGrid K where
  filter cloud := cloud
  between _ point hpoint := ⟨⟨⟨point, hpoint, le_rfl⟩, point, hpoint, le_rfl⟩,
    ⟨point, hpoint, le_rfl⟩, point, hpoint, le_rfl⟩

/-- The global variables of the program. -/
structure Node (K : Type*) (width : ℕ) where
  laserCloudTime : K
  newlaserCloud : Bool
  systemInitTime : K
  systemInited : Bool
  noDataInited : ℕ
  vehicleX : K
  vehicleY : K
  vehicleZ : K
  vehicleXRec : K
  vehicleYRec : K
  clearingDis : K
  clearingCloud : Bool
  laserCloudCrop : List (Point K)
  terrain : Terrain K width
  terrainCloud : List (Point K)

/-- The program when it enters the main loop. -/
def Node.init (p : Params K) (width : ℕ) : Node K width where
  laserCloudTime := 0
  newlaserCloud := false
  systemInitTime := 0
  systemInited := false
  noDataInited := 0
  vehicleX := 0
  vehicleY := 0
  vehicleZ := 0
  vehicleXRec := 0
  vehicleYRec := 0
  clearingDis := p.clearingDis
  clearingCloud := false
  laserCloudCrop := []
  terrain := Terrain.init K width
  terrainCloud := []

/-! ## Messages -/

section Handlers

variable {width : ℕ} (sqrt : K → K) (p : Params K)

/-- `odometryHandler`, for the position. -/
def odometryHandler (n : Node K width) (x y z : K) : Node K width :=
  let n := { n with vehicleX := x, vehicleY := y, vehicleZ := z }
  let n :=
    if n.noDataInited = 0 then
      { n with vehicleXRec := n.vehicleX, vehicleYRec := n.vehicleY, noDataInited := 1 }
    else n
  if n.noDataInited = 1 then
    let dis := sqrt ((n.vehicleX - n.vehicleXRec) * (n.vehicleX - n.vehicleXRec)
      + (n.vehicleY - n.vehicleYRec) * (n.vehicleY - n.vehicleYRec))
    if p.noDecayDis ≤ dis then { n with noDataInited := 2 } else n
  else n

/-- The distance of a point from the vehicle in the plane. -/
def Node.dis (n : Node K width) (point : Point K) : K :=
  sqrt ((point.x - n.vehicleX) * (point.x - n.vehicleX)
    + (point.y - n.vehicleY) * (point.y - n.vehicleY))

/-- The height of a point, seen from the vehicle, is of interest. -/
def Node.HeightInRange (n : Node K width) (point : Point K) : Prop :=
  p.minRelZ - p.disRatioZ * n.dis sqrt point < point.z - n.vehicleZ ∧
    point.z - n.vehicleZ < p.maxRelZ + p.disRatioZ * n.dis sqrt point

instance (n : Node K width) (point : Point K) : Decidable (n.HeightInRange sqrt p point) :=
  inferInstanceAs (Decidable (_ ∧ _))

/-- `laserCloudHandler`. -/
def laserCloudHandler [FloorRing K] (g : Grid K) (n : Node K width) (stamp : ℤ)
    (laserCloud : List (Point K)) : Node K width :=
  let n := { n with laserCloudTime := seconds stamp }
  let n :=
    if n.systemInited then n
    else { n with systemInitTime := n.laserCloudTime, systemInited := true }
  let inCrop := fun point =>
    n.HeightInRange sqrt p point ∧ n.dis sqrt point < g.voxelSize * (g.halfWidth + 1)
  { n with
    laserCloudCrop := (laserCloud.filter fun point => decide (inCrop point)).map fun point =>
      { point with intensity := n.laserCloudTime - n.systemInitTime }
    newlaserCloud := true }

/-- `joystickHandler`, for the sixth button. -/
def joystickHandler (n : Node K width) (button : ℤ) : Node K width :=
  if (0.5 : K) < button then { n with noDataInited := 0, clearingCloud := true } else n

/-- `clearingHandler`. -/
def clearingHandler (n : Node K width) (dis : K) : Node K width :=
  { n with noDataInited := 0, clearingDis := dis, clearingCloud := true }

end Handlers

/-! ## Main loop -/

section MainLoop

variable [FloorRing K] (sqrt : K → K) (vg : VoxelGrid K) (p : Params K) (g : Grid K)

/-- The cell for a point, by its place around the vehicle. -/
def Grid.cellOf (n : Node K g.width) (point : Point K) : Option (Fin (g.width * g.width)) :=
  cell? g.width (bin g.voxelSize (point.x - n.vehicleX) + g.halfWidth)
    (bin g.voxelSize (point.y - n.vehicleY) + g.halfWidth)

/-- Stack a point of the scan. -/
def Grid.stack (n : Node K g.width) (t : Terrain K g.width) (point : Point K) :
    Terrain K g.width :=
  match g.cellOf n point with
  | none => t
  | some ind =>
      { t with
        cells := t.cells.modify ind (· ++ [point])
        updateNum := Function.update t.updateNum ind (t.updateNum ind + 1)
        log := .pushed (t.cells.ptr ind) :: t.log }

variable {width : ℕ}

/-- A point that came out of the voxel filter is kept. -/
def Node.Keeps (n : Node K width) (point : Point K) : Prop :=
  n.HeightInRange sqrt p point ∧
    (n.laserCloudTime - n.systemInitTime - point.intensity < p.decayTime
      ∨ n.dis sqrt point < p.noDecayDis) ∧
    ¬ (n.dis sqrt point < n.clearingDis ∧ n.clearingCloud = true)

instance (n : Node K width) (point : Point K) : Decidable (n.Keeps sqrt p point) :=
  inferInstanceAs (Decidable (_ ∧ _ ∧ _))

/-- What is kept of a cloud. -/
def Node.kept (n : Node K width) (cloud : List (Point K)) : List (Point K) :=
  (vg.filter cloud).filter fun point => decide (n.Keeps sqrt p point)

/-- A cell is to be filtered, by the number of points that it got and by the time of its last
update. -/
def Node.Due (n : Node K width) (updateNum : ℕ) (updateTime : K) : Prop :=
  p.voxelPointUpdateThre ≤ updateNum ∨
    p.voxelTimeUpdateThre ≤ n.laserCloudTime - n.systemInitTime - updateTime ∨
    n.clearingCloud = true

instance (n : Node K width) (updateNum : ℕ) (updateTime : K) :
    Decidable (n.Due p updateNum updateTime) :=
  inferInstanceAs (Decidable (_ ∨ _ ∨ _))

/-- Filter a cell if it is due. -/
def Node.filterCell (n : Node K width) (t : Terrain K width) (ind : Fin (width * width)) :
    Terrain K width :=
  if n.Due p (t.updateNum ind) (t.updateTime ind) then
    let now := n.laserCloudTime - n.systemInitTime
    let cloud := n.kept sqrt vg p (t.cells.deref ind)
    { t with
      cells := t.cells.modify ind fun _ => cloud
      updateNum := Function.update t.updateNum ind 0
      updateTime := Function.update t.updateTime ind now
      log := .filtered (t.cells.ptr ind) now cloud.length :: t.log }
  else t

/-- The indices that are not more than five from the centre. -/
def Grid.near : List ℤ := (List.range 11).map fun (k : ℕ) => (g.halfWidth : ℤ) - 5 + k

/-- The clouds of the cells near the centre, one after the other. -/
def Grid.terrainCloud (t : Terrain K g.width) : List (Point K) :=
  g.near.flatMap fun indX => g.near.flatMap fun indY =>
    (cell? g.width indX indY).elim [] t.cells.deref

/-- What an iteration does with the grid; the roll-over always ends. -/
def Grid.update (n : Node K g.width) : Terrain K g.width :=
  match g.rollOver n.vehicleX n.vehicleY n.terrain with
  | none => n.terrain
  | some t => (List.finRange (g.width * g.width)).foldl (n.filterCell sqrt vg p)
      (n.laserCloudCrop.foldl (g.stack n) t)

/-- An iteration of the main loop. -/
def Grid.iterate (n : Node K g.width) : Node K g.width :=
  if n.newlaserCloud then
    { n with
      newlaserCloud := false
      terrain := g.update sqrt vg p n
      terrainCloud := g.terrainCloud (g.update sqrt vg p n)
      clearingCloud := false }
  else n

/-- What can happen, from the start of the main loop on. -/
inductive Event (K : Type*)
  | odometry (x y z : K)
  | laserCloud (stamp : ℤ) (laserCloud : List (Point K))
  | joystick (button : ℤ)
  | clearing (dis : K)
  /-- An iteration, when the messages that have arrived are handled. -/
  | iterate

/-- What happens then. -/
def Grid.step (n : Node K g.width) : Event K → Node K g.width
  | .odometry x y z => odometryHandler sqrt p n x y z
  | .laserCloud stamp laserCloud => laserCloudHandler sqrt p g n stamp laserCloud
  | .joystick button => joystickHandler n button
  | .clearing dis => clearingHandler n dis
  | .iterate => g.iterate sqrt vg p n

/-- The program after some events. -/
def Grid.reached (events : List (Event K)) : Node K g.width :=
  Machine.run (g.step sqrt vg p) (Node.init p g.width) events

end MainLoop

/-- The program in exact arithmetic, with the declared parameters, on sparse clouds. -/
def exactRun (events : List (Event ℚ)) : Node ℚ (Grid.terrainAnalysis ℚ).width :=
  (Grid.terrainAnalysis ℚ).reached Rat.sqrt (.sparse ℚ) .declared events

end SentryNav.TerrainAnalysis
