import SentryNav.Core.Loop
import SentryNav.Core.Raster

/-!
# `terrain_analysis_ext`: terrain connectivity

When the elevations of the planar voxels have been computed, the program finds out which of them
belong to the ground that the vehicle stands on, and removes the ceiling.  From the vehicle's voxel
it spreads by a queue of indices: a voxel taken from the queue gets `2` in `planarVoxelConn`; of the
voxels around it that have a `0` and hold points, those at nearly the same elevation get `1` and are
pushed, and those much higher or lower get `-1`.

The arrays are read and written through indices; an index for which there is no place ends the model
with `none`.
-/

namespace SentryNav.TerrainAnalysisExt

open Loop Raster

variable {K : Type*} [Field K] [LinearOrder K]

def planarVoxelWidth : ℕ := 101

def planarVoxelHalfWidth : ℕ := (planarVoxelWidth - 1) / 2

def kPlanarVoxelNum : ℕ := planarVoxelWidth * planarVoxelWidth

/-- A place of the planar voxel arrays. -/
abbrev PlanarVoxel : Type := Fin kPlanarVoxelNum

/-- The place with an index, if there is one. -/
def place? (ind : ℤ) : Option PlanarVoxel :=
  if h : 0 ≤ ind ∧ ind < kPlanarVoxelNum then some ⟨ind.toNat, (Int.toNat_lt h.1).mpr h.2⟩
  else none

/-- The parameters of the connectivity check. -/
structure Params (K : Type*) where
  checkTerrainConn : Bool
  terrainUnderVehicle : K
  terrainConnThre : K
  ceilingFilteringThre : K

/-- The values with which the program declares them. -/
def Params.declared : Params K where
  checkTerrainConn := true
  terrainUnderVehicle := -0.75
  terrainConnThre := 0.5
  ceilingFilteringThre := 2.0

/-- The planar voxel variables. -/
structure Planar (K : Type*) where
  /-- `planarVoxelElev`. -/
  elev : PlanarVoxel → K
  /-- `planarPointElev`. -/
  pointElev : PlanarVoxel → List K
  /-- `planarVoxelConn`. -/
  conn : PlanarVoxel → ℤ
  /-- `planarVoxelQueue`. -/
  queue : List ℤ
  /-- What has been pushed, newest first; no function of the program reads it. -/
  pushed : List ℤ

/-- The variables before the check. -/
def Planar.start (elev : PlanarVoxel → K) (pointElev : PlanarVoxel → List K) : Planar K where
  elev := elev
  pointElev := pointElev
  conn _ := 0
  queue := []
  pushed := []

/-- `planarVoxelQueue.push(ind)` and `planarVoxelConn[ind] = 1`. -/
def Planar.push (s : Planar K) (ind : PlanarVoxel) : Planar K :=
  { s with
    queue := s.queue ++ [(ind : ℤ)]
    conn := Function.update s.conn ind 1
    pushed := (ind : ℤ) :: s.pushed }

/-- The innermost `if` of the loops: a voxel that was taken from the queue meets one near it. -/
def meetVoxel (p : Params K) (front : PlanarVoxel) (s : Planar K) (ind : PlanarVoxel) : Planar K :=
  if s.conn ind = 0 ∧ 0 < (s.pointElev ind).length then
    if |s.elev front - s.elev ind| < p.terrainConnThre then s.push ind
    else if p.ceilingFilteringThre < |s.elev front - s.elev ind| then
      { s with conn := Function.update s.conn ind (-1) }
    else s
  else s

/-- What `dX` and `dY` run through. -/
def window : List ℤ := (List.range 21).map fun i : ℕ => (i : ℤ) - 10

/-- One pass of the two inner loops. -/
def lookAround (p : Params K) (front : PlanarVoxel) (s : Planar K) (d : ℤ × ℤ) :
    Option (Planar K) :=
  let indX := (front : ℤ).tdiv planarVoxelWidth
  let indY := (front : ℤ).tmod planarVoxelWidth
  if Inside planarVoxelWidth (indX + d.1) (indY + d.2) then
    (place? (planarVoxelWidth * (indX + d.1) + indY + d.2)).map (meetVoxel p front s)
  else some s

/-- One pass of the `while` loop. -/
def visitFront (p : Params K) (s : Planar K) (front : ℤ) : Option (Planar K) :=
  (place? front).bind fun cell =>
    let s := { s with conn := Function.update s.conn cell 2, queue := s.queue.tail }
    (window ×ˢ window).foldlM (lookAround p cell) s

/-- The body of the `while` loop, its condition included. -/
def connBody (p : Params K) (s : Planar K) : Pass (Planar K) (Option (Planar K)) :=
  match s.queue with
  | [] => .leave (some s)
  | front :: _ =>
      match visitFront p s front with
      | none => .leave none
      | some s => .again s

/-- The connectivity check; `none` if the loop were to run out of fuel, and none inside if an index
were out of range. -/
def checkConnectivity (p : Params K) (vehicleZ : K) (s : Planar K) : Option (Option (Planar K)) :=
  if p.checkTerrainConn then
    match place? (planarVoxelWidth * planarVoxelHalfWidth + planarVoxelHalfWidth) with
    | none => some none
    | some ind =>
        let s :=
          if (s.pointElev ind).length = 0 then
            { s with elev := Function.update s.elev ind (vehicleZ + p.terrainUnderVehicle) }
          else s
        loop (connBody p) (kPlanarVoxelNum + 1) (s.push ind)
  else some (some s)

end SentryNav.TerrainAnalysisExt
