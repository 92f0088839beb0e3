import SentryNav.Core.Loop
import SentryNav.Core.PointerArray
import SentryNav.Core.Raster
import Mathlib.Data.Rat.Floor

/-!
# The rolling terrain grid

`terrainVoxelCloud` is a square grid of point clouds around the vehicle.  When the vehicle has gone
more than a voxel from the centre, the grid rolls over: the pointers are moved along by one voxel,
and the clouds that fall out at one edge are emptied and used again at the other.

The two programs `terrain_analysis` and `terrain_analysis_ext` run the same code on grids of
different size, so the size is a parameter.  A pointer is a number; the clouds themselves are in
`Cells.obj`.  `log` records what happens to the clouds, in the order in which it happens, newest
first: it is there to state things, and no function of the programs reads it.
-/

namespace SentryNav.TerrainAnalysis

open Loop PointerArray Raster

/-- `pcl::PointXYZI`. -/
structure Point (K : Type*) where
  x : K
  y : K
  z : K
  intensity : K
deriving DecidableEq

/-- What happens to a cloud. -/
inductive CloudEvent (K : Type*)
  /-- A point is pushed back. -/
  | pushed (cloud : ℕ)
  /-- It is filtered at some time, and this many points are kept. -/
  | filtered (cloud : ℕ) (time : K) (kept : ℕ)
  /-- It is emptied by a roll-over. -/
  | emptied (cloud : ℕ)

/-- The terrain voxel variables of a program, the clouds being numbered. -/
structure Terrain (K : Type*) (width : ℕ) where
  /-- `terrainVoxelShiftX` and `terrainVoxelShiftY`. -/
  shiftX : ℤ
  shiftY : ℤ
  /-- `terrainVoxelCloud`. -/
  cells : Cells (Fin (width * width)) ℕ (List (Point K))
  /-- `terrainVoxelUpdateNum` and `terrainVoxelUpdateTime`. -/
  updateNum : Fin (width * width) → ℕ
  updateTime : Fin (width * width) → K
  log : List (CloudEvent K)

/-- The variables when `main` has made the clouds. -/
def Terrain.init (K : Type*) [Zero K] (width : ℕ) : Terrain K width where
  shiftX := 0
  shiftY := 0
  cells := { ptr := fun ind => ind, obj := fun _ => [] }
  updateNum _ := 0
  updateTime _ := 0
  log := []

/-- What the log says of a cloud: how many points were pushed into it since it was last filtered,
made or emptied; and when it was last filtered, if it holds points from then. -/
structure History (K : Type*) where
  pushed : ℕ
  keptAt : Option K

/-- A new or an emptied cloud. -/
def History.new {K : Type*} : History K := ⟨0, none⟩

/-- The history of a cloud. -/
def historyOf {K : Type*} (cloud : ℕ) : List (CloudEvent K) → History K
  | [] => .new
  | .pushed other :: log =>
      let before := historyOf cloud log
      if other = cloud then { before with pushed := before.pushed + 1 } else before
  | .filtered other time kept :: log =>
      if other = cloud then { pushed := 0, keptAt := if kept = 0 then none else some time }
      else historyOf cloud log
  | .emptied other :: log => if other = cloud then .new else historyOf cloud log

/-- The histories of the clouds, by the places that hold them. -/
def Terrain.history {K : Type*} {width : ℕ} (t : Terrain K width) :
    Cells (Fin (width * width)) ℕ (History K) where
  ptr := t.cells.ptr
  obj cloud := historyOf cloud t.log

/-- One pass of an outer loop of the roll-over, on the cells of a row or a column. -/
def Terrain.recycle {K : Type*} {width : ℕ} (t : Terrain K width)
    (strip : List (Fin (width * width))) : Terrain K width :=
  { t with
    cells := t.cells.recycle [] strip
    log := (strip.head?.map fun first => .emptied (t.cells.ptr first)).toList ++ t.log }

/-! ## Cells -/

lemma cell_lt {width : ℕ} (indX indY : Fin width) : width * indX + indY < width * width := by
  have hX := indX.isLt
  have hY := indY.isLt
  nlinarith

/-- The cell in a column and a row. -/
def cell {width : ℕ} (indX indY : Fin width) : Fin (width * width) :=
  ⟨width * indX + indY, cell_lt indX indY⟩

/-- The cell with some indices, if they are in the grid. -/
def cell? (width : ℕ) (ix iy : ℤ) : Option (Fin (width * width)) :=
  if h : Inside width ix iy then
    some (cell ⟨ix.toNat, h.toNat_lt.1⟩ ⟨iy.toNat, h.toNat_lt.2⟩)
  else none

/-- The cells along one axis, for each place across it, by the way in which they are addressed. -/
def strips {width : ℕ} (place : Fin width → Fin width → Fin (width * width)) :
    List (List (Fin (width * width))) :=
  (List.finRange width).map fun across => (List.finRange width).map fun along => place along across

/-! ## Roll over -/

section Roll

variable {K : Type*} {width : ℕ} (t : Terrain K width)

/-- A pass of the loop that rolls to smaller `x`: each row is moved along from the far end on. -/
def Terrain.rollLeft : Terrain K width :=
  { (strips fun along indY => cell along.rev indY).foldl Terrain.recycle t with
    shiftX := t.shiftX - 1 }

/-- A pass of the loop that rolls to larger `x`. -/
def Terrain.rollRight : Terrain K width :=
  { (strips fun along indY => cell along indY).foldl Terrain.recycle t with
    shiftX := t.shiftX + 1 }

/-- A pass of the loop that rolls to smaller `y`. -/
def Terrain.rollDown : Terrain K width :=
  { (strips fun along indX => cell indX along.rev).foldl Terrain.recycle t with
    shiftY := t.shiftY - 1 }

/-- A pass of the loop that rolls to larger `y`. -/
def Terrain.rollUp : Terrain K width :=
  { (strips fun along indX => cell indX along).foldl Terrain.recycle t with
    shiftY := t.shiftY + 1 }

end Roll

variable {K : Type*} [Field K] [LinearOrder K]

/-- The constants of a grid. -/
structure Grid (K : Type*) [Field K] [LinearOrder K] where
  /-- `terrainVoxelWidth`. -/
  width : ℕ
  /-- `terrainVoxelSize`. -/
  voxelSize : K
  width_pos : 0 < width
  voxelSize_pos : 0 < voxelSize

lemma one_point_zero_pos [IsStrictOrderedRing K] : (0 : K) < 1.0 := by norm_num

lemma two_point_zero_pos [IsStrictOrderedRing K] : (0 : K) < 2.0 := by norm_num

/-- The grid of `terrain_analysis`. -/
def Grid.terrainAnalysis (K : Type*) [Field K] [LinearOrder K] [IsStrictOrderedRing K] :
    Grid K where
  width := 21
  voxelSize := 1.0
  width_pos := Nat.succ_pos 20
  voxelSize_pos := one_point_zero_pos

/-- The grid of `terrain_analysis_ext`. -/
def Grid.terrainAnalysisExt (K : Type*) [Field K] [LinearOrder K] [IsStrictOrderedRing K] :
    Grid K where
  width := 41
  voxelSize := 2.0
  width_pos := Nat.succ_pos 40
  voxelSize_pos := two_point_zero_pos

/-- `terrainVoxelHalfWidth`. -/
def Grid.halfWidth (g : Grid K) : ℕ := (g.width - 1) / 2

section RollOver

variable [FloorRing K] (g : Grid K)

/-- Passes that are enough for the loops along an axis. -/
def Grid.fuel (vehicle : K) (shift : ℤ) : ℕ :=
  ⌈|vehicle - g.voxelSize * shift| / g.voxelSize⌉₊ + 1

/-- The terrain voxel roll over, loop by loop; `none` if one were to run out of fuel. -/
def Grid.rollOver (vehicleX vehicleY : K) (t : Terrain K g.width) : Option (Terrain K g.width) := do
  let t ← loop (whileBody (fun t => vehicleX - g.voxelSize * t.shiftX < -g.voxelSize)
    Terrain.rollLeft) (g.fuel vehicleX t.shiftX) t
  let t ← loop (whileBody (fun t => g.voxelSize < vehicleX - g.voxelSize * t.shiftX)
    Terrain.rollRight) (g.fuel vehicleX t.shiftX) t
  let t ← loop (whileBody (fun t => vehicleY - g.voxelSize * t.shiftY < -g.voxelSize)
    Terrain.rollDown) (g.fuel vehicleY t.shiftY) t
  loop (whileBody (fun t => g.voxelSize < vehicleY - g.voxelSize * t.shiftY)
    Terrain.rollUp) (g.fuel vehicleY t.shiftY) t

end RollOver

end SentryNav.TerrainAnalysis
