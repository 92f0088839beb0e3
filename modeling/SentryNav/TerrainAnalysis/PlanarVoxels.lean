import SentryNav.TerrainAnalysis.Node
import SentryNav.TerrainAnalysis.RollOver
import Mathlib.Data.List.ProdSigma
import Mathlib.Data.List.Sort

/-!
# `terrain_analysis`: ground estimation

The terrain cloud is sorted into planar voxels, a finer grid around the vehicle: each point is
entered, with its height, in its own voxel and in those around it.  The ground of a voxel is a
quantile of the heights there, or the least of them.  Voxels with few points can be made obstacles,
so that the robot does not drive where it has not seen the ground, but not next to voxels that have
enough.

Dynamic obstacles, and the points that are published with their height above the ground, are not
part of this model.
-/

namespace SentryNav.TerrainAnalysis

open Raster

variable {K : Type*} [Field K] [LinearOrder K] {width : ℕ}

/-! ## Planar voxels -/

def planarVoxelSize (K : Type*) [Field K] : K := 0.2

def planarVoxelWidth : ℕ := 51

def planarVoxelHalfWidth : ℕ := (planarVoxelWidth - 1) / 2

/-- A place of the planar voxel arrays. -/
abbrev PlanarVoxel : Type := Fin (planarVoxelWidth * planarVoxelWidth)

/-- The indices of a place along the axes. -/
def indX (i : PlanarVoxel) : ℤ := (i : ℤ) / planarVoxelWidth

def indY (i : PlanarVoxel) : ℤ := (i : ℤ) % planarVoxelWidth

lemma inside_index (i : PlanarVoxel) : Inside planarVoxelWidth (indX i) (indY i) :=
  inside_ediv_emod (Int.natCast_nonneg _) (Int.ofNat_lt.mpr i.isLt)

lemma index_injective {i j : PlanarVoxel} (hX : indX i = indX j) (hY : indY i = indY j) :
    i = j := by
  have hval : (i : ℤ) = j :=
    calc (i : ℤ) = planarVoxelWidth * indX i + indY i := (Int.mul_ediv_add_emod _ _).symm
      _ = planarVoxelWidth * indX j + indY j := by rw [hX, hY]
      _ = j := Int.mul_ediv_add_emod _ _
  exact Fin.ext (Int.ofNat_inj.mp hval)

lemma index_cell (a b : Fin planarVoxelWidth) : indX (cell a b) = a ∧ indY (cell a b) = b :=
  (inside_cast a b).ediv_emod

/-- The place with some indices. -/
lemma cell?_eq_some_iff {ix iy : ℤ} {i : PlanarVoxel} :
    cell? planarVoxelWidth ix iy = some i ↔ indX i = ix ∧ indY i = iy := by
  constructor
  · intro h
    obtain ⟨a, b, rfl⟩ := exists_cell i
    obtain ⟨rfl, rfl⟩ := cell?_eq_some h
    exact index_cell a b
  · rintro ⟨rfl, rfl⟩
    obtain ⟨a, b, hX, hY⟩ := (inside_index i).exists_fin
    obtain ⟨hcellX, hcellY⟩ := index_cell a b
    have hcell : cell a b = i := index_injective (hcellX.trans hX.symm) (hcellY.trans hY.symm)
    rw [hX, hY, cell?_cast, hcell]

/-- The parameters of the ground estimation. -/
structure GroundParams (K : Type*) extends Params K where
  useSorting : Bool
  quantileZ : K
  limitGroundLift : Bool
  maxGroundLift : K
  noDataObstacle : Bool
  noDataBlockSkipNum : ℤ
  minBlockPointNum : ℤ
  vehicleHeight : K

/-- The values with which the program declares them. -/
def GroundParams.declared : GroundParams K where
  toParams := .declared
  useSorting := true
  quantileZ := 0.25
  limitGroundLift := false
  maxGroundLift := 0.15
  noDataObstacle := false
  noDataBlockSkipNum := 0
  minBlockPointNum := 10
  vehicleHeight := 1.5

/-- What `dX` and `dY` run through, together. -/
def around : List (ℤ × ℤ) := [-1, 0, 1] ×ˢ [-1, 0, 1]

lemma mem_around {dX dY : ℤ} : (dX, dY) ∈ around ↔ dX.natAbs ≤ 1 ∧ dY.natAbs ≤ 1 := by
  simp only [around, List.mem_product, List.mem_cons, List.not_mem_nil, or_false]
  omega

/-! ## Heights -/

section Heights

variable [FloorRing K]

/-- `indX` or `indY` of a point, from its place relative to the vehicle. -/
def planarIndex (d : K) : ℤ := bin (planarVoxelSize K) d + planarVoxelHalfWidth

/-- The height of a point is that of ground. -/
def Node.InBand (p : GroundParams K) (n : Node K width) (point : Point K) : Prop :=
  p.minRelZ < point.z - n.vehicleZ ∧ point.z - n.vehicleZ < p.maxRelZ

instance (p : GroundParams K) (n : Node K width) (point : Point K) :
    Decidable (n.InBand p point) :=
  inferInstanceAs (Decidable (_ ∧ _))

/-- One pass of the two inner loops: a height is pushed back, if there is a voxel. -/
def pushElev (z : K) (ix iy : ℤ) (pointElev : PlanarVoxel → List K) (d : ℤ × ℤ) :
    PlanarVoxel → List K :=
  match cell? planarVoxelWidth (ix + d.1) (iy + d.2) with
  | none => pointElev
  | some i => Function.update pointElev i (pointElev i ++ [z])

/-- One pass of the loop over the terrain cloud. -/
def Node.enter (p : GroundParams K) (n : Node K width) (pointElev : PlanarVoxel → List K)
    (point : Point K) : PlanarVoxel → List K :=
  let ix := planarIndex (point.x - n.vehicleX)
  let iy := planarIndex (point.y - n.vehicleY)
  if n.InBand p point then around.foldl (pushElev point.z ix iy) pointElev else pointElev

/-- `planarPointElev`, when all points have been entered. -/
def Node.planarPointElev (p : GroundParams K) (n : Node K width) : PlanarVoxel → List K :=
  n.terrainCloud.foldl (n.enter p) fun _ => []

/-! ## Ground -/

/-- `quantileID`. -/
def quantileID (p : GroundParams K) (planarPointElevSize : ℕ) : ℤ :=
  let quantileID := trunc (p.quantileZ * planarPointElevSize)
  if quantileID < 0 then 0
  else if planarPointElevSize ≤ quantileID then planarPointElevSize - 1
  else quantileID

/-- The elevation by `useSorting`, from the heights in a voxel; `none` if there is no assignment. -/
def quantileElev? (p : GroundParams K) (heights : List K) : Option K :=
  if 0 < heights.length then
    let sorted := heights.insertionSort (· ≤ ·)
    let quantile := sorted[(quantileID p heights.length).toNat]?.getD 0
    let lowest := sorted[0]?.getD 0
    if lowest + p.maxGroundLift < quantile ∧ p.limitGroundLift = true then
      some (lowest + p.maxGroundLift)
    else some quantile
  else none

/-- One pass of the loop that looks for the least height, on `minZ` and `minID`, which is `none`
for -1. -/
def lowerElev (s : K × Option ℕ) (zj : K × ℕ) : K × Option ℕ :=
  if zj.1 < s.1 then (zj.1, some zj.2) else s

/-- The elevation without sorting. -/
def lowestElev? (heights : List K) : Option K :=
  (heights.zipIdx.foldl lowerElev (1000.0, none)).2.bind fun minID => heights[minID]?

/-- `planarVoxelElev`, from `planarPointElev`; the voxels without an assignment have the zero to
which they were cleared. -/
def planarVoxelElev (p : GroundParams K) (pointElev : PlanarVoxel → List K) (i : PlanarVoxel) : K :=
  (if p.useSorting then quantileElev? p (pointElev i) else lowestElev? (pointElev i)).getD 0

end Heights

/-! ## No-data obstacles -/

/-- One pass of the loop over the voxels in a sweep. -/
def sweepVoxel (edge : PlanarVoxel → ℕ) (i : PlanarVoxel) : PlanarVoxel → ℕ :=
  if 1 ≤ edge i then
    let edgeVoxel := around.any fun d =>
      (cell? planarVoxelWidth (indX i + d.1) (indY i + d.2)).any fun j => edge j < edge i
    if edgeVoxel then edge else Function.update edge i (edge i + 1)
  else edge

/-- `planarVoxelEdge`, when the sweeps have been made. -/
def planarVoxelEdge (p : GroundParams K) (pointElev : PlanarVoxel → List K) : PlanarVoxel → ℕ :=
  let sweep (edge : PlanarVoxel → ℕ) := (List.finRange _).foldl sweepVoxel edge
  sweep^[p.noDataBlockSkipNum.toNat] fun i =>
    if ((pointElev i).length : ℤ) < p.minBlockPointNum then 1 else 0

/-- The four points that make a voxel an obstacle. -/
def Node.obstaclePoints (p : GroundParams K) (n : Node K width) (i : PlanarVoxel) :
    List (Point K) :=
  let size := planarVoxelSize K
  let point : Point K :=
    { x := size * (indX i - planarVoxelHalfWidth : ℤ) + n.vehicleX - size / 4.0
      y := size * (indY i - planarVoxelHalfWidth : ℤ) + n.vehicleY - size / 4.0
      z := n.vehicleZ
      intensity := p.vehicleHeight }
  let point' := { point with x := point.x + size / 2.0 }
  let point'' := { point' with y := point'.y + size / 2.0 }
  [point, point', point'', { point'' with x := point''.x - size / 2.0 }]

/-- What the no-data obstacles make of `terrainCloudElev`. -/
def Node.noDataObstacles (p : GroundParams K) (n : Node K width)
    (pointElev : PlanarVoxel → List K) (terrainCloudElev : List (Point K)) : List (Point K) :=
  if p.noDataObstacle = true ∧ n.noDataInited = 2 then
    (List.finRange _).foldl (fun cloud i =>
      if p.noDataBlockSkipNum < planarVoxelEdge p pointElev i then cloud ++ n.obstaclePoints p i
      else cloud) terrainCloudElev
  else terrainCloudElev

end SentryNav.TerrainAnalysis
