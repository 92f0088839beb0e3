import SentryNav.Core.DistanceTransform
import SentryNav.TerrainAnalysis.PlanarVoxels

/-!
# Which voxels become no-data obstacles

The sweeps over `planarVoxelEdge` are a distance transform in place, with the voxels around a voxel
for its neighbours.  So a voxel gets its distance to the nearest one with enough points, in voxels
along the axis along which it is larger, as far as the sweeps reach; and those beyond become
obstacles (`noDataObstacles_spec`).  The border of the grid is no neighbour, so it does not count as
seen.
-/

namespace SentryNav.TerrainAnalysis

open DistanceTransform Raster

/-! ## Neighbours -/

/-- The distance of two voxels: how many voxels they are apart, along the axis along which it is
more. -/
def chebyshev (i j : PlanarVoxel) : ℕ := max (indX i - indX j).natAbs (indY i - indY j).natAbs

/-- The voxels around a voxel, and itself. -/
def neighbours (i : PlanarVoxel) : List PlanarVoxel :=
  around.filterMap fun d => cell? planarVoxelWidth (indX i + d.1) (indY i + d.2)

lemma mem_neighbours {i j : PlanarVoxel} : j ∈ neighbours i ↔ chebyshev i j ≤ 1 := by
  simp only [neighbours, List.mem_filterMap, mem_around, cell?_eq_some_iff, Prod.exists, chebyshev,
    max_le_iff]
  constructor
  · rintro ⟨dX, dY, hd, hX, hY⟩
    omega
  · intro hnear
    exact ⟨indX j - indX i, indY j - indY i, by omega, by omega, by omega⟩

lemma chebyshev_step {i j : PlanarVoxel} (h : j ∈ neighbours i) (goal : PlanarVoxel) :
    chebyshev i goal ≤ chebyshev j goal + 1 := by
  rw [mem_neighbours, chebyshev, max_le_iff] at h
  have hX : (indX i - indX goal).natAbs ≤ (indX j - indX goal).natAbs + 1 := by omega
  have hY : (indY i - indY goal).natAbs ≤ (indY j - indY goal).natAbs + 1 := by omega
  exact max_le (hX.trans (Nat.succ_le_succ (le_max_left _ _)))
    (hY.trans (Nat.succ_le_succ (le_max_right _ _)))

/-- An index that is nearer to another, if there is one, and between the two. -/
lemma exists_toward (a b : ℤ) :
    ∃ a', (a - a').natAbs ≤ 1 ∧ (a' - b).natAbs = (a - b).natAbs - 1 ∧
      ∀ width : ℤ, 0 ≤ a ∧ a < width → 0 ≤ b ∧ b < width → 0 ≤ a' ∧ a' < width := by
  rcases lt_trichotomy a b with hlt | rfl | hgt
  · exact ⟨a + 1, by omega, by omega, fun _ _ _ => by omega⟩
  · exact ⟨a, by omega, by omega, fun _ ha _ => ha⟩
  · exact ⟨a - 1, by omega, by omega, fun _ _ _ => by omega⟩

lemma chebyshev_closer {i goal : PlanarVoxel} (h : chebyshev i goal ≠ 0) :
    ∃ j ∈ neighbours i, chebyshev j goal < chebyshev i goal := by
  obtain ⟨hiX, hiX', hiY⟩ := inside_index i
  obtain ⟨hgoalX, hgoalX', hgoalY⟩ := inside_index goal
  obtain ⟨ix, hix, hixGoal, hixInside⟩ := exists_toward (indX i) (indX goal)
  obtain ⟨iy, hiy, hiyGoal, hiyInside⟩ := exists_toward (indY i) (indY goal)
  obtain ⟨hix0, hixLt⟩ := hixInside _ ⟨hiX, hiX'⟩ ⟨hgoalX, hgoalX'⟩
  have hinside : Inside planarVoxelWidth ix iy := ⟨hix0, hixLt, hiyInside _ hiY hgoalY⟩
  obtain ⟨a, b, rfl, rfl⟩ := hinside.exists_fin
  obtain ⟨hX, hY⟩ := cell?_eq_some_iff.mp (cell?_cast a b)
  refine ⟨cell a b, ?_, ?_⟩
  · rw [mem_neighbours, chebyshev, hX, hY]
    exact max_le hix hiy
  · rw [chebyshev, chebyshev, hX, hY, hixGoal, hiyGoal]
    rw [chebyshev] at h
    generalize (indX i - indX goal).natAbs = dX at *
    generalize (indY i - indY goal).natAbs = dY at *
    omega

/-! ## The sweeps -/

section Sweeps

variable {K : Type*} (p : GroundParams K) (pointElev : PlanarVoxel → List K)

/-- The voxels that hold at least `minBlockPointNum` points. -/
def seen : Finset PlanarVoxel :=
  Finset.univ.filter fun i => p.minBlockPointNum ≤ (pointElev i).length

/-- The distance of a voxel to the nearest one that holds enough points; infinite if none does. -/
noncomputable def distanceToSeen (i : PlanarVoxel) : ℕ∞ := infDist chebyshev (seen p pointElev) i

/-- A pass of the code raises a voxel in place. -/
lemma sweepVoxel_eq : sweepVoxel = raise neighbours := by
  funext edge i
  have hedge : (around.any fun d => (cell? planarVoxelWidth (indX i + d.1) (indY i + d.2)).any
        fun j => decide (edge j < edge i)) = true
      ↔ ∃ j ∈ neighbours i, edge j < edge i := by
    simp only [List.any_eq_true, Option.any_eq_true, decide_eq_true_eq, neighbours,
      List.mem_filterMap]
    constructor
    · rintro ⟨d, hd, j, hj, hlt⟩
      exact ⟨j, ⟨d, hd, hj⟩, hlt⟩
    · rintro ⟨j, ⟨d, hd, hj⟩, hlt⟩
      exact ⟨d, hd, j, hj, hlt⟩
  rw [sweepVoxel, raise]
  by_cases hpos : 1 ≤ edge i
  · by_cases hlower : ∃ j ∈ neighbours i, edge j < edge i
    · have hnot : ¬ ∀ j ∈ neighbours i, ¬ edge j < edge i := by
        obtain ⟨j, hj, hlt⟩ := hlower
        exact fun hall => hall j hj hlt
      rw [if_pos hpos, if_pos (hedge.mpr hlower), if_neg fun hraised => hnot hraised.2]
    · have hall : ∀ j ∈ neighbours i, ¬ edge j < edge i :=
        fun j hj hlt => hlower ⟨j, hj, hlt⟩
      rw [if_pos hpos, if_neg fun hany => hlower (hedge.mp hany), if_pos ⟨hpos, hall⟩]
  · rw [if_neg hpos, if_neg fun hraised => hpos hraised.1]

lemma isDistance_distanceToSeen : IsDistance neighbours (distanceToSeen p pointElev) :=
  isDistance_inf (seen p pointElev) (fun _ _ hj => chebyshev_step hj) fun _ _ => chebyshev_closer

/-- The voxels begin with their distances, cut off at one. -/
lemma start_eq (i : PlanarVoxel) :
    ((if ((pointElev i).length : ℤ) < p.minBlockPointNum then 1 else 0 : ℕ) : ℕ∞)
      = min 1 (distanceToSeen p pointElev i) := by
  have hseen : i ∈ seen p pointElev ↔ ¬ ((pointElev i).length : ℤ) < p.minBlockPointNum := by
    rw [seen, Finset.mem_filter_univ, not_lt]
  split
  · next hfew =>
      have hfar : ∀ j ∈ seen p pointElev, chebyshev i j ≠ 0 := by
        intro j hj hzero
        rw [chebyshev] at hzero
        have hij : i = j := index_injective (by omega) (by omega)
        exact hseen.mp (hij ▸ hj) hfew
      rw [distanceToSeen, min_eq_left (one_le_infDist hfar), Nat.cast_one]
  · next hmany =>
      have hself : chebyshev i i = 0 := by simp [chebyshev]
      rw [distanceToSeen, infDist_eq_zero (hseen.mpr hmany) hself, min_eq_right zero_le_one,
        Nat.cast_zero]

/-- **What the sweeps compute**: the distance of each voxel, as far as they reach. -/
theorem planarVoxelEdge_eq (skip : ℕ) (hskip : p.noDataBlockSkipNum = skip) (i : PlanarVoxel) :
    (planarVoxelEdge p pointElev i : ℕ∞)
      = min ((skip + 1 : ℕ) : ℕ∞) (distanceToSeen p pointElev i) := by
  rw [planarVoxelEdge, hskip, Int.toNat_natCast, sweepVoxel_eq]
  exact sweep_iterate (isDistance_distanceToSeen p pointElev) (List.nodup_finRange _)
    List.mem_finRange (start_eq p pointElev) skip i

end Sweeps

/-! ## The obstacles -/

section Obstacles

variable {K : Type*} [Field K] [LinearOrder K] {width : ℕ} (p : GroundParams K) (n : Node K width)
  (pointElev : PlanarVoxel → List K)

lemma foldl_append_if {ι β : Type*} (cond : ι → Prop) [DecidablePred cond] (f : ι → List β)
    (l : List ι) (start : List β) :
    l.foldl (fun acc i => if cond i then acc ++ f i else acc) start
      = start ++ (l.filter fun i => decide (cond i)).flatMap f := by
  induction l generalizing start with
  | nil => simp
  | cons i l ih =>
      rw [List.foldl_cons, ih]
      by_cases hi : cond i <;> simp [hi]

omit [LinearOrder K] in
open Classical in
/-- **No-data obstacles**: with the parameter set, and after the vehicle has moved far enough, each
voxel has its distance to the nearest one that holds enough points, cut off at the number of voxels
to skip and one; and four points are put out for exactly those voxels that are farther away than
this number. -/
theorem noDataObstacles_spec (terrainCloudElev : List (Point K))
    (hactive : p.noDataObstacle = true ∧ n.noDataInited = 2) (hskip : 0 ≤ p.noDataBlockSkipNum) :
    (∀ i, (planarVoxelEdge p pointElev i : ℕ∞)
        = min ((p.noDataBlockSkipNum.toNat + 1 : ℕ) : ℕ∞) (distanceToSeen p pointElev i)) ∧
      n.noDataObstacles p pointElev terrainCloudElev = terrainCloudElev
        ++ ((List.finRange _).filter fun i =>
            (p.noDataBlockSkipNum.toNat : ℕ∞) < distanceToSeen p pointElev i).flatMap
          (n.obstaclePoints p) := by
  obtain ⟨skip, hskipEq⟩ := Int.eq_ofNat_of_zero_le hskip
  have hedge := planarVoxelEdge_eq p pointElev skip hskipEq
  rw [hskipEq, Int.toNat_natCast]
  refine ⟨hedge, ?_⟩
  rw [Node.noDataObstacles, if_pos hactive, foldl_append_if]
  have hchosen : ∀ i : PlanarVoxel, p.noDataBlockSkipNum < planarVoxelEdge p pointElev i ↔
      (skip : ℕ∞) < distanceToSeen p pointElev i := by
    intro i
    rw [hskipEq, Nat.cast_lt, ← Nat.cast_lt (α := ℕ∞), hedge, lt_min_iff, Nat.cast_lt]
    exact and_iff_right (Nat.lt_succ_self skip)
  simp only [hchosen]

/-! ### One voxel that was seen -/

/-- The declared parameters, with obstacles for all voxels more than one voxel from those seen. -/
def skippingOne : GroundParams ℚ :=
  { GroundParams.declared with noDataObstacle := true, noDataBlockSkipNum := 1 }

/-- The program when the vehicle has moved far enough. -/
def farFromStart : Node ℚ 21 := { Node.init Params.declared 21 with noDataInited := 2 }

/-- Ten points in the first voxel. -/
def firstVoxelSeen (i : PlanarVoxel) : List ℚ := if i.val = 0 then List.replicate 10 0 else []

open Classical in
theorem noDataObstacles_spec_firstVoxel :
    (∀ i, (planarVoxelEdge skippingOne firstVoxelSeen i : ℕ∞)
        = min ((skippingOne.noDataBlockSkipNum.toNat + 1 : ℕ) : ℕ∞)
          (distanceToSeen skippingOne firstVoxelSeen i)) ∧
      farFromStart.noDataObstacles skippingOne firstVoxelSeen [] = []
        ++ ((List.finRange _).filter fun i => (skippingOne.noDataBlockSkipNum.toNat : ℕ∞)
              < distanceToSeen skippingOne firstVoxelSeen i).flatMap
          (farFromStart.obstaclePoints skippingOne) :=
  noDataObstacles_spec skippingOne farFromStart firstVoxelSeen [] ⟨rfl, rfl⟩ (by decide)

end Obstacles

end SentryNav.TerrainAnalysis
