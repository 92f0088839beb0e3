import SentryNav.Core.Limiter
import SentryNav.TerrainAnalysis.PlanarVoxels
import Mathlib.Data.Multiset.Sort

/-!
# The elevation of the ground

A planar voxel gets the heights of the points in its own voxel and in those around it, of the points
that are high enough for ground and not too high (`planarPointElev_eq`); a point beside the grid is
entered in the voxels of the grid around its place, and in no others.

With sorting, the elevation is the height with a certain rank (`planarVoxelElev_spec`); without, it
is the least height (`lowestElev?_eq_some_iff`).  So it is a function of the heights as a multiset,
whatever the order of the points (`planarVoxelElev_perm`).
-/

namespace SentryNav.TerrainAnalysis

open Limiter Raster

variable {K : Type*} [Field K] [LinearOrder K] [FloorRing K] {width : ℕ}

/-! ## Heights -/

section Heights

variable (p : GroundParams K) (n : Node K width)

/-- The place of a point is at most one voxel from a voxel, along each axis. -/
def Node.Neighbouring (n : Node K width) (i : PlanarVoxel) (point : Point K) : Prop :=
  |planarIndex (point.x - n.vehicleX) - indX i| ≤ 1 ∧
    |planarIndex (point.y - n.vehicleY) - indY i| ≤ 1

instance (i : PlanarVoxel) (point : Point K) : Decidable (n.Neighbouring i point) :=
  inferInstanceAs (Decidable (_ ∧ _))

/-- The heights of the points around a voxel that may be ground. -/
def Node.heights (i : PlanarVoxel) : Multiset K :=
  ((n.terrainCloud : Multiset (Point K)).filter fun point =>
    n.InBand p point ∧ n.Neighbouring i point).map Point.z

variable {p n}

omit [Field K] [LinearOrder K] [FloorRing K] in
/-- A height is pushed back to a voxel once, if its place is among those gone through. -/
lemma foldl_pushElev (z : K) (ix iy : ℤ) {ds : List (ℤ × ℤ)} (hds : ds.Nodup)
    (pointElev : PlanarVoxel → List K) (i : PlanarVoxel) :
    ds.foldl (pushElev z ix iy) pointElev i
      = pointElev i ++ if (indX i - ix, indY i - iy) ∈ ds then [z] else [] := by
  induction ds generalizing pointElev with
  | nil => simp
  | cons d ds ih =>
      obtain ⟨hnot, hnodup⟩ := List.nodup_cons.mp hds
      rw [List.foldl_cons, ih hnodup]
      by_cases hi : cell? planarVoxelWidth (ix + d.1) (iy + d.2) = some i
      · have hd : (indX i - ix, indY i - iy) = d := by
          obtain ⟨hX, hY⟩ := cell?_eq_some_iff.mp hi
          rw [hX, hY, add_sub_cancel_left, add_sub_cancel_left]
        rw [hd, if_neg hnot, if_pos List.mem_cons_self, List.append_nil, pushElev, hi]
        exact Function.update_self ..
      · have hd : (indX i - ix, indY i - iy) ≠ d := by
          rintro rfl
          exact hi (cell?_eq_some_iff.mpr ⟨by ring, by ring⟩)
        have hkept : pushElev z ix iy pointElev d i = pointElev i := by
          rw [pushElev]
          cases hj : cell? planarVoxelWidth (ix + d.1) (iy + d.2) with
          | none => rfl
          | some j =>
              refine Function.update_of_ne ?_ _ _
              rintro rfl
              exact hi hj
        rw [hkept]
        simp only [List.mem_cons, hd, false_or]

/-- **A point is entered** once in each voxel around its place, if it may be ground. -/
lemma enter_eq (pointElev : PlanarVoxel → List K) (point : Point K) (i : PlanarVoxel) :
    n.enter p pointElev point i
      = pointElev i ++ if n.InBand p point ∧ n.Neighbouring i point then [point.z] else [] := by
  have hplace : (indX i - planarIndex (point.x - n.vehicleX),
        indY i - planarIndex (point.y - n.vehicleY)) ∈ around ↔ n.Neighbouring i point := by
    rw [mem_around, Node.Neighbouring, abs_le, abs_le]
    omega
  rw [Node.enter]
  by_cases hband : n.InBand p point
  · have hnodup : around.Nodup := by decide
    rw [if_pos hband, foldl_pushElev _ _ _ hnodup]
    simp only [hplace, hband, true_and]
  · rw [if_neg hband, if_neg fun hpoint => hband hpoint.1, List.append_nil]

lemma foldl_enter (cloud : List (Point K)) (pointElev : PlanarVoxel → List K) (i : PlanarVoxel) :
    cloud.foldl (n.enter p) pointElev i = pointElev i
      ++ (cloud.filter fun point => n.InBand p point ∧ n.Neighbouring i point).map Point.z := by
  induction cloud generalizing pointElev with
  | nil => simp
  | cons point cloud ih =>
      rw [List.foldl_cons, ih, enter_eq]
      by_cases hpoint : n.InBand p point ∧ n.Neighbouring i point <;> simp [hpoint]

/-- **The heights in a voxel** are those of the points around it. -/
lemma planarPointElev_eq (i : PlanarVoxel) :
    (n.planarPointElev p i : Multiset K) = n.heights p i := by
  rw [Node.planarPointElev, foldl_enter, List.nil_append]
  simp [Node.heights]

end Heights

/-! ## Ranks -/

section Ranks

variable (p : GroundParams K)

/-- The rank of the height that is taken, among a number of heights. -/
def rank (size : ℕ) : ℤ := clamp (trunc (p.quantileZ * size)) 0 (size - 1)

lemma quantileID_eq (size : ℕ) : quantileID p size = rank p size := by
  have hle : (size : ℤ) ≤ trunc (p.quantileZ * size) ↔
      (size : ℤ) - 1 < trunc (p.quantileZ * size) := by omega
  simp only [quantileID, rank, clamp, hle]

variable {p}

lemma toNat_rank_lt {size : ℕ} (hsize : 0 < size) : (rank p size).toNat < size := by
  have hbounds : (0 : ℤ) ≤ size - 1 := by omega
  have hlower := clamp_ge hbounds (v := trunc (p.quantileZ * size))
  have hupper := clamp_le hbounds (v := trunc (p.quantileZ * size))
  rw [rank]
  omega

omit [Field K] [FloorRing K] in
/-- What `quantileElev?` reads, from the heights as a multiset. -/
lemma insertionSort_eq (heights : List K) :
    heights.insertionSort (· ≤ ·) = (heights : Multiset K).sort (· ≤ ·) := by
  rw [Multiset.coe_sort, List.mergeSort_eq_insertionSort]

omit [Field K] [FloorRing K] in
/-- The first of the sorted heights is the least. -/
lemma sort_zero_le {heights : Multiset K} {lowest : K}
    (h : (heights.sort (· ≤ ·))[0]? = some lowest) :
    lowest ∈ heights ∧ ∀ z ∈ heights, lowest ≤ z := by
  have hsorted := heights.pairwise_sort (· ≤ ·)
  have hmem : ∀ z, z ∈ heights ↔ z ∈ heights.sort (· ≤ ·) := fun z => (Multiset.mem_sort _).symm
  rw [← List.head?_eq_getElem?] at h
  simp only [hmem]
  cases hlist : heights.sort (· ≤ ·) with
  | nil =>
      rw [hlist] at h
      exact absurd h nofun
  | cons first rest =>
      rw [hlist, List.head?_cons, Option.some_inj] at h
      subst h
      rw [hlist] at hsorted
      refine ⟨List.mem_cons_self, fun z hz => ?_⟩
      rcases List.mem_cons.mp hz with rfl | hz
      · exact le_rfl
      · exact List.rel_of_pairwise_cons hsorted hz

end Ranks

/-! ## The least height -/

section Lowest

omit [Field K] [FloorRing K] in
/-- What the loop has found: no height below the start, or the least one. -/
lemma foldl_lowerElev (start : K) (heights : List K) :
    (heights.zipIdx.foldl lowerElev (start, none) = (start, none) ∧ ∀ z ∈ heights, start ≤ z) ∨
      ∃ z j, heights.zipIdx.foldl lowerElev (start, none) = (z, some j) ∧ heights[j]? = some z ∧
        z < start ∧ ∀ z' ∈ heights, z ≤ z' := by
  induction heights using List.reverseRecOn with
  | nil => exact .inl ⟨rfl, nofun⟩
  | append_singleton heights last ih =>
      have hall : ∀ low, (∀ z ∈ heights, low ≤ z) → low ≤ last →
          ∀ z ∈ heights ++ [last], low ≤ z := by
        intro low hlow hlast z hz
        rcases List.mem_append.mp hz with hz | hz
        · exact hlow z hz
        · exact (List.mem_singleton.mp hz) ▸ hlast
      have hat : (heights ++ [last])[heights.length]? = some last := by simp
      rw [List.zipIdx_append, List.foldl_append, List.zipIdx_singleton, List.foldl_cons,
        List.foldl_nil, Nat.zero_add]
      rcases ih with ⟨hnone, hle⟩ | ⟨z, j, hsome, hj, hlt, hle⟩
      · rw [hnone, lowerElev]
        by_cases hlast : last < start
        · exact .inr ⟨last, _, if_pos hlast, hat, hlast,
            hall last (fun z hz => hlast.le.trans (hle z hz)) le_rfl⟩
        · exact .inl ⟨if_neg hlast, hall start hle (not_lt.mp hlast)⟩
      · rw [hsome, lowerElev]
        right
        by_cases hlast : last < z
        · exact ⟨last, _, if_pos hlast, hat, hlast.trans hlt,
            hall last (fun z' hz' => hlast.le.trans (hle z' hz')) le_rfl⟩
        · have hj' : (heights ++ [last])[j]? = some z := by
            rw [List.getElem?_append_left (List.getElem?_eq_some_iff.mp hj).1, hj]
          exact ⟨z, j, if_neg hlast, hj', hlt, hall z hle (not_lt.mp hlast)⟩

omit [FloorRing K] in
/-- Without sorting, the elevation is the least height, if that is less than 1000. -/
lemma lowestElev?_eq_some_iff {heights : List K} {z : K} :
    lowestElev? heights = some z ↔ z ∈ heights ∧ z < 1000.0 ∧ ∀ z' ∈ heights, z ≤ z' := by
  rw [lowestElev?]
  rcases foldl_lowerElev 1000.0 heights with ⟨hnone, hle⟩ | ⟨least, j, hsome, hj, hlt, hle⟩
  · rw [hnone]
    exact iff_of_false nofun fun h => h.2.1.not_ge (hle z h.1)
  · rw [hsome, Option.bind_some, hj, Option.some_inj]
    constructor
    · rintro rfl
      exact ⟨List.mem_of_getElem? hj, hlt, hle⟩
    · rintro ⟨hmem, -, hleast⟩
      exact le_antisymm (hle z hmem) (hleast least (List.mem_of_getElem? hj))

end Lowest

/-! ## Elevations -/

/-- The elevation of a voxel is what it should be: zero if there are no heights, or else the height
with the rank of the quantile, or the lift above the least height if that is set to be its limit. -/
inductive Elevation (p : GroundParams K) (heights : Multiset K) : K → Prop
  | empty (hempty : heights = 0) : Elevation p heights 0
  | ground {quantile lowest : K}
      (hquantile : (heights.sort (· ≤ ·))[(rank p heights.card).toNat]? = some quantile)
      (hlowest : lowest ∈ heights) (hleast : ∀ z ∈ heights, lowest ≤ z) :
      Elevation p heights
        (if lowest + p.maxGroundLift < quantile ∧ p.limitGroundLift = true then
          lowest + p.maxGroundLift
        else quantile)

/-- What the code computes from the heights of a voxel. -/
lemma elevation_quantileElev? (p : GroundParams K) (heights : List K) :
    Elevation p heights ((quantileElev? p heights).getD 0) := by
  rw [quantileElev?]
  by_cases hsize : 0 < heights.length
  · have hlength : ((heights : Multiset K).sort (· ≤ ·)).length = heights.length :=
      Multiset.length_sort _
    obtain ⟨quantile, hquantile⟩ : ∃ quantile,
        ((heights : Multiset K).sort (· ≤ ·))[(rank p heights.length).toNat]? = some quantile :=
      ⟨_, List.getElem?_eq_getElem (hlength.symm ▸ toNat_rank_lt hsize)⟩
    obtain ⟨lowest, hlowest⟩ : ∃ lowest,
        ((heights : Multiset K).sort (· ≤ ·))[0]? = some lowest :=
      ⟨_, List.getElem?_eq_getElem (hlength.symm ▸ hsize)⟩
    obtain ⟨hmem, hleast⟩ := sort_zero_le hlowest
    have hground := Elevation.ground (p := p) hquantile hmem hleast
    rw [if_pos hsize]
    simp only [insertionSort_eq, quantileID_eq, hquantile, hlowest, Option.getD_some]
    split_ifs at hground ⊢ with hlift
    · exact hground
    · exact hground
  · rw [if_neg hsize]
    have hempty : heights = [] := List.length_eq_zero_iff.mp (Nat.eq_zero_of_not_pos hsize)
    exact .empty (congrArg _ hempty)

/-- It depends on the heights as a multiset. -/
lemma quantileElev?_congr (p : GroundParams K) {heights heights' : List K}
    (h : (heights : Multiset K) = heights') :
    quantileElev? p heights = quantileElev? p heights' := by
  have hlength : heights.length = heights'.length := congrArg Multiset.card h
  simp only [quantileElev?, insertionSort_eq, h, hlength]

omit [FloorRing K] in
lemma lowestElev?_congr {heights heights' : List K} (h : (heights : Multiset K) = heights') :
    lowestElev? heights = lowestElev? heights' := by
  have hmem : ∀ z, z ∈ heights ↔ z ∈ heights' := fun z => (Multiset.coe_eq_coe.mp h).mem_iff
  ext z
  simp only [lowestElev?_eq_some_iff, hmem]

/-- **The ground does not depend on the order of the points**, with sorting or without. -/
theorem planarVoxelElev_perm (p : GroundParams K) (n : Node K width) {cloud : List (Point K)}
    (h : cloud.Perm n.terrainCloud) (i : PlanarVoxel) :
    planarVoxelElev p ({ n with terrainCloud := cloud }.planarPointElev p) i
      = planarVoxelElev p (n.planarPointElev p) i := by
  have hheights : { n with terrainCloud := cloud }.heights p i = n.heights p i := by
    have hpoints : (cloud : Multiset (Point K)) = n.terrainCloud := Multiset.coe_eq_coe.mpr h
    simp only [Node.heights, hpoints]
    rfl
  rw [← planarPointElev_eq, ← planarPointElev_eq] at hheights
  rw [planarVoxelElev, planarVoxelElev, quantileElev?_congr p hheights, lowestElev?_congr hheights]

/-- **The ground estimate**, with sorting and in exact arithmetic, for every terrain cloud and every
place of the vehicle; and it does not depend on the order of the points. -/
theorem planarVoxelElev_spec (p : GroundParams K) (n : Node K width) (hsort : p.useSorting = true)
    (i : PlanarVoxel) :
    Elevation p (n.heights p i) (planarVoxelElev p (n.planarPointElev p) i) ∧
      ∀ cloud : List (Point K), cloud.Perm n.terrainCloud →
        planarVoxelElev p ({ n with terrainCloud := cloud }.planarPointElev p) i
          = planarVoxelElev p (n.planarPointElev p) i := by
  refine ⟨?_, fun cloud hcloud => planarVoxelElev_perm p n hcloud i⟩
  rw [planarVoxelElev, if_pos hsort, ← planarPointElev_eq]
  exact elevation_quantileElev? p _

/-! ### Three points -/

/-- The program with three points in front of the vehicle, the last of them beside the grid. -/
def threePoints : Node ℚ 21 :=
  { Node.init Params.declared 21 with
    terrainCloud := [⟨1, 0, -0.6, 0⟩, ⟨1, 0, -0.5, 0⟩, ⟨5.1, 0, -0.4, 0⟩] }

/-- The voxel of the first two. -/
def voxelAhead : PlanarVoxel := ⟨51 * 30 + 25, by decide⟩

theorem planarVoxelElev_spec_threePoints :
    Elevation .declared (threePoints.heights .declared voxelAhead)
        (planarVoxelElev .declared (threePoints.planarPointElev .declared) voxelAhead) ∧
      ∀ cloud : List (Point ℚ), cloud.Perm threePoints.terrainCloud →
        planarVoxelElev .declared
            ({ threePoints with terrainCloud := cloud }.planarPointElev .declared) voxelAhead
          = planarVoxelElev .declared (threePoints.planarPointElev .declared) voxelAhead :=
  planarVoxelElev_spec .declared threePoints rfl voxelAhead

end SentryNav.TerrainAnalysis
