import SentryNav.TerrainAnalysis.Voxels

/-!
# Where the points are

A point is put into the cell around whose centre it is when the grid is centred on the vehicle; but
the grid is centred on whole voxels, within a voxel of the vehicle.  So it is within one and a half
voxels of the centre of its cell, and since the clouds move with the grid it stays so.
-/

namespace SentryNav.TerrainAnalysis

open PointerArray Raster

variable {K : Type*} [Field K] [LinearOrder K]

/-! ## Boxes -/

/-- All points of a cloud are in a box around a centre. -/
def InBox (x y r : K) (cloud : List (Point K)) : Prop :=
  ∀ point ∈ cloud, |point.x - x| ≤ r ∧ |point.y - y| ≤ r

section Boxes

variable {x y r : K} {cloud cloud' : List (Point K)}

lemma inBox_append (h : InBox x y r cloud) (h' : InBox x y r cloud') :
    InBox x y r (cloud ++ cloud') := by
  intro point hpoint
  rcases List.mem_append.mp hpoint with hpoint | hpoint
  · exact h point hpoint
  · exact h' point hpoint

variable [IsStrictOrderedRing K]

/-- The voxel filter stays in a box. -/
lemma inBox_voxelGrid (vg : VoxelGrid K) (h : InBox x y r cloud) :
    InBox x y r (vg.filter cloud) := by
  intro point hpoint
  obtain ⟨⟨⟨a, ha, hax⟩, b, hb, hbx⟩, ⟨c, hc, hcy⟩, d, hd, hdy⟩ := vg.between cloud point hpoint
  have hlowerX := (abs_le.mp (h a ha).1).1
  have hupperX := (abs_le.mp (h b hb).1).2
  have hlowerY := (abs_le.mp (h c hc).2).1
  have hupperY := (abs_le.mp (h d hd).2).2
  rw [abs_le, abs_le]
  refine ⟨⟨?_, ?_⟩, ?_, ?_⟩ <;> linarith

/-- Filtering a cell stays in a box. -/
lemma inBox_filter {width : ℕ} (sqrt : K → K) (vg : VoxelGrid K) (p : Params K)
    (n : Node K width) {v : Voxel K} (h : InBox x y r v.cloud) :
    InBox x y r (v.filter sqrt vg p n).cloud := by
  rw [Voxel.filter]
  split_ifs
  · intro point hpoint
    exact inBox_voxelGrid vg h point (List.mem_filter.mp hpoint).1
  · exact h

end Boxes

/-! ## Drift -/

section Centres

variable (g : Grid K)

/-- The coordinate of the centres of a row or column of cells. -/
def Grid.centre (shift : ℤ) (ind : Fin g.width) : K :=
  g.voxelSize * shift + ((ind : ℕ) - g.halfWidth) * g.voxelSize

/-- Every point is within one and a half voxels of the centre of its cell. -/
def Grid.Bounded (t : Terrain K g.width) : Prop :=
  ∀ indX indY : Fin g.width, InBox (g.centre t.shiftX indX) (g.centre t.shiftY indY)
    (1.5 * g.voxelSize) (t.cells.deref (cell indX indY))

lemma bounded_init : g.Bounded (.init K g.width) := by
  rintro indX indY point hpoint
  exact absurd hpoint List.not_mem_nil

/-- The row or column that a cell came from had the same centre. -/
lemma centre_moved {shift k : ℤ} {ind ind' : Fin g.width} (h : (ind : ℤ) + k = ind') :
    g.centre (shift + k) ind = g.centre shift ind' := by
  have hcast : ((ind : ℕ) : K) + k = (ind' : ℕ) := by simpa using congrArg (Int.cast (R := K)) h
  rw [Grid.centre, Grid.centre, ← hcast]
  push_cast
  ring

variable {g} in
lemma bounded_rolled {kx ky : ℤ} {t t' : Terrain K g.width} (h : Rolled kx ky t t')
    (hunshared : Function.Injective t.cells.ptr) (hbounded : g.Bounded t) : g.Bounded t' := by
  rintro indX indY point hpoint
  rw [h.deref hunshared] at hpoint
  obtain ⟨a, b, ha, hb, hmem⟩ := exists_of_mem_view hpoint
  rw [h.shiftX, h.shiftY, centre_moved g ha, centre_moved g hb]
  exact hbounded a b point hmem

end Centres

/-- A point is seen from behind the centre of the grid; then the vehicle goes on by two metres,
for which the grid does not roll over, and there is another scan. -/
def approaching : List (Event ℚ) :=
  [.odometry (-1) 0 0, .laserCloud 0 [⟨9 / 2, 0, 0, 0⟩], .iterate, .odometry 1 0 0,
    .laserCloud 0 []]

section Drift

variable [IsStrictOrderedRing K] [FloorRing K] (g : Grid K)

/-- A point that falls in a row or column, seen from the vehicle, is near its centre. -/
lemma abs_sub_centre_le {vehicle v : K} {shift : ℤ} {ind : Fin g.width}
    (hcentred : |vehicle - g.voxelSize * shift| ≤ g.voxelSize)
    (hbin : bin g.voxelSize (v - vehicle) + g.halfWidth = ind) :
    |v - g.centre shift ind| ≤ 1.5 * g.voxelSize := by
  have hnear := abs_sub_bin_le g.voxelSize_pos (v - vehicle)
  have hcast : (bin g.voxelSize (v - vehicle) : K) = (ind : ℕ) - g.halfWidth := by
    rw [eq_sub_iff_add_eq]
    exact_mod_cast hbin
  have hsplit : v - g.centre shift ind = v - vehicle - bin g.voxelSize (v - vehicle) * g.voxelSize
      + (vehicle - g.voxelSize * shift) := by
    rw [hcast, Grid.centre]
    ring
  have htriangle := abs_add_le (v - vehicle - bin g.voxelSize (v - vehicle) * g.voxelSize)
    (vehicle - g.voxelSize * shift)
  rw [hsplit]
  norm_num
  linarith

/-- The points of the scan that fall in a cell. -/
lemma inBox_arrived {n : Node K g.width} {t : Terrain K g.width}
    (hx : |n.vehicleX - g.voxelSize * t.shiftX| ≤ g.voxelSize)
    (hy : |n.vehicleY - g.voxelSize * t.shiftY| ≤ g.voxelSize) (indX indY : Fin g.width) :
    InBox (g.centre t.shiftX indX) (g.centre t.shiftY indY) (1.5 * g.voxelSize)
      (g.arrived n (cell indX indY)) := by
  intro point hpoint
  obtain ⟨hbinX, hbinY⟩ := cell?_eq_some (of_decide_eq_true (List.mem_filter.mp hpoint).2)
  exact ⟨abs_sub_centre_le g hx hbinX, abs_sub_centre_le g hy hbinY⟩

/-- An iteration keeps the bound. -/
lemma bounded_update (sqrt : K → K) (vg : VoxelGrid K) (p : Params K) (n : Node K g.width)
    (hunshared : Function.Injective n.terrain.cells.ptr) (hbounded : g.Bounded n.terrain) :
    g.Bounded (g.update sqrt vg p n) := by
  obtain ⟨t, hrolled, hx, hy, hsame, hvoxel⟩ := update_spec sqrt vg p n hunshared
  rintro indX indY
  have hcloud := congrArg Voxel.cloud (hvoxel (cell indX indY))
  change (g.update sqrt vg p n).cells.deref (cell indX indY) = _ at hcloud
  rw [hcloud, hsame.shiftX, hsame.shiftY]
  refine inBox_filter sqrt vg p n ?_
  rw [foldl_push]
  exact inBox_append (bounded_rolled hrolled hunshared hbounded indX indY)
    (inBox_arrived g hx hy indX indY)

/-- **No point drifts**: in all runs, every point of the grid is within one and a half voxels of the
centre of the cell that holds it. -/
theorem drift_bounded (sqrt : K → K) (vg : VoxelGrid K) (p : Params K) (events : List (Event K)) :
    g.Bounded (g.reached sqrt vg p events).terrain :=
  (reached_terrain g sqrt vg p g.Bounded (bounded_init g) (bounded_update g sqrt vg p) events).2

theorem drift_bounded_approaching :
    (Grid.terrainAnalysis ℚ).Bounded (exactRun (approaching ++ [.iterate])).terrain :=
  drift_bounded _ _ _ _ _

/-! ## Coverage -/

/-- Every point of the grid that is less than this far from the vehicle, along both axes, is in the
terrain cloud. -/
def Covers {width : ℕ} (reach : K) (n : Node K width) : Prop :=
  ∀ indX indY : Fin width, ∀ point ∈ n.terrain.cells.deref (cell indX indY),
    |point.x - n.vehicleX| < reach → |point.y - n.vehicleY| < reach → point ∈ n.terrainCloud

omit [IsStrictOrderedRing K] [FloorRing K] in
lemma mem_near {k : ℤ} : k ∈ g.near ↔ |k - g.halfWidth| ≤ 5 := by
  rw [Grid.near, abs_le]
  simp only [List.mem_map, List.mem_range]
  constructor
  · rintro ⟨i, hi, rfl⟩
    omega
  · rintro ⟨hlower, hupper⟩
    exact ⟨(k - g.halfWidth + 5).toNat, by omega, by omega⟩

omit [IsStrictOrderedRing K] [FloorRing K] in
lemma mem_terrainCloud {t : Terrain K g.width} {indX indY : Fin g.width} {point : Point K}
    (hx : |(indX : ℤ) - g.halfWidth| ≤ 5) (hy : |(indY : ℤ) - g.halfWidth| ≤ 5)
    (hpoint : point ∈ t.cells.deref (cell indX indY)) : point ∈ g.terrainCloud t := by
  refine List.mem_flatMap.mpr ⟨indX, (mem_near g).mpr hx, ?_⟩
  refine List.mem_flatMap.mpr ⟨indY, (mem_near g).mpr hy, ?_⟩
  rw [cell?_cast]
  exact hpoint

omit [FloorRing K] in
/-- A point near the vehicle is in a row or column near the centre of the grid. -/
lemma near_of_reached {vehicle v : K} {shift : ℤ} {ind : Fin g.width}
    (hcentred : |vehicle - g.voxelSize * shift| ≤ g.voxelSize)
    (hdrift : |v - g.centre shift ind| ≤ 1.5 * g.voxelSize)
    (hreach : |v - vehicle| < 3.5 * g.voxelSize) : |(ind : ℤ) - g.halfWidth| ≤ 5 := by
  have hpos := g.voxelSize_pos
  have hoff : |((ind : ℕ) - g.halfWidth : K)| * g.voxelSize < 6 * g.voxelSize := by
    have hsplit : ((ind : ℕ) - g.halfWidth : K) * g.voxelSize
        = v - vehicle + (vehicle - g.voxelSize * shift) - (v - g.centre shift ind) := by
      rw [Grid.centre]
      ring
    have houter := abs_sub (v - vehicle + (vehicle - g.voxelSize * shift))
      (v - g.centre shift ind)
    have hinner := abs_add_le (v - vehicle) (vehicle - g.voxelSize * shift)
    rw [← abs_of_pos hpos, ← abs_mul, abs_of_pos hpos, hsplit]
    norm_num at hdrift hreach
    linarith
  have hlt : |((ind : ℕ) - g.halfWidth : K)| < 6 := lt_of_mul_lt_mul_right hoff hpos.le
  have hcast : |(ind : ℤ) - g.halfWidth| < 6 := by exact_mod_cast hlt
  omega

/-- An iteration with a new scan takes all points near the vehicle. -/
lemma covers_iterate (sqrt : K → K) (vg : VoxelGrid K) (p : Params K) {n : Node K g.width}
    (hscan : n.newlaserCloud = true) (hunshared : Function.Injective n.terrain.cells.ptr)
    (hbounded : g.Bounded n.terrain) :
    Covers (3.5 * g.voxelSize) (g.iterate sqrt vg p n) := by
  obtain ⟨t, _, hx, hy, hsame, _⟩ := update_spec sqrt vg p n hunshared
  rw [← hsame.shiftX] at hx
  rw [← hsame.shiftY] at hy
  rw [Grid.iterate, if_pos hscan]
  intro indX indY point hpoint hreachX hreachY
  obtain ⟨hdriftX, hdriftY⟩ :=
    bounded_update g sqrt vg p n hunshared hbounded indX indY point hpoint
  exact mem_terrainCloud g (near_of_reached g hx hdriftX hreachX)
    (near_of_reached g hy hdriftY hreachY) hpoint

end Drift

/-! ### In the program -/

/-- `planarVoxelSize` times half of `planarVoxelWidth`: how far the planar grid reaches. -/
def planarReach (K : Type*) [Field K] : K := 0.2 * ((25 : ℕ) + 0.5)

/-- **Coverage**: after every iteration with a new scan, the points less than 3.5 m from the vehicle
along both axes are in the terrain cloud. -/
theorem terrainCloud_covers [IsStrictOrderedRing K] [FloorRing K] (sqrt : K → K)
    (vg : VoxelGrid K) (p : Params K) (events : List (Event K))
    (hscan : ((Grid.terrainAnalysis K).reached sqrt vg p events).newlaserCloud = true) :
    Covers 3.5 ((Grid.terrainAnalysis K).reached sqrt vg p (events ++ [.iterate])) := by
  obtain ⟨hunshared, hbounded⟩ := reached_terrain (Grid.terrainAnalysis K) sqrt vg p
    (Grid.Bounded _) (bounded_init _) (bounded_update _ sqrt vg p) events
  have hcovers := covers_iterate (Grid.terrainAnalysis K) sqrt vg p hscan hunshared hbounded
  have hreach : (3.5 : K) * (Grid.terrainAnalysis K).voxelSize = 3.5 := by
    rw [Grid.terrainAnalysis]
    norm_num
  rw [hreach] at hcovers
  rwa [Grid.reached, Machine.run_concat]

/-- A point is seen far ahead; then the vehicle is there, before the next scan. -/
def overtaking : List (Event ℚ) :=
  [.odometry 0 0 0, .laserCloud 0 [⟨8, 0, 0, 0⟩], .iterate, .odometry 8 0 0]

/-- As in `approaching`, with a second point, which is near the vehicle in the end. -/
def arriving : List (Event ℚ) :=
  [.odometry (-1) 0 0, .laserCloud 0 [⟨9 / 2, 0, 0, 0⟩, ⟨3, 1, 0, 0⟩], .iterate, .odometry 1 0 0,
    .laserCloud 0 []]

theorem terrainCloud_covers_arriving :
    Covers 3.5 (exactRun (arriving ++ [.iterate])) ∧
      (⟨3, 1, 0, 0⟩ : Point ℚ) ∈ (exactRun (arriving ++ [.iterate])).terrain.cells.deref
        (cell ⟨14, by decide⟩ ⟨11, by decide⟩) :=
  ⟨terrainCloud_covers _ _ _ arriving (by decide +kernel), by decide +kernel⟩

/-- At 3.5 m, well inside the planar grid, a point can be missed; and between iterations any. -/
theorem planar_coverage_fails :
    ¬ Covers (planarReach ℚ) (exactRun (approaching ++ [.iterate])) ∧
      ¬ Covers 3.5 (exactRun overtaking) := by
  constructor
  · intro hcovers
    have hstored : (⟨9 / 2, 0, 0, 0⟩ : Point ℚ) ∈
        (exactRun (approaching ++ [.iterate])).terrain.cells.deref
          (cell ⟨16, by decide⟩ ⟨10, by decide⟩) := by decide +kernel
    have htaken := hcovers _ _ _ hstored (by decide +kernel) (by decide +kernel)
    exact absurd htaken (by decide +kernel)
  · intro hcovers
    have hstored : (⟨8, 0, 0, 0⟩ : Point ℚ) ∈ (exactRun overtaking).terrain.cells.deref
        (cell ⟨18, by decide⟩ ⟨10, by decide⟩) := by decide +kernel
    have htaken := hcovers _ _ _ hstored (by decide +kernel) (by decide +kernel)
    exact absurd htaken (by decide +kernel)

end SentryNav.TerrainAnalysis
