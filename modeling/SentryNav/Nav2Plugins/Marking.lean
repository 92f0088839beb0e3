import SentryNav.Nav2Plugins.UpdateWindow
import Mathlib.Data.Finset.Card

/-!
# Which cells are marked

While the points are gone through, a cell is written as soon as the voxel grid says that its column
has enough marked voxels; later points can only add to them.  So at any time a cell is lethal just
if its column has more marked voxels than the threshold (`Painted`), and the marked voxels are those
that have been hit, in whichever order.

`marking_exact` says this of the marking loops of a call.  What is relied on of `VoxelGrid` is a
`ColumnGrid`.
-/

namespace SentryNav.Nav2Plugins

open Raster Window

variable {K V : Type*} [Field K] [LinearOrder K]

/-- The columns of the voxel grid, with the heights that are marked.  In each column there is room
for sixteen. -/
structure ColumnGrid (nav2 : Nav2Costmap K V) where
  size : V → ℕ × ℕ × ℕ
  marked : V → ℕ × ℕ → Finset ℕ
  size_reset : ∀ grid, size (nav2.resetVoxels grid) = size grid
  marked_reset : ∀ grid cell, marked (nav2.resetVoxels grid) cell = ∅
  size_mark : ∀ grid mx my mz threshold,
    size (nav2.markVoxelInMap grid mx my mz threshold).1 = size grid
  /-- The bit of a voxel is set, and no other. -/
  marked_mark : ∀ grid mx my mz threshold,
    mx < (size grid).1 → my < (size grid).2.1 → mz < (size grid).2.2 → mz < 16 →
      marked (nav2.markVoxelInMap grid mx my mz threshold).1
        = Function.update (marked grid) (mx, my) (insert mz (marked grid (mx, my)))
  /-- The bits of the column are counted. -/
  mark_eq_true_iff : ∀ grid mx my mz threshold,
    mx < (size grid).1 → my < (size grid).2.1 → mz < (size grid).2.2 → mz < 16 →
      ((nav2.markVoxelInMap grid mx my mz threshold).2 = true
        ↔ threshold < (insert mz (marked grid (mx, my))).card)

namespace IntensityVoxelLayer

variable [FloorRing K]

/-! ## Hits -/

/-- The squared distance of a point from where it was observed. -/
def sqDist (obs : Observation K) (point : CloudPoint K) : K :=
  (point.x - obs.origin.x) * (point.x - obs.origin.x)
    + (point.y - obs.origin.y) * (point.y - obs.origin.y)
    + (point.z - obs.origin.z) * (point.z - obs.origin.z)

/-- A point passes the filters and maps to a voxel; below the origin it counts at the origin. -/
def Hits (l : IntensityVoxelLayer K V) (obs : Observation K) (point : CloudPoint K)
    (voxel : ℕ × ℕ × ℕ) : Prop :=
  (l.minObstacleHeight ≤ point.z ∧ point.z ≤ l.maxObstacleHeight) ∧
    (l.minObstacleIntensity ≤ point.intensity ∧ point.intensity ≤ l.maxObstacleIntensity) ∧
    (obs.obstacleMinRange * obs.obstacleMinRange < sqDist obs point ∧
      sqDist obs point < obs.obstacleMaxRange * obs.obstacleMaxRange) ∧
    l.worldToMap3D point.x point.y (max point.z l.originZ) = some voxel

instance (l : IntensityVoxelLayer K V) (obs : Observation K) (point : CloudPoint K)
    (voxel : ℕ × ℕ × ℕ) : Decidable (l.Hits obs point voxel) :=
  inferInstanceAs (Decidable (_ ∧ _ ∧ _ ∧ _))

/-- The voxels of a column that some observations hit. -/
def hitVoxels (l : IntensityVoxelLayer K V) (observations : List (Observation K))
    (cell : ℕ × ℕ) : Finset ℕ :=
  (Finset.range l.sizeZ).filter fun mz =>
    ∃ obs ∈ observations, ∃ point ∈ obs.cloud, l.Hits obs point (cell.1, cell.2, mz)

/-- The code goes on to mark a voxel just if it is hit. -/
lemma voxelOf_eq_some_iff {l : IntensityVoxelLayer K V} {obs : Observation K}
    {point : CloudPoint K} {voxel : ℕ × ℕ × ℕ} :
    l.voxelOf obs point = some voxel ↔ l.Hits obs point voxel := by
  have hcounted : (if point.z < l.originZ then l.worldToMap3D point.x point.y l.originZ
      else l.worldToMap3D point.x point.y point.z)
        = l.worldToMap3D point.x point.y (max point.z l.originZ) := by
    split
    · next hbelow => rw [max_eq_right hbelow.le]
    · next habove => rw [max_eq_left (not_lt.mp habove)]
  rw [voxelOf, Hits]
  dsimp only
  rw [hcounted, ← sqDist]
  split_ifs with hheight hintensity hrange
  · rw [← not_lt, ← not_lt, ← not_or]
    exact iff_of_false not_false fun h => h.1 hheight
  · rw [← not_lt (b := l.minObstacleIntensity), ← not_lt (b := point.intensity), ← not_or]
    exact iff_of_false not_false fun h => h.2.1 hintensity
  · rw [← not_le, ← not_le, ← not_or]
    exact iff_of_false not_false fun h => h.2.2.1 hrange
  · rw [not_or, not_lt, not_lt] at hheight hintensity
    rw [not_or, not_le, not_le] at hrange
    simp only [hheight, hintensity, hrange, true_and, and_self]

lemma worldToMap3D_lt {l : IntensityVoxelLayer K V} {wx wy wz : K} {mx my mz : ℕ}
    (h : l.worldToMap3D wx wy wz = some (mx, my, mz)) :
    mx < l.sizeX ∧ my < l.sizeY ∧ mz < l.sizeZ := by
  simp only [worldToMap3D] at h
  split_ifs at h with hoff hin
  obtain ⟨rfl, rfl, rfl⟩ : _ ∧ _ ∧ _ := by simpa using h
  exact hin

lemma mem_hitVoxels {l : IntensityVoxelLayer K V} {observations : List (Observation K)}
    {cell : ℕ × ℕ} {mz : ℕ} :
    mz ∈ l.hitVoxels observations cell ↔
      ∃ observed ∈ observedPoints observations,
        l.voxelOf observed.1 observed.2 = some (cell.1, cell.2, mz) := by
  simp only [hitVoxels, Finset.mem_filter, Finset.mem_range, voxelOf_eq_some_iff, observedPoints,
    List.mem_flatMap, List.mem_map]
  constructor
  · rintro ⟨-, obs, hobs, point, hpoint, hhit⟩
    exact ⟨(obs, point), ⟨obs, hobs, point, hpoint, rfl⟩, hhit⟩
  · rintro ⟨_, ⟨obs, hobs, point, hpoint, rfl⟩, hhit⟩
    exact ⟨(worldToMap3D_lt hhit.2.2.2).2.2, obs, hobs, point, hpoint, hhit⟩

/-! ## The marking loops -/

variable {nav2 : Nav2Costmap K V}

/-- A cell is lethal just if its column has more marked voxels than the threshold. -/
def Painted (g : ColumnGrid nav2) (l : IntensityVoxelLayer K V) : Prop :=
  ∀ cell, l.costmap cell
    = if l.markThreshold < (g.marked l.voxelGrid cell).card then lethalObstacle else l.defaultValue

/-- The voxel grid has the size of the layer; `matchSize` sees to that. -/
def Fits (g : ColumnGrid nav2) (l : IntensityVoxelLayer K V) : Prop :=
  g.size l.voxelGrid = (l.sizeX, l.sizeY, l.sizeZ)

variable {g : ColumnGrid nav2} {l : IntensityVoxelLayer K V}

/-- A voxel that is marked is the only one that is new in its column. -/
lemma mem_insert_column (marked : ℕ × ℕ → Finset ℕ) (mx my mz : ℕ) (cell : ℕ × ℕ) (mz' : ℕ) :
    mz' ∈ Function.update marked (mx, my) (insert mz (marked (mx, my))) cell ↔
      mz' ∈ marked cell ∨ some (mx, my, mz) = some (cell.1, cell.2, mz') := by
  by_cases hcell : cell = (mx, my)
  · subst hcell
    simp [or_comm, eq_comm]
  · have hother : (mx, my, mz) ≠ (cell.1, cell.2, mz') := by
      intro h
      simp only [Prod.mk.injEq] at h
      exact hcell (Prod.ext h.1.symm h.2.1.symm)
    simp [Function.update_of_ne hcell, hother]

/-- **A pass of the inner loop** adds the voxel of its point to the marked ones, and keeps the map
painted. -/
lemma markPoint_spec (hsizeZ : l.sizeZ ≤ 16) (hfits : Fits g l) (hpainted : Painted g l)
    (obs : Observation K) (point : CloudPoint K) (w : Window K) :
    ∃ cost grid w', markPoint nav2 obs (l, w) point
        = ({ l with costmap := cost, voxelGrid := grid }, w') ∧
      Fits g { l with costmap := cost, voxelGrid := grid } ∧
      Painted g { l with costmap := cost, voxelGrid := grid } ∧
      ∀ cell mz, mz ∈ g.marked grid cell ↔
        mz ∈ g.marked l.voxelGrid cell ∨ l.voxelOf obs point = some (cell.1, cell.2, mz) := by
  cases hvoxel : l.voxelOf obs point with
  | none =>
      refine ⟨l.costmap, l.voxelGrid, w, ?_, hfits, hpainted, by simp⟩
      rw [markPoint, hvoxel]
  | some voxel =>
      obtain ⟨mx, my, mz⟩ := voxel
      obtain ⟨hmx, hmy, hmz⟩ := worldToMap3D_lt (voxelOf_eq_some_iff.mp hvoxel).2.2.2
      have hmarked := g.marked_mark l.voxelGrid mx my mz l.markThreshold
      have htrue := g.mark_eq_true_iff l.voxelGrid mx my mz l.markThreshold
      have hsize := g.size_mark l.voxelGrid mx my mz l.markThreshold
      rw [hfits] at hmarked htrue hsize
      specialize hmarked hmx hmy hmz (hmz.trans_le hsizeZ)
      specialize htrue hmx hmy hmz (hmz.trans_le hsizeZ)
      rw [markPoint, hvoxel]
      dsimp only
      generalize nav2.markVoxelInMap l.voxelGrid mx my mz l.markThreshold = result
        at hmarked htrue hsize ⊢
      by_cases hmark : result.2 = true
      · refine ⟨Function.update l.costmap (mx, my) lethalObstacle, result.1, _, if_pos hmark, hsize,
          fun cell => ?_, fun cell mz' => by rw [hmarked, mem_insert_column]⟩
        dsimp only
        rw [hmarked]
        by_cases hcell : cell = (mx, my)
        · subst hcell
          rw [Function.update_self, Function.update_self, if_pos (htrue.mp hmark)]
        · rw [Function.update_of_ne hcell, Function.update_of_ne hcell]
          exact hpainted cell
      · refine ⟨l.costmap, result.1, w, if_neg hmark, hsize, fun cell => ?_,
          fun cell mz' => by rw [hmarked, mem_insert_column]⟩
        dsimp only
        rw [hmarked]
        by_cases hcell : cell = (mx, my)
        · -- the column has too few marked voxels, so it had too few before
          subst hcell
          have hfew : ¬ l.markThreshold < (insert mz (g.marked l.voxelGrid (mx, my))).card :=
            fun hmany => hmark (htrue.mpr hmany)
          have hfewer : ¬ l.markThreshold < (g.marked l.voxelGrid (mx, my)).card :=
            fun hmany => hfew (hmany.trans_le (Finset.card_le_card (Finset.subset_insert _ _)))
          rw [Function.update_self, if_neg hfew, hpainted, if_neg hfewer]
        · rw [Function.update_of_ne hcell]
          exact hpainted cell

/-- **The marking loops** leave the map painted, with the voxels that were marked before and those
of the points. -/
lemma foldl_markPoint_spec (hsizeZ : l.sizeZ ≤ 16) (hfits : Fits g l) (hpainted : Painted g l)
    (points : List (Observation K × CloudPoint K)) (w : Window K) :
    ∃ cost grid w',
      points.foldl (fun s observed => markPoint nav2 observed.1 s observed.2) (l, w)
        = ({ l with costmap := cost, voxelGrid := grid }, w') ∧
      Painted g { l with costmap := cost, voxelGrid := grid } ∧
      ∀ cell mz, mz ∈ g.marked grid cell ↔
        mz ∈ g.marked l.voxelGrid cell ∨
          ∃ observed ∈ points, l.voxelOf observed.1 observed.2 = some (cell.1, cell.2, mz) := by
  induction points generalizing l w with
  | nil => exact ⟨l.costmap, l.voxelGrid, w, rfl, hpainted, by simp⟩
  | cons observed points ih =>
      obtain ⟨cost, grid, w', hpass, hfits', hpainted', hmem⟩ :=
        markPoint_spec hsizeZ hfits hpainted observed.1 observed.2 w
      obtain ⟨cost', grid', w'', hrest, hpainted'', hmem'⟩ :=
        ih (l := { l with costmap := cost, voxelGrid := grid }) hsizeZ hfits' hpainted' w'
      refine ⟨cost', grid', w'', ?_, hpainted'', fun cell mz => ?_⟩
      · rw [List.foldl_cons, hpass, hrest]
      · have hsame : ∀ observed' : Observation K × CloudPoint K,
            voxelOf { l with costmap := cost, voxelGrid := grid } observed'.1 observed'.2
              = l.voxelOf observed'.1 observed'.2 := fun _ => rfl
        simp only [hmem', hmem, hsame, List.exists_mem_cons_iff, or_assoc]

/-! ## Marking in a call -/

/-- The layer at the beginning of the marking loops of a call. -/
def begun (nav2 : Nav2Costmap K V) (l : IntensityVoxelLayer K V) (c : Call K) :
    IntensityVoxelLayer K V :=
  let l :=
    if l.rollingWindow then
      l.updateOrigin (c.robotX - nav2.getSizeInMeters l.toCostmap2D l.sizeX / 2.0)
        (c.robotY - nav2.getSizeInMeters l.toCostmap2D l.sizeY / 2.0)
    else l
  { l.resetMaps nav2 with current := c.current }

/-- The layer after the marking loops, before the footprint is cleared. -/
def marked (nav2 : Nav2Costmap K V) (l : IntensityVoxelLayer K V) (c : Call K) (w : Window K) :
    IntensityVoxelLayer K V :=
  (markObservations nav2 (l.begun nav2 c, c.useExtraBounds w) c.observations).1

/-- A call of an enabled layer runs the marking loops, and then clears the footprint. -/
lemma updateBounds_eq_marked (l : IntensityVoxelLayer K V) (henabled : l.enabled = true)
    (c : Call K) (w : Window K) :
    l.updateBounds nav2 c w = updateFootprint nav2
      (l.marked nav2 c w,
        (markObservations nav2 (l.begun nav2 c, c.useExtraBounds w) c.observations).2)
      c.robotX c.robotY c.robotYaw := by
  have henabled' : (begun nav2 l c).enabled = true := by
    rw [begun]
    split <;> exact henabled
  rw [updateBounds]
  exact if_pos henabled'

/-- Only the origin and the maps have changed by then. -/
lemma begun_keeps (nav2 : Nav2Costmap K V) (l : IntensityVoxelLayer K V) (c : Call K) :
    (l.begun nav2 c).voxelGrid = nav2.resetVoxels l.voxelGrid ∧
      (l.begun nav2 c).sizeX = l.sizeX ∧ (l.begun nav2 c).sizeY = l.sizeY ∧
      (l.begun nav2 c).sizeZ = l.sizeZ ∧ (l.begun nav2 c).markThreshold = l.markThreshold ∧
      (l.begun nav2 c).defaultValue = l.defaultValue := by
  rw [begun]
  split <;> exact ⟨rfl, rfl, rfl, rfl, rfl, rfl⟩

lemma begun_fits (hfits : Fits g l) (c : Call K) : Fits g (l.begun nav2 c) := by
  obtain ⟨hgrid, hX, hY, hZ, -⟩ := begun_keeps nav2 l c
  rw [Fits, hgrid, hX, hY, hZ, g.size_reset, hfits]

/-- At the beginning no voxel is marked. -/
lemma marked_begun (g : ColumnGrid nav2) (l : IntensityVoxelLayer K V) (c : Call K)
    (cell : ℕ × ℕ) : g.marked (l.begun nav2 c).voxelGrid cell = ∅ := by
  rw [(begun_keeps nav2 l c).1, g.marked_reset]

/-- And all cells have the default value. -/
lemma begun_painted (l : IntensityVoxelLayer K V) (c : Call K) : Painted g (l.begun nav2 c) := by
  intro cell
  rw [marked_begun, Finset.card_empty, if_neg (Nat.not_lt_zero _)]
  rfl

/-- **The cells after the marking loops**: lethal are those in whose column more voxels are hit than
the threshold, and all others have the default value. -/
lemma marked_costmap (hsizeZ : l.sizeZ ≤ 16) (hfits : Fits g l) (c : Call K) (w : Window K)
    (cell : ℕ × ℕ) :
    (l.marked nav2 c w).costmap cell
      = if l.markThreshold < ((l.begun nav2 c).hitVoxels c.observations cell).card then
          lethalObstacle
        else l.defaultValue := by
  obtain ⟨-, -, -, hkeepsZ, hthreshold, hdefault⟩ := begun_keeps nav2 l c
  obtain ⟨cost, grid, w', hloops, hpainted, hmem⟩ :=
    foldl_markPoint_spec (l := l.begun nav2 c) (hkeepsZ.trans_le hsizeZ) (begun_fits hfits c)
      (begun_painted l c) (observedPoints c.observations) (c.useExtraBounds w)
  have hcolumn : g.marked grid cell = (l.begun nav2 c).hitVoxels c.observations cell := by
    ext mz
    rw [hmem, marked_begun, mem_hitVoxels]
    exact or_iff_right (Finset.notMem_empty mz)
  have hcost : (l.marked nav2 c w).costmap cell = cost cell := by
    rw [marked, markObservations_eq, hloops]
  rw [hcost, ← hcolumn, ← hthreshold, ← hdefault]
  exact hpainted cell

/-! ## Order -/

/-- Two observations of the same points, in some order. -/
def SamePoints (obs obs' : Observation K) : Prop :=
  obs.origin = obs'.origin ∧ obs.obstacleMaxRange = obs'.obstacleMaxRange ∧
    obs.obstacleMinRange = obs'.obstacleMinRange ∧ obs.cloud.Perm obs'.cloud

/-- The same observations in some order, each with its points in some order. -/
def Reordered (observations observations' : List (Observation K)) : Prop :=
  ∃ between, List.Forall₂ SamePoints observations between ∧ between.Perm observations'

lemma SamePoints.hits_iff {obs obs' : Observation K} (h : SamePoints obs obs')
    {voxel : ℕ × ℕ × ℕ} :
    (∃ point ∈ obs.cloud, l.Hits obs point voxel) ↔
      ∃ point ∈ obs'.cloud, l.Hits obs' point voxel := by
  obtain ⟨horigin, hmax, hmin, hcloud⟩ := h
  simp only [Hits, sqDist, horigin, hmax, hmin, hcloud.mem_iff]

/-- The voxels that are hit do not depend on the order. -/
lemma hitVoxels_reordered {observations observations' : List (Observation K)}
    (h : Reordered observations observations') (cell : ℕ × ℕ) :
    l.hitVoxels observations' cell = l.hitVoxels observations cell := by
  obtain ⟨between, hsame, hperm⟩ := h
  have hbetween : l.hitVoxels observations' cell = l.hitVoxels between cell := by
    simp only [hitVoxels, hperm.mem_iff]
  have hexists : ∀ voxel, (∃ obs ∈ between, ∃ point ∈ obs.cloud, l.Hits obs point voxel) ↔
      ∃ obs ∈ observations, ∃ point ∈ obs.cloud, l.Hits obs point voxel := by
    intro voxel
    clear hperm hbetween
    induction hsame with
    | nil => rfl
    | cons hfirst _ ih =>
        rw [List.exists_mem_cons_iff, List.exists_mem_cons_iff, ih, hfirst.hits_iff]
  rw [hbetween]
  simp only [hitVoxels, hexists]

/-- **Marking is exact and does not depend on the order.** -/
theorem marking_exact (nav2 : Nav2Costmap K V) (g : ColumnGrid nav2) (l : IntensityVoxelLayer K V)
    (hsizeZ : l.sizeZ ≤ 16) (hfits : Fits g l) (c : Call K) (w : Window K) :
    (∀ cell, (l.marked nav2 c w).costmap cell
        = if l.markThreshold < ((l.begun nav2 c).hitVoxels c.observations cell).card then
            lethalObstacle
          else l.defaultValue) ∧
      (l.defaultValue ≠ lethalObstacle → ∀ cell,
        (l.marked nav2 c w).costmap cell = lethalObstacle ↔
          l.markThreshold < ((l.begun nav2 c).hitVoxels c.observations cell).card) ∧
      ∀ observations, Reordered c.observations observations →
        (l.marked nav2 { c with observations := observations } w).costmap
          = (l.marked nav2 c w).costmap := by
  have hcells := marked_costmap hsizeZ hfits c w
  refine ⟨hcells, fun hdefault cell => ?_, fun observations hreordered => funext fun cell => ?_⟩
  · rw [hcells]
    split
    · next hmany => exact iff_of_true rfl hmany
    · next hfew => exact iff_of_false hdefault hfew
  · rw [hcells, marked_costmap hsizeZ hfits]
    have hsame := hitVoxels_reordered (l := l.begun nav2 c) hreordered cell
    exact if_congr (by rw [← hsame]; rfl) rfl rfl

/-! ### Two points above a cell -/

/-- A voxel grid that is the marked heights of each column. -/
def columnVoxels : Nav2Costmap ℚ (ℕ × ℕ → Finset ℕ) where
  resetVoxels _ := fun _ => ∅
  markVoxelInMap columns mx my mz threshold :=
    let column := insert mz (columns (mx, my))
    (Function.update columns (mx, my) column, decide (threshold < column.card))
  transformFootprint _ _ _ polygon := polygon
  convexFillCells _ _ := []
  getSizeInMeters m size := (size - 0.5) * m.resolution

/-- It is one of ten by ten columns. -/
def tenByTenColumns : ColumnGrid columnVoxels where
  size _ := (10, 10, 16)
  marked columns := columns
  size_reset _ := rfl
  marked_reset _ _ := rfl
  size_mark _ _ _ _ _ := rfl
  marked_mark _ _ _ _ _ _ _ _ _ := rfl
  mark_eq_true_iff _ _ _ _ _ _ _ _ _ := decide_eq_true_iff

/-- A layer that marks the cells with more than one marked voxel. -/
def twoNeeded : IntensityVoxelLayer ℚ (ℕ × ℕ → Finset ℕ) :=
  { tenByTen with markThreshold := 1, voxelGrid := fun _ => ∅ }

/-- Two points above each other, and one that is alone. -/
def threeSeen : Call ℚ := seeing [⟨2.5, 3.5, 0.2, 1⟩, ⟨2.5, 3.5, 0.4, 1⟩, ⟨3.5, 3.5, 0.2, 1⟩]

theorem marking_exact_threeSeen :
    (∀ cell, (twoNeeded.marked columnVoxels threeSeen noWindow).costmap cell
        = if twoNeeded.markThreshold
            < ((twoNeeded.begun columnVoxels threeSeen).hitVoxels threeSeen.observations cell).card
          then lethalObstacle
          else twoNeeded.defaultValue) ∧
      (twoNeeded.defaultValue ≠ lethalObstacle → ∀ cell,
        (twoNeeded.marked columnVoxels threeSeen noWindow).costmap cell = lethalObstacle ↔
          twoNeeded.markThreshold < ((twoNeeded.begun columnVoxels threeSeen).hitVoxels
            threeSeen.observations cell).card) ∧
      ∀ observations, Reordered threeSeen.observations observations →
        (twoNeeded.marked columnVoxels { threeSeen with observations := observations }
            noWindow).costmap
          = (twoNeeded.marked columnVoxels threeSeen noWindow).costmap :=
  marking_exact columnVoxels tenByTenColumns twoNeeded (by decide) rfl threeSeen noWindow

end IntensityVoxelLayer

end SentryNav.Nav2Plugins
