import SentryNav.Nav2Plugins.IntensityVoxelLayer
import Mathlib.Data.Int.ConditionallyCompleteOrder
import Mathlib.Data.Rat.Floor

/-!
# The window of an update

The layered costmap combines its layers in the window that the updates of the layers return; what a
layer changes outside stays unseen.  This layer extends the window to what it marks and clears, but
not to what it forgets: it resets its map first, and a cell that was marked before and is not marked
again changes without being touched.

So the changes are in the window just when all that was left from the cycle before lies between
places that are touched in this one (`changes_in_window_iff`).
-/

namespace SentryNav.Nav2Plugins

open Raster Window

variable {K V : Type*} [Field K] [LinearOrder K]

/-! ## Cells and places -/

section Cells

variable [IsStrictOrderedRing K] [FloorRing K]

lemma floor_div_mono {size : K} (hsize : 0 < size) (origin : K) :
    Monotone fun v : K => ⌊(v - origin) / size⌋ := by
  intro v w h
  exact Int.floor_mono (div_le_div_of_nonneg_right (sub_le_sub_right h _) hsize.le)

lemma column_mono (m : Costmap2D K) : Monotone m.column := floor_div_mono m.resolution_pos _

lemma row_mono (m : Costmap2D K) : Monotone m.row := floor_div_mono m.resolution_pos _

/-- Truncation finds the column or row of a place on the map. -/
lemma toNat_trunc_div {v origin size : K} (hsize : 0 < size) (h : ¬ v < origin) :
    ((trunc ((v - origin) / size)).toNat : ℤ) = ⌊(v - origin) / size⌋ := by
  have hquot : 0 ≤ (v - origin) / size := div_nonneg (sub_nonneg.mpr (not_lt.mp h)) hsize.le
  rw [trunc_of_nonneg hquot, Int.toNat_of_nonneg (Int.floor_nonneg.mpr hquot)]

lemma worldToMap3D_cell {l : IntensityVoxelLayer K V} {wx wy wz : K} {mx my mz : ℕ}
    (h : l.worldToMap3D wx wy wz = some (mx, my, mz)) : l.column wx = mx ∧ l.row wy = my := by
  simp only [IntensityVoxelLayer.worldToMap3D] at h
  split_ifs at h with hoff hin
  rw [not_or, not_or] at hoff
  obtain ⟨rfl, rfl, _⟩ : _ ∧ _ ∧ _ := by simpa using h
  exact ⟨(toNat_trunc_div l.resolution_pos hoff.1).symm,
    (toNat_trunc_div l.resolution_pos hoff.2.1).symm⟩

/-- A voxel that is marked for a point is above the cell of the point. -/
lemma voxelOf_cell {l : IntensityVoxelLayer K V} {obs : Observation K} {point : CloudPoint K}
    {mx my mz : ℕ} (h : l.voxelOf obs point = some (mx, my, mz)) :
    l.column point.x = mx ∧ l.row point.y = my := by
  simp only [IntensityVoxelLayer.voxelOf] at h
  split_ifs at h
  · exact worldToMap3D_cell h
  · exact worldToMap3D_cell h

end Cells

/-! ## What a call touches -/

section Touched

variable [FloorRing K] (nav2 : Nav2Costmap K V)

/-- The points of some observations, each with its observation. -/
def observedPoints (observations : List (Observation K)) : List (Observation K × CloudPoint K) :=
  observations.flatMap fun obs => obs.cloud.map fun point => (obs, point)

/-- The places of the points for which the voxel grid says that the cell is to be marked, from the
voxel that each point is in. -/
def markedPlaces (voxelOf : Observation K → CloudPoint K → Option (ℕ × ℕ × ℕ)) (threshold : ℕ) :
    V → List (Observation K × CloudPoint K) → List (K × K)
  | _, [] => []
  | grid, (obs, point) :: points =>
      match voxelOf obs point with
      | none => markedPlaces voxelOf threshold grid points
      | some (mx, my, mz) =>
          let marked := nav2.markVoxelInMap grid mx my mz threshold
          if marked.2 then (point.x, point.y) :: markedPlaces voxelOf threshold marked.1 points
          else markedPlaces voxelOf threshold marked.1 points

/-- The corners of the footprint, if it is cleared. -/
def IntensityVoxelLayer.clearedPlaces (l : IntensityVoxelLayer K V) (robotX robotY robotYaw : K) :
    List (K × K) :=
  if l.footprintClearingEnabled then nav2.transformFootprint robotX robotY robotYaw l.footprint
  else []

/-- The places that a call touches: those of the points that mark a cell, and the corners of the
footprint. -/
def IntensityVoxelLayer.touchedPlaces (l : IntensityVoxelLayer K V) (c : Call K) : List (K × K) :=
  markedPlaces nav2 l.voxelOf l.markThreshold (nav2.resetVoxels l.voxelGrid)
      (observedPoints c.observations) ++
    l.clearedPlaces nav2 c.robotX c.robotY c.robotYaw

/-- The cells of a polygon lie between its corners. -/
def Nav2Costmap.FillsBetween : Prop :=
  ∀ (m : Costmap2D K) (polygon : List (K × K)), ∀ cell ∈ nav2.convexFillCells m polygon,
    ((∃ place ∈ polygon, m.column place.1 ≤ cell.1) ∧
        ∃ place ∈ polygon, (cell.1 : ℤ) ≤ m.column place.1) ∧
      (∃ place ∈ polygon, m.row place.2 ≤ cell.2) ∧
        ∃ place ∈ polygon, (cell.2 : ℤ) ≤ m.row place.2

variable {nav2}

lemma markObservations_eq (s : IntensityVoxelLayer K V × Window K)
    (observations : List (Observation K)) :
    IntensityVoxelLayer.markObservations nav2 s observations
      = (observedPoints observations).foldl
          (fun s observed => IntensityVoxelLayer.markPoint nav2 observed.1 s observed.2) s := by
  rw [IntensityVoxelLayer.markObservations, observedPoints, List.foldl_flatMap]
  simp only [List.foldl_map]

variable [IsStrictOrderedRing K]

/-- Nothing but the maps has changed. -/
def Remade (l l' : IntensityVoxelLayer K V) : Prop :=
  ∃ cost grid, l' = { l with costmap := cost, voxelGrid := grid }

/-- The marking loops change the cells of the places that they touch. -/
lemma foldl_markPoint (points : List (Observation K × CloudPoint K)) (l : IntensityVoxelLayer K V)
    (w : Window K) : ∃ l', Remade l l' ∧
      points.foldl (fun s observed => IntensityVoxelLayer.markPoint nav2 observed.1 s observed.2)
          (l, w)
        = (l', w.touchAll (markedPlaces nav2 l.voxelOf l.markThreshold l.voxelGrid points)) ∧
      ∀ cell, l'.costmap cell ≠ l.costmap cell →
        ∃ place ∈ markedPlaces nav2 l.voxelOf l.markThreshold l.voxelGrid points,
          l.column place.1 = cell.1 ∧ l.row place.2 = cell.2 := by
  induction points generalizing l w with
  | nil => exact ⟨l, ⟨l.costmap, l.voxelGrid, rfl⟩, rfl, fun cell h => absurd rfl h⟩
  | cons observed points ih =>
      obtain ⟨obs, point⟩ := observed
      rw [List.foldl_cons, IntensityVoxelLayer.markPoint, markedPlaces]
      cases hvoxel : l.voxelOf obs point with
      | none => exact ih l w
      | some voxel =>
          obtain ⟨mx, my, mz⟩ := voxel
          generalize hmarked : nav2.markVoxelInMap l.voxelGrid mx my mz l.markThreshold = marked
          simp only [hmarked]
          split_ifs with hmark
          · obtain ⟨l', ⟨cost, grid, hl'⟩, hfold, hcost⟩ := ih
              { l with voxelGrid := marked.1
                       costmap := Function.update l.costmap (mx, my) lethalObstacle }
              (w.touch (point.x, point.y))
            refine ⟨l', ⟨cost, grid, hl'⟩, hfold, fun cell hcell => ?_⟩
            by_cases hhere : cell = (mx, my)
            · subst hhere
              exact ⟨_, List.mem_cons_self, voxelOf_cell hvoxel⟩
            · rw [← Function.update_of_ne hhere lethalObstacle l.costmap] at hcell
              obtain ⟨place, hplace, hin⟩ := hcost cell hcell
              exact ⟨place, List.mem_cons_of_mem _ hplace, hin⟩
          · obtain ⟨l', ⟨cost, grid, hl'⟩, hfold, hcost⟩ := ih { l with voxelGrid := marked.1 } w
            exact ⟨l', ⟨cost, grid, hl'⟩, hfold, hcost⟩

omit [LinearOrder K] [FloorRing K] [IsStrictOrderedRing K] [Field K] in
/-- Setting some cells leaves the others. -/
lemma foldl_update_of_notMem {cells : List (ℕ × ℕ)} {cell : ℕ × ℕ} (value : UInt8)
    (cost : ℕ × ℕ → UInt8) (h : cell ∉ cells) :
    cells.foldl (fun cost cell => Function.update cost cell value) cost cell = cost cell := by
  induction cells generalizing cost with
  | nil => rfl
  | cons first cells ih =>
      rw [List.mem_cons, not_or] at h
      rw [List.foldl_cons, ih _ h.2, Function.update_of_ne h.1]

omit [IsStrictOrderedRing K] in
/-- What a call of an enabled layer with a fixed origin does. -/
lemma updateBounds_eq {l : IntensityVoxelLayer K V} (hfixed : l.rollingWindow = false)
    (henabled : l.enabled = true) (c : Call K) (w : Window K) :
    l.updateBounds nav2 c w = IntensityVoxelLayer.updateFootprint nav2
      (IntensityVoxelLayer.markObservations nav2
        ({ l.resetMaps nav2 with current := c.current }, c.useExtraBounds w) c.observations)
      c.robotX c.robotY c.robotYaw := by
  have henabled' : (l.resetMaps nav2).enabled = true := henabled
  simp only [IntensityVoxelLayer.updateBounds, hfixed, Bool.false_eq_true, if_false, henabled',
    if_true]

/-- Clearing the footprint changes cells between the places that it touches. -/
lemma updateFootprint_spec (hfill : nav2.FillsBetween) (l : IntensityVoxelLayer K V) (w : Window K)
    (robotX robotY robotYaw : K) :
    (IntensityVoxelLayer.updateFootprint nav2 (l, w) robotX robotY robotYaw).2
        = w.touchAll (l.clearedPlaces nav2 robotX robotY robotYaw) ∧
      ∀ cell,
        (IntensityVoxelLayer.updateFootprint nav2 (l, w) robotX robotY robotYaw).1.costmap cell
          ≠ l.costmap cell →
        (w.touchAll (l.clearedPlaces nav2 robotX robotY robotYaw)).Contains l.column l.row
          cell.1 cell.2 := by
  rw [IntensityVoxelLayer.updateFootprint, IntensityVoxelLayer.clearedPlaces]
  by_cases hclearing : l.footprintClearingEnabled = true
  · simp only [if_pos hclearing]
    refine ⟨trivial, fun cell hcell => ?_⟩
    have hfilled : cell ∈ nav2.convexFillCells l.toCostmap2D
        (nav2.transformFootprint robotX robotY robotYaw l.footprint) := by
      by_contra hfilled
      exact hcell (foldl_update_of_notMem freeSpace l.costmap hfilled)
    obtain ⟨⟨hleft, hright⟩, hbelow, habove⟩ := hfill _ _ cell hfilled
    rw [touchAll_contains (column_mono _) (row_mono _)]
    exact ⟨⟨Or.inr hleft, Or.inr hright⟩, Or.inr hbelow, Or.inr habove⟩
  · simp only [if_neg hclearing]
    exact ⟨rfl, fun cell hcell => absurd rfl hcell⟩

/-- **What a call of an enabled layer with a fixed origin returns**: the window has grown to the
places that are touched, and every cell that is not as after a reset is in it. -/
theorem updateBounds_spec (hfill : nav2.FillsBetween) {l : IntensityVoxelLayer K V}
    (hfixed : l.rollingWindow = false) (henabled : l.enabled = true) (c : Call K) (w : Window K) :
    (l.updateBounds nav2 c w).2 = (c.useExtraBounds w).touchAll (l.touchedPlaces nav2 c) ∧
      ∀ cell, (l.updateBounds nav2 c w).1.costmap cell ≠ l.defaultValue →
        ((c.useExtraBounds w).touchAll (l.touchedPlaces nav2 c)).Contains l.column l.row
          cell.1 cell.2 := by
  obtain ⟨marked, ⟨cost, grid, hmarked⟩, hmarking, hcost⟩ := foldl_markPoint
    (observedPoints c.observations) { l.resetMaps nav2 with current := c.current }
    (c.useExtraBounds w)
  have hcolumn : marked.column = l.column := by rw [hmarked]; rfl
  have hrow : marked.row = l.row := by rw [hmarked]; rfl
  have hcleared : marked.clearedPlaces nav2 = l.clearedPlaces nav2 := by rw [hmarked]; rfl
  rw [updateBounds_eq hfixed henabled, markObservations_eq, hmarking]
  obtain ⟨hwindow, hchanged⟩ := updateFootprint_spec hfill marked
    ((c.useExtraBounds w).touchAll (markedPlaces nav2 l.voxelOf l.markThreshold
      (nav2.resetVoxels l.voxelGrid) (observedPoints c.observations)))
    c.robotX c.robotY c.robotYaw
  rw [hcleared, ← touchAll_append] at hwindow hchanged
  rw [hcolumn, hrow] at hchanged
  refine ⟨hwindow, fun cell hcell => ?_⟩
  by_cases hkept : marked.costmap cell = l.defaultValue
  · rw [← hkept] at hcell
    exact hchanged cell hcell
  · obtain ⟨place, hplace, hx, hy⟩ := hcost cell hkept
    rw [← hx, ← hy]
    exact contains_of_touched (column_mono _) (row_mono _) (List.mem_append_left _ hplace)

/-- A call leaves the layer enabled and fixed. -/
lemma updateBounds_keeps (nav2 : Nav2Costmap K V) {l : IntensityVoxelLayer K V}
    (hfixed : l.rollingWindow = false) (henabled : l.enabled = true) (c : Call K) (w : Window K) :
    (l.updateBounds nav2 c w).1.rollingWindow = false ∧
      (l.updateBounds nav2 c w).1.enabled = true := by
  obtain ⟨marked, ⟨cost, grid, rfl⟩, hmarking, _⟩ := foldl_markPoint
    (observedPoints c.observations) { l.resetMaps nav2 with current := c.current }
    (c.useExtraBounds w)
  rw [updateBounds_eq hfixed henabled, markObservations_eq, hmarking,
    IntensityVoxelLayer.updateFootprint]
  split_ifs <;> exact ⟨hfixed, henabled⟩

end Touched

/-! ## Two calls -/

section TwoCalls

variable [FloorRing K]

/-- Every cell whose value has changed is in the window. -/
def ChangesInWindow (before after : Costmap2D K) (window : Window K) : Prop :=
  ∀ cell, before.InMap cell → after.costmap cell ≠ before.costmap cell →
    window.Contains before.column before.row cell.1 cell.2

/-- Along both axes, every cell that was left with another value than the default lies between
places that a call touches, or ends of the window that it starts from. -/
def IntensityVoxelLayer.LeftBetween (nav2 : Nav2Costmap K V) (l : IntensityVoxelLayer K V)
    (c : Call K) (window : Window K) : Prop :=
  ∀ cell, l.InMap cell → l.costmap cell ≠ l.defaultValue →
    (c.useExtraBounds window).Brackets l.column l.row (l.touchedPlaces nav2 c) cell.1 cell.2

variable [IsStrictOrderedRing K]

/-- **The changes between two calls are in the window of the second just when all that the first has
left lies between places that the second touches.** -/
theorem changes_in_window_iff (nav2 : Nav2Costmap K V) (hfill : nav2.FillsBetween)
    (l : IntensityVoxelLayer K V) (hfixed : l.rollingWindow = false) (henabled : l.enabled = true)
    (first second : Call K) (w₁ w₂ : Window K) :
    ChangesInWindow (l.updateBounds nav2 first w₁).1.toCostmap2D
        ((l.updateBounds nav2 first w₁).1.updateBounds nav2 second w₂).1.toCostmap2D
        ((l.updateBounds nav2 first w₁).1.updateBounds nav2 second w₂).2 ↔
      (l.updateBounds nav2 first w₁).1.LeftBetween nav2 second w₂ := by
  obtain ⟨hfixed', henabled'⟩ := updateBounds_keeps nav2 hfixed henabled first w₁
  generalize (l.updateBounds nav2 first w₁).1 = s at hfixed' henabled' ⊢
  obtain ⟨hwindow, hin⟩ := updateBounds_spec hfill hfixed' henabled' second w₂
  rw [hwindow]
  constructor
  · intro hchanges cell hmap hleft
    rw [← touchAll_contains (column_mono _) (row_mono _)]
    by_cases hsame : (s.updateBounds nav2 second w₂).1.costmap cell = s.costmap cell
    · rw [← hsame] at hleft
      exact hin cell hleft
    · exact hchanges cell hmap hsame
  · intro hleft cell hmap hchanged
    by_cases hdefault : s.costmap cell = s.defaultValue
    · rw [hdefault] at hchanged
      exact hin cell hchanged
    · rw [touchAll_contains (column_mono _) (row_mono _)]
      exact hleft cell hmap hdefault

end TwoCalls

/-! ### An obstacle that goes away -/

/-- A voxel grid that lists the voxels that are marked, and a footprint that is never cleared. -/
def listedVoxels : Nav2Costmap ℚ (List (ℕ × ℕ × ℕ)) where
  resetVoxels _ := []
  markVoxelInMap voxels mx my mz threshold :=
    let marked := voxels.insert (mx, my, mz)
    (marked, decide (threshold < marked.countP fun voxel => voxel.1 = mx ∧ voxel.2.1 = my))
  transformFootprint _ _ _ polygon := polygon
  convexFillCells _ _ := []
  getSizeInMeters m size := (size - 0.5) * m.resolution

lemma listedVoxels_fillsBetween : listedVoxels.FillsBetween := by
  rintro m polygon cell hcell
  exact absurd hcell List.not_mem_nil

/-- A layer of ten by ten cells of a metre, before its first update. -/
def tenByTen : IntensityVoxelLayer ℚ (List (ℕ × ℕ × ℕ)) where
  sizeX := 10
  sizeY := 10
  resolution := 1
  originX := 0
  originY := 0
  defaultValue := freeSpace
  costmap _ := freeSpace
  resolution_pos := one_pos
  enabled := true
  rollingWindow := false
  footprintClearingEnabled := false
  minObstacleHeight := 0
  maxObstacleHeight := 2
  minObstacleIntensity := 0.1
  maxObstacleIntensity := 2
  sizeZ := 16
  originZ := 0
  zResolution := 0.05
  markThreshold := 0
  footprint := []
  current := true
  voxelGrid := []
  transformedFootprint := []

/-- A call with the points that are observed from near the origin. -/
def seeing (cloud : List (CloudPoint ℚ)) : Call ℚ where
  robotX := 0.5
  robotY := 0.5
  robotYaw := 0
  useExtraBounds window := window
  current := true
  observations := [{ origin := ⟨0.5, 0.5, 0.5⟩, cloud := cloud, obstacleMaxRange := 5,
                     obstacleMinRange := 0.2 }]

/-- The window with which an update of the layers begins. -/
def noWindow : Window ℚ := ⟨1e30, 1e30, -1e30, -1e30⟩

/-- An obstacle is seen. -/
def obstacleSeen : IntensityVoxelLayer ℚ (List (ℕ × ℕ × ℕ)) :=
  (tenByTen.updateBounds listedVoxels (seeing [⟨2.5, 3.5, 0.2, 1⟩]) noWindow).1

theorem changes_in_window_iff_gone :
    ChangesInWindow obstacleSeen.toCostmap2D
        (obstacleSeen.updateBounds listedVoxels (seeing []) noWindow).1.toCostmap2D
        (obstacleSeen.updateBounds listedVoxels (seeing []) noWindow).2 ↔
      obstacleSeen.LeftBetween listedVoxels (seeing []) noWindow :=
  changes_in_window_iff _ listedVoxels_fillsBetween _ rfl rfl _ _ _ _

/-- Its cell is free again in the next cycle, and the window of that cycle is empty. -/
theorem vanished_obstacle_missed :
    ¬ ChangesInWindow obstacleSeen.toCostmap2D
      (obstacleSeen.updateBounds listedVoxels (seeing []) noWindow).1.toCostmap2D
      (obstacleSeen.updateBounds listedVoxels (seeing []) noWindow).2 := by
  intro hchanges
  have hcontained := hchanges (2, 3) (by decide +kernel) (by decide +kernel)
  exact absurd hcontained (by decide +kernel)

end SentryNav.Nav2Plugins
