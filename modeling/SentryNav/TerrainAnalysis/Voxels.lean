import SentryNav.TerrainAnalysis.Node
import SentryNav.TerrainAnalysis.RollOver

/-!
# An iteration, cell by cell

A `Voxel` is all that the variables say of a cell.  As long as no two cells share a cloud, stacking
a point and filtering a cell each change one voxel, and what an iteration does to a cell is said in
one equation (`update_spec`): the cell rolls over, it gets the points of the scan that fall in it,
and it is filtered if it is due.
-/

namespace SentryNav.TerrainAnalysis

open Loop PointerArray Raster

variable {K : Type*} {width : ℕ}

/-- What there is about a cell. -/
structure Voxel (K : Type*) where
  cloud : List (Point K)
  updateNum : ℕ
  updateTime : K
  history : History K

/-- What the variables say of a cell. -/
def Terrain.voxel (t : Terrain K width) (ind : Fin (width * width)) : Voxel K where
  cloud := t.cells.deref ind
  updateNum := t.updateNum ind
  updateTime := t.updateTime ind
  history := t.history.deref ind

/-- The cell gets a point. -/
def Voxel.push (v : Voxel K) (point : Point K) : Voxel K where
  cloud := v.cloud ++ [point]
  updateNum := v.updateNum + 1
  updateTime := v.updateTime
  history := { v.history with pushed := v.history.pushed + 1 }

/-- The cell is filtered if it is due. -/
def Voxel.filter [Field K] [LinearOrder K] (sqrt : K → K) (vg : VoxelGrid K) (p : Params K)
    (n : Node K width) (v : Voxel K) : Voxel K :=
  if n.Due p v.updateNum v.updateTime then
    let now := n.laserCloudTime - n.systemInitTime
    let cloud := n.kept sqrt vg p v.cloud
    { cloud := cloud
      updateNum := 0
      updateTime := now
      history := ⟨0, if cloud.length = 0 then none else some now⟩ }
  else v

lemma foldl_push (points : List (Point K)) (v : Voxel K) :
    points.foldl Voxel.push v =
      { cloud := v.cloud ++ points
        updateNum := v.updateNum + points.length
        updateTime := v.updateTime
        history := { v.history with pushed := v.history.pushed + points.length } } := by
  induction points generalizing v with
  | nil => simp
  | cons point points ih =>
      rw [List.foldl_cons, ih]
      simp [Voxel.push, Nat.add_assoc, Nat.add_comm 1]

/-! ## One change -/

/-- Two grids with the same clouds in the same places. -/
structure SameClouds (t t' : Terrain K width) : Prop where
  shiftX : t'.shiftX = t.shiftX
  shiftY : t'.shiftY = t.shiftY
  ptr : t'.cells.ptr = t.cells.ptr

lemma SameClouds.refl (t : Terrain K width) : SameClouds t t := ⟨rfl, rfl, rfl⟩

lemma SameClouds.trans {t t' t'' : Terrain K width} (h : SameClouds t t')
    (h' : SameClouds t' t'') : SameClouds t t'' where
  shiftX := h'.shiftX.trans h.shiftX
  shiftY := h'.shiftY.trans h.shiftY
  ptr := h'.ptr.trans h.ptr

/-- An event that is logged for a cloud changes the history of its cell. -/
lemma deref_history_log {t : Terrain K width} (hunshared : Function.Injective t.cells.ptr)
    (ind : Fin (width * width)) (event : CloudEvent K) (f : History K → History K)
    (hevent : ∀ cloud, historyOf cloud (event :: t.log)
      = if t.cells.ptr ind = cloud then f (historyOf cloud t.log) else historyOf cloud t.log) :
    (Cells.mk t.cells.ptr fun cloud => historyOf cloud (event :: t.log)).deref
      = Function.update t.history.deref ind (f (t.history.deref ind)) := by
  funext other
  simp only [Cells.deref, Terrain.history, hevent, Function.update_apply, hunshared.eq_iff]
  by_cases h : ind = other
  · subst h
    simp
  · rw [if_neg h, if_neg (Ne.symm h)]

section Changes

variable [Field K] [LinearOrder K] {t : Terrain K width} {n : Node K width}

/-- Filtering a cell is filtering its voxel. -/
lemma filterCell_voxel (sqrt : K → K) (vg : VoxelGrid K) (p : Params K)
    (hunshared : Function.Injective t.cells.ptr) (ind : Fin (width * width)) :
    SameClouds t (n.filterCell sqrt vg p t ind) ∧ (n.filterCell sqrt vg p t ind).voxel
      = Function.update t.voxel ind ((t.voxel ind).filter sqrt vg p n) := by
  rw [Node.filterCell, Voxel.filter]
  by_cases hdue : n.Due p (t.updateNum ind) (t.updateTime ind)
  · have hdue' : n.Due p (t.voxel ind).updateNum (t.voxel ind).updateTime := hdue
    rw [if_pos hdue, if_pos hdue']
    refine ⟨⟨rfl, rfl, rfl⟩, ?_⟩
    have hhistory := deref_history_log hunshared ind
      (.filtered (t.cells.ptr ind) (n.laserCloudTime - n.systemInitTime)
        (n.kept sqrt vg p (t.cells.deref ind)).length)
      (fun _ => ⟨0, if (n.kept sqrt vg p (t.cells.deref ind)).length = 0 then none
        else some (n.laserCloudTime - n.systemInitTime)⟩) (fun cloud => rfl)
    funext other
    simp only [Terrain.voxel, Terrain.history, modify_ptr, deref_modify hunshared] at hhistory ⊢
    rw [hhistory]
    by_cases h : other = ind
    · subst h
      simp
    · simp [h, Terrain.voxel, Terrain.history]
  · have hdue' : ¬ n.Due p (t.voxel ind).updateNum (t.voxel ind).updateTime := hdue
    rw [if_neg hdue, if_neg hdue', Function.update_eq_self]
    exact ⟨.refl t, rfl⟩

end Changes

section Iteration

variable [Field K] [LinearOrder K] [FloorRing K] {g : Grid K} {n : Node K g.width}
  {t : Terrain K g.width}

/-- Stacking a point is pushing it to the voxel of its cell. -/
lemma stack_voxel (hunshared : Function.Injective t.cells.ptr) (point : Point K) :
    SameClouds t (g.stack n t point) ∧ ∀ ind, (g.stack n t point).voxel ind
      = if g.cellOf n point = some ind then (t.voxel ind).push point else t.voxel ind := by
  rw [Grid.stack]
  cases hcell : g.cellOf n point with
  | none => exact ⟨.refl t, fun ind => by simp⟩
  | some target =>
      refine ⟨⟨rfl, rfl, rfl⟩, fun ind => ?_⟩
      have hhistory := deref_history_log hunshared target (.pushed (t.cells.ptr target))
        (fun before => { before with pushed := before.pushed + 1 }) (fun cloud => rfl)
      simp only [Terrain.voxel, Terrain.history, modify_ptr, deref_modify hunshared,
        Option.some.injEq] at hhistory ⊢
      rw [hhistory]
      by_cases h : target = ind
      · subst h
        simp [Voxel.push]
      · simp [h, Ne.symm h]

variable (g n) in
/-- The points of the scan that fall in a cell. -/
def Grid.arrived (ind : Fin (g.width * g.width)) : List (Point K) :=
  n.laserCloudCrop.filter fun point => decide (g.cellOf n point = some ind)

variable [IsStrictOrderedRing K]

/-- **What an iteration does to the grid**: it rolls over, and then each cell gets its points and is
filtered if it is due. -/
theorem update_spec (sqrt : K → K) (vg : VoxelGrid K) (p : Params K) (n : Node K g.width)
    (hunshared : Function.Injective n.terrain.cells.ptr) :
    ∃ t, Rolled (g.rollSteps n.vehicleX n.terrain.shiftX) (g.rollSteps n.vehicleY n.terrain.shiftY)
        n.terrain t ∧
      |n.vehicleX - g.voxelSize * t.shiftX| ≤ g.voxelSize ∧
      |n.vehicleY - g.voxelSize * t.shiftY| ≤ g.voxelSize ∧
      SameClouds t (g.update sqrt vg p n) ∧ ∀ ind, (g.update sqrt vg p n).voxel ind
        = ((g.arrived n ind).foldl Voxel.push (t.voxel ind)).filter sqrt vg p n := by
  obtain ⟨t, hroll, hrolled, hx, hy⟩ := rollOver_spec g n.vehicleX n.vehicleY n.terrain
  have hunshared' := hrolled.injective hunshared
  obtain ⟨hsame, hstacked⟩ := foldl_targets (SameClouds t) Terrain.voxel
    (g.cellOf n) Voxel.push (fun s point hs => by
      obtain ⟨hkeep, hread⟩ := stack_voxel (n := n) (hs.ptr ▸ hunshared') point
      exact ⟨hs.trans hkeep, hread⟩) n.laserCloudCrop t (.refl t)
  obtain ⟨hsame', hfiltered⟩ := foldl_places (SameClouds t) Terrain.voxel
    (Voxel.filter sqrt vg p n) (fun s ind hs => by
      obtain ⟨hkeep, hread⟩ := filterCell_voxel sqrt vg p (hs.ptr ▸ hunshared') ind
      exact ⟨hs.trans hkeep, hread⟩)
    (List.finRange (g.width * g.width)) _ (List.nodup_finRange _) hsame
  have hupdate : g.update sqrt vg p n = (List.finRange (g.width * g.width)).foldl
      (n.filterCell sqrt vg p) (n.laserCloudCrop.foldl (g.stack n) t) := by
    rw [Grid.update, hroll]
  refine ⟨t, hrolled, hx, hy, hupdate ▸ hsame', fun ind => ?_⟩
  rw [hupdate, hfiltered, if_pos (List.mem_finRange ind), hstacked]
  rfl

/-! ## All runs -/

omit [IsStrictOrderedRing K] in
/-- Only an iteration with a new scan changes the grid. -/
lemma step_terrain (sqrt : K → K) (vg : VoxelGrid K) (p : Params K) (n : Node K g.width)
    (e : Event K) :
    ((g.step sqrt vg p n e).terrain = n.terrain ∧ ¬ (e = .iterate ∧ n.newlaserCloud = true)) ∨
      e = .iterate ∧ n.newlaserCloud = true ∧
        (g.step sqrt vg p n e).terrain = g.update sqrt vg p n := by
  cases e with
  | odometry x y z =>
      refine Or.inl ⟨?_, by simp⟩
      simp only [Grid.step, odometryHandler]
      split_ifs <;> rfl
  | laserCloud stamp laserCloud =>
      refine Or.inl ⟨?_, by simp⟩
      simp only [Grid.step, laserCloudHandler]
      split_ifs <;> rfl
  | joystick button =>
      refine Or.inl ⟨?_, by simp⟩
      simp only [Grid.step, joystickHandler]
      split_ifs <;> rfl
  | clearing dis => exact Or.inl ⟨rfl, by simp⟩
  | iterate =>
      by_cases hnew : n.newlaserCloud = true
      · exact Or.inr ⟨rfl, hnew, by rw [Grid.step, Grid.iterate, if_pos hnew]⟩
      · exact Or.inl ⟨by rw [Grid.step, Grid.iterate, if_neg hnew], fun h => hnew h.2⟩

lemma update_unshared (sqrt : K → K) (vg : VoxelGrid K) (p : Params K) (n : Node K g.width)
    (hunshared : Function.Injective n.terrain.cells.ptr) :
    Function.Injective (g.update sqrt vg p n).cells.ptr := by
  obtain ⟨t, hrolled, _, _, hsame, _⟩ := update_spec sqrt vg p n hunshared
  rw [hsame.ptr]
  exact hrolled.injective hunshared

variable (g) in
/-- What iterations keep, as long as no two cells share a cloud, holds in all runs. -/
theorem reached_terrain (sqrt : K → K) (vg : VoxelGrid K) (p : Params K)
    (Inv : Terrain K g.width → Prop) (hinit : Inv (.init K g.width))
    (hupdate : ∀ n : Node K g.width, Function.Injective n.terrain.cells.ptr → Inv n.terrain →
      Inv (g.update sqrt vg p n)) (events : List (Event K)) :
    Function.Injective (g.reached sqrt vg p events).terrain.cells.ptr ∧
      Inv (g.reached sqrt vg p events).terrain := by
  refine Machine.run_keeps
    (fun n : Node K g.width => Function.Injective n.terrain.cells.ptr ∧ Inv n.terrain) ?_ events _
    ⟨init_unshared K _, hinit⟩
  rintro n e ⟨hunshared, hinv⟩
  rcases step_terrain sqrt vg p n e with ⟨hsame, _⟩ | ⟨_, _, hupdated⟩
  · rw [hsame]
    exact ⟨hunshared, hinv⟩
  · rw [hupdated]
    exact ⟨update_unshared sqrt vg p n hunshared, hupdate n hunshared hinv⟩

end Iteration

end SentryNav.TerrainAnalysis
