import SentryNav.TerrainAnalysis.Drift

/-!
# The counters of the cells

For each cell the program counts the points that were pushed since it was last filtered, and keeps
the time of that.  Stacking and filtering keep the counters in step with the clouds.  A roll-over
moves the clouds to other cells and leaves the counters where they are: they then are those of
another cloud, and a cloud can be filtered too late or too early.
-/

namespace SentryNav.TerrainAnalysis

open PointerArray Raster

variable {K : Type*}

/-- The counters of a cell say what has happened to its cloud: the points pushed since it was last
filtered, made or emptied; and the time of the last filtering, if it holds points from then. -/
def Voxel.Bookkept (v : Voxel K) : Prop :=
  v.updateNum = v.history.pushed ∧ ∀ time, v.history.keptAt = some time → v.updateTime = time

/-- The counters of all cells do. -/
def Terrain.Bookkept {width : ℕ} (t : Terrain K width) : Prop :=
  ∀ ind : Fin (width * width), (t.voxel ind).Bookkept

lemma bookkept_init [Zero K] (width : ℕ) : (Terrain.init K width).Bookkept := by
  intro ind
  exact ⟨rfl, fun time h => nomatch h⟩

/-- The counters of a cell suit the cloud of another cell, or an empty one. -/
def Voxel.Suits (v : Voxel K) : Option (Voxel K) → Prop
  | none => v.updateNum = 0
  | some source => v.updateNum = source.updateNum ∧
      (source.history.keptAt ≠ none → v.updateTime = source.updateTime)

section Iteration

variable [Field K] [LinearOrder K] [FloorRing K] (p : Params K) (g : Grid K)

/-- The cell whose cloud a roll-over brings to a cell, if it was in the grid. -/
def Grid.source (n : Node K g.width) (indX indY : Fin g.width) : Option (Voxel K) :=
  (cell? g.width (indX + g.rollSteps n.vehicleX n.terrain.shiftX)
    (indY + g.rollSteps n.vehicleY n.terrain.shiftY)).map n.terrain.voxel

/-- Each cell is filtered in this iteration, or its counters suit the cloud that comes to it. -/
def Grid.CountersSuit (n : Node K g.width) : Prop :=
  ∀ indX indY : Fin g.width,
    n.Due p (n.terrain.updateNum (cell indX indY) + (g.arrived n (cell indX indY)).length)
        (n.terrain.updateTime (cell indX indY)) ∨
      (n.terrain.voxel (cell indX indY)).Suits (g.source n indX indY)

/-- The counters suit the roll-over, in an iteration that has one. -/
def Grid.RollSuits (n : Node K g.width) (e : Event K) : Prop :=
  e = .iterate → n.newlaserCloud = true → g.CountersSuit p n

end Iteration

/-- Filtering a cell puts its counters right; a cell that is not due is right as it is, or not. -/
lemma bookkept_filter [Field K] [LinearOrder K] {width : ℕ} (sqrt : K → K) (vg : VoxelGrid K)
    (p : Params K) (n : Node K width) (v : Voxel K) :
    (v.filter sqrt vg p n).Bookkept ↔ n.Due p v.updateNum v.updateTime ∨ v.Bookkept := by
  rw [Voxel.filter]
  split_ifs with hdue
  · refine ⟨fun _ => Or.inl hdue, fun _ => ⟨rfl, fun time htime => ?_⟩⟩
    simp only at htime ⊢
    split_ifs at htime
    exact Option.some.inj htime
  · exact ⟨Or.inr, fun h => h.resolve_left hdue⟩

/-- Pushing points keeps the counters as right as they are. -/
lemma bookkept_foldl_push (points : List (Point K)) (v : Voxel K) :
    (points.foldl Voxel.push v).Bookkept ↔ v.Bookkept := by
  rw [foldl_push]
  simp only [Voxel.Bookkept, Nat.add_right_cancel_iff]

/-- A cell that has got the cloud of another is right just when its counters suit that. -/
lemma bookkept_moved {v : Voxel K} {source : Option (Voxel K)}
    (hhistory : v.history = source.elim .new Voxel.history)
    (hsource : ∀ w, source = some w → w.Bookkept) : v.Bookkept ↔ v.Suits source := by
  rw [Voxel.Bookkept, hhistory]
  cases source with
  | none => exact ⟨fun h => h.1, fun h => ⟨h, fun time htime => nomatch htime⟩⟩
  | some w =>
      obtain ⟨hnum, htime⟩ := hsource w rfl
      simp only [Option.elim_some, Voxel.Suits, hnum]
      refine and_congr_right fun _ => ?_
      cases hkept : w.history.keptAt with
      | none => simp
      | some time => simp [htime time hkept]

section Runs

variable [Field K] [LinearOrder K] [IsStrictOrderedRing K] [FloorRing K]
  (sqrt : K → K) (vg : VoxelGrid K) (p : Params K) (g : Grid K)

/-- **An iteration keeps the books just when the counters suit its roll-over.** -/
theorem bookkept_update_iff (n : Node K g.width)
    (hunshared : Function.Injective n.terrain.cells.ptr) (hbooks : n.terrain.Bookkept) :
    (g.update sqrt vg p n).Bookkept ↔ g.CountersSuit p n := by
  obtain ⟨t, hrolled, _, _, _, hvoxel⟩ := update_spec sqrt vg p n hunshared
  have hcell : ∀ indX indY, ((g.update sqrt vg p n).voxel (cell indX indY)).Bookkept ↔
      n.Due p (n.terrain.updateNum (cell indX indY) + (g.arrived n (cell indX indY)).length)
          (n.terrain.updateTime (cell indX indY)) ∨
        (n.terrain.voxel (cell indX indY)).Suits (g.source n indX indY) := by
    intro indX indY
    have hhistory : (t.voxel (cell indX indY)).history
        = (g.source n indX indY).elim .new Voxel.history := by
      change t.history.deref (cell indX indY) = _
      rw [hrolled.deref_history hunshared, view, Grid.source, Option.elim_map]
      rfl
    have hsource : ∀ w, g.source n indX indY = some w → w.Bookkept := by
      intro w hw
      obtain ⟨ind, _, rfl⟩ := Option.map_eq_some_iff.mp hw
      exact hbooks ind
    have hsuits : (t.voxel (cell indX indY)).Suits (g.source n indX indY) ↔
        (n.terrain.voxel (cell indX indY)).Suits (g.source n indX indY) := by
      cases g.source n indX indY <;>
        simp only [Voxel.Suits, Terrain.voxel, hrolled.updateNum, hrolled.updateTime]
    rw [hvoxel, bookkept_filter, bookkept_foldl_push, bookkept_moved hhistory hsource, hsuits,
      foldl_push]
    simp only [Terrain.voxel, hrolled.updateNum, hrolled.updateTime]
  constructor
  · exact fun h indX indY => (hcell indX indY).mp (h _)
  · intro h ind
    obtain ⟨indX, indY, rfl⟩ := exists_cell ind
    exact (hcell indX indY).mpr (h indX indY)

/-- **The books are kept in every state of a run just when, in every iteration with a new scan, the
counters suit the roll-over.** -/
theorem bookkeeping (events : List (Event K)) :
    (∀ first, first <+: events → (g.reached sqrt vg p first).terrain.Bookkept) ↔
      Machine.Guarded (g.step sqrt vg p) (g.RollSuits p) (.init p g.width) events := by
  refine Machine.guarded_iff (fun n : Node K g.width => Function.Injective n.terrain.cells.ptr)
    (fun n : Node K g.width => n.terrain.Bookkept) ?_ ?_ events _ (init_unshared K _)
    (bookkept_init _)
  · intro n e hunshared
    rcases step_terrain sqrt vg p n e with ⟨hsame, _⟩ | ⟨_, _, hupdated⟩
    · rwa [hsame]
    · rw [hupdated]
      exact update_unshared sqrt vg p n hunshared
  · intro n e hunshared hbooks
    rcases step_terrain sqrt vg p n e with ⟨hsame, hother⟩ | ⟨rfl, hnew, hupdated⟩
    · rw [hsame]
      exact ⟨fun _ he hnew => absurd ⟨he, hnew⟩ hother, fun _ => hbooks⟩
    · rw [hupdated, bookkept_update_iff sqrt vg p g n hunshared hbooks]
      exact ⟨fun h _ _ => h, fun h => h rfl hnew⟩

/-- Without a roll-over the counters suit, so the books are kept while the vehicle stays within a
voxel of the centre of the grid. -/
theorem countersSuit_of_near {n : Node K g.width}
    (hx : |n.vehicleX - g.voxelSize * n.terrain.shiftX| ≤ g.voxelSize)
    (hy : |n.vehicleY - g.voxelSize * n.terrain.shiftY| ≤ g.voxelSize) : g.CountersSuit p n := by
  intro indX indY
  refine Or.inr ?_
  rw [Grid.source, Grid.rollSteps, Grid.rollSteps, approach_of_near hx, approach_of_near hy,
    add_zero, add_zero, cell?_cast]
  exact ⟨rfl, fun _ => rfl⟩

end Runs

/-- A point is stacked on the cell around the vehicle; then the vehicle goes on into the next voxel,
and there is another scan, without points. -/
def leaving : List (Event ℚ) :=
  [.odometry 0 0 0, .laserCloud 0 [⟨0, 0, 0, 0⟩], .iterate, .odometry (3 / 2) 0 0,
    .laserCloud 0 [], .iterate]

theorem bookkeeping_leaving :
    (∀ first, first <+: leaving → (exactRun first).terrain.Bookkept) ↔
      Machine.Guarded ((Grid.terrainAnalysis ℚ).step Rat.sqrt (.sparse ℚ) .declared)
        ((Grid.terrainAnalysis ℚ).RollSuits .declared) (.init .declared _) leaving :=
  bookkeeping _ _ _ _ leaving

/-- The cell in the middle of the grid has a new cloud and still counts the point. -/
theorem bookkeeping_fails : ¬ (exactRun leaving).terrain.Bookkept := by
  intro hbooks
  have hmiddle := (hbooks (cell ⟨10, by decide⟩ ⟨10, by decide⟩)).1
  exact absurd hmiddle (by decide +kernel)

end SentryNav.TerrainAnalysis
