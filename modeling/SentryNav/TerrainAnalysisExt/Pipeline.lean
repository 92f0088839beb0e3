import SentryNav.TerrainAnalysisExt.ExtendedMap

/-!
# The two terrain programs together

`terrain_analysis` publishes its maps, and `terrain_analysis_ext` takes them for its local maps.
Each runs at its own pace, and a map may come late, out of turn, or never.  Whatever the order, a
point of an extended map within the radius was in a map that `terrain_analysis` had published, and
all heights that the extended map shows are bounded (`extended_from_published`).
-/

namespace SentryNav.TerrainAnalysisExt

open Machine
open TerrainAnalysis (Grid VoxelGrid TerrainMap MapEvent MapNode levelLibm pole shownPole)

variable {K : Type*} [Field K] [LinearOrder K] [FloorRing K]

/-- The programs, with the maps of the first, newest first. -/
structure Pair (K : Type*) (width width' : ℕ) where
  terrain : MapNode K width
  published : List (TerrainMap K)
  extended : Node K width'

/-- What can happen to the programs. -/
inductive PairEvent (K : Type*)
  /-- `terrain_analysis` handles an event. -/
  | terrain (e : MapEvent K)
  /-- `terrain_analysis_ext` handles one. -/
  | extended (e : MapEvent K)
  /-- `terrain_analysis_ext` is given a map that was published, counted from the newest. -/
  | deliver (k : ℕ)

/-- An event as `terrain_analysis_ext` sees it. -/
def Event.ofShared : MapEvent K → Event K
  | .odometry x y z _ _ _ => .odometry x y z
  | .laserCloud stamp cloud => .laserCloud stamp cloud
  | .joystick button => .joystick button
  | .clearing dis => .clearing dis
  | .iterate => .iterate

variable (m : Libm K) (pi : K) (vg vg' : VoxelGrid K) (p : TerrainAnalysis.MapParams K)
  (p' : MapParams K) (g g' : Grid K)

/-- What happens then, and which extended maps are published. -/
def pairStep (s : Pair K g.width g'.width) :
    PairEvent K → Pair K g.width g'.width × List (TerrainMap K)
  | .terrain e =>
      let (terrain, maps) := g.mapStep m pi vg p s.terrain e
      ({ s with terrain := terrain, published := maps.reverse ++ s.published }, [])
  | .extended e =>
      let (extended, maps) := step m.sqrt vg' p' g' s.extended (Event.ofShared e)
      ({ s with extended := extended }, maps)
  | .deliver k =>
      match s.published[k]? with
      | none => (s, [])
      | some map =>
          ({ s with extended :=
              (step m.sqrt vg' p' g' s.extended (.terrainCloudLocal map.points)).1 }, [])

/-- The programs when they enter their main loops. -/
def Pair.init : Pair K g.width g'.width where
  terrain := .init p g.width
  published := []
  extended := .init p' g'.width

/-! ## What holds in all runs -/

/-- The heights that a map shows are not negative and not more than some height. -/
def HeightsWithin (h : K) (map : TerrainMap K) : Prop :=
  ∀ point ∈ map.points, 0 ≤ point.intensity ∧ point.intensity ≤ h

/-- The programs agree with their histories, the published maps are within bounds, and the local map
is one of them. -/
structure Consistent (s : Pair K g.width g'.width) : Prop where
  terrain : ∃ past, TerrainAnalysis.Tracks m p g past s.terrain
  extended : ∃ past, Tracks p' g' past s.extended
  heights : ∀ map ∈ s.published, HeightsWithin p.vehicleHeight map
  isLocal : ∀ point ∈ s.extended.terrainCloudLocal, ∃ map ∈ s.published, point ∈ map.points

/-- An extended map shows, within the radius, points of published maps; all heights are bounded. -/
def FromPublished (e : Emission (Pair K g.width g'.width) (PairEvent K) (TerrainMap K)) : Prop :=
  ∀ point ∈ e.output.points,
    (e.after.extended.dis m.sqrt point ≤ p'.localTerrainMapRadius
        ∧ (∃ map ∈ e.after.published, point ∈ map.points)
        ∧ 0 ≤ point.intensity ∧ point.intensity ≤ p.vehicleHeight) ∨
      p'.localTerrainMapRadius < e.after.extended.dis m.sqrt point
        ∧ 0 ≤ point.intensity ∧ point.intensity < p'.vehicleHeight

variable {m pi vg vg' p p' g g'} {s : Pair K g.width g'.width}

lemma consistent_init : Consistent m p p' g g' (Pair.init p p' g g') where
  terrain := ⟨[], TerrainAnalysis.tracks_init m p g⟩
  extended := ⟨[], tracks_init p' g'⟩
  heights _ h := absurd h List.not_mem_nil
  isLocal _ h := absurd h List.not_mem_nil

/-- The heights of a map of `terrain_analysis`. -/
lemma heightsWithin_of_rightMap {past : List (MapEvent K)} {n : MapNode K g.width}
    {map : TerrainMap K} (hheight : 0 ≤ p.vehicleHeight)
    (h : TerrainAnalysis.RightMap m p g past n map) : HeightsWithin p.vehicleHeight map := by
  obtain ⟨shown, obstacles, hpoints, hshown, hobstacles, -⟩ := h.points
  intro point hpoint
  rw [hpoints] at hpoint
  rcases List.mem_append.mp hpoint with hpoint | hpoint
  · obtain ⟨-, hnonneg, hlow, -⟩ := hshown point hpoint
    exact ⟨hnonneg, hlow.le⟩
  · obtain ⟨-, hintensity⟩ := hobstacles point hpoint
    exact ⟨hintensity ▸ hheight, hintensity.le⟩

/-- Only a local map changes the local map. -/
lemma terrainCloudLocal_ofShared {sqrt : K → K} (n : Node K g'.width) (e : MapEvent K) :
    (step sqrt vg' p' g' n (.ofShared e)).1.terrainCloudLocal = n.terrainCloudLocal := by
  cases e with
  | odometry x y z roll pitch yaw => rfl
  | laserCloud stamp cloud => rfl
  | joystick button =>
      simp only [Event.ofShared, step]
      split_ifs <;> rfl
  | clearing dis => rfl
  | iterate =>
      simp only [Event.ofShared, step]
      split_ifs <;> rfl

variable [IsStrictOrderedRing K]

lemma Consistent.step (h : Consistent m p p' g g' s) (hheight : 0 ≤ p.vehicleHeight)
    (e : PairEvent K) : Consistent m p p' g g' (pairStep m pi vg vg' p p' g g' s e).1 := by
  cases e with
  | terrain e =>
      obtain ⟨past, htracks⟩ := h.terrain
      refine ⟨⟨e :: past, htracks.step e⟩, h.extended, fun map hmap => ?_, fun point hpoint => ?_⟩
      · rcases List.mem_append.mp hmap with hmap | hmap
        · obtain ⟨-, hright⟩ := htracks.publishes pi vg e (List.mem_reverse.mp hmap)
          exact heightsWithin_of_rightMap hheight hright
        · exact h.heights map hmap
      · obtain ⟨map, hmap, hmem⟩ := h.isLocal point hpoint
        exact ⟨map, List.mem_append_right _ hmap, hmem⟩
  | extended e =>
      obtain ⟨past, htracks⟩ := h.extended
      refine ⟨h.terrain, ⟨_, htracks.step m.sqrt vg' (.ofShared e)⟩, h.heights,
        fun point hpoint => ?_⟩
      rw [pairStep, terrainCloudLocal_ofShared] at hpoint
      exact h.isLocal point hpoint
  | deliver k =>
      obtain ⟨past, htracks⟩ := h.extended
      rw [pairStep]
      cases hk : s.published[k]? with
      | none => exact h
      | some map =>
          exact ⟨h.terrain, ⟨_, htracks.step m.sqrt vg' (.terrainCloudLocal map.points)⟩,
            h.heights, fun point hpoint => ⟨map, List.mem_of_getElem? hk, hpoint⟩⟩

/-- A map that `terrain_analysis_ext` publishes in a consistent state. -/
lemma Consistent.fromPublished (h : Consistent m p p' g g' s) {e : PairEvent K}
    {past : Past (PairEvent K) (TerrainMap K)} {map : TerrainMap K}
    (hmap : map ∈ (pairStep m pi vg vg' p p' g g' s e).2) :
    FromPublished m p p' g g' ⟨past, s, (pairStep m pi vg vg' p p' g g' s e).1, map⟩ := by
  cases e with
  | terrain e => exact absurd hmap List.not_mem_nil
  | deliver k =>
      rw [pairStep] at hmap
      cases hk : s.published[k]? <;> rw [hk] at hmap <;> exact absurd hmap List.not_mem_nil
  | extended e =>
      obtain ⟨pastExtended, htracks⟩ := h.extended
      obtain ⟨he, hright⟩ := htracks.publishes m.sqrt vg' (.ofShared e) hmap
      obtain ⟨ground, far, -, hpoints, hfar⟩ := hright.points
      intro point hpoint
      rw [hpoints] at hpoint
      rcases List.mem_append.mp hpoint with hpoint | hpoint
      · obtain ⟨seen, -, hshows, -⟩ := hfar point hpoint
        obtain ⟨i, -, rfl, -⟩ := hshows.near
        exact .inr ⟨hshows.beyond, abs_nonneg _, hshows.low⟩
      · obtain ⟨hlocal, hnear⟩ := List.mem_filter.mp hpoint
        rw [← htracks.localMap] at hlocal
        obtain ⟨source, hsource, hmem⟩ := h.isLocal point hlocal
        obtain ⟨hnonneg, hbound⟩ := h.heights source hsource point hmem
        exact .inl ⟨of_decide_eq_true hnear, ⟨source, hsource, hmem⟩, hnonneg, hbound⟩

/-- **An extended map is made of published maps and of heights within bounds**, however the two
programs take turns, and whenever the local maps arrive. -/
theorem extended_from_published (m : Libm K) (pi : K) (vg vg' : VoxelGrid K)
    (p : TerrainAnalysis.MapParams K) (p' : MapParams K) (g g' : Grid K)
    (hheight : 0 ≤ p.vehicleHeight) (events : List (PairEvent K)) :
    ∀ e ∈ emissions (pairStep m pi vg vg' p p' g g') .start (Pair.init p p' g g') events,
      FromPublished m p p' g g' e := by
  refine emissions_safe (fun _ s => Consistent m p p' g g' s) (FromPublished m p p' g g')
    (fun _ _ e h _ => h.step hheight e) (fun past s e h (_ : True) sooner map later hmap => ?_)
    events .start _ consistent_init (admissible_of_forall (fun _ _ _ => trivial) _ _ _)
  exact h.fromPublished (hmap ▸ List.mem_append_right sooner List.mem_cons_self)

/-- A map with a pole near the vehicle and one that is farther is published; it is delivered before
the other program, which has a scan with a point of the ground, makes its map. -/
def delivered : List (PairEvent ℚ) :=
  [.terrain (.odometry 0 0 0 0 0 0),
    .terrain (.laserCloud 1700000000123456789 (pole 1 ++ pole 5)), .terrain .iterate,
    .extended (.odometry 0 0 0 0 0 0),
    .extended (.laserCloud 1700000000123456789 [⟨41 / 10, 0, -1 / 2, 0⟩]), .deliver 0,
    .extended .iterate]

/-- What happens then, with what is published. -/
abbrev deliveredMaps :
    List (Emission (Pair ℚ (Grid.terrainAnalysis ℚ).width smallGrid.width) (PairEvent ℚ)
      (TerrainMap ℚ)) :=
  emissions (pairStep levelLibm 3.1415926 (.sparse ℚ) (.sparse ℚ) .declared .declared
      (.terrainAnalysis ℚ) smallGrid) .start
    (Pair.init .declared .declared (.terrainAnalysis ℚ) smallGrid) delivered

/-- The extended map shows the point of the ground and the pole that is near. -/
theorem extended_from_published_delivered :
    ∃ e ∈ deliveredMaps, e.output.points = ⟨41 / 10, 0, -1 / 2, 0⟩ :: shownPole 1 ∧
      FromPublished levelLibm .declared .declared (.terrainAnalysis ℚ) smallGrid e := by
  have hheight : (0 : ℚ) ≤ 1.5 := by norm_num
  have hmap : deliveredMaps.map (fun e => e.output.points)
      = [⟨41 / 10, 0, -1 / 2, 0⟩ :: shownPole 1] := by decide +kernel
  obtain ⟨e, he, hshown⟩ := List.mem_map.mp (hmap ▸ List.mem_singleton_self _)
  exact ⟨e, he, hshown, extended_from_published levelLibm 3.1415926 (.sparse ℚ) (.sparse ℚ)
    .declared .declared (.terrainAnalysis ℚ) smallGrid hheight delivered e he⟩

end SentryNav.TerrainAnalysisExt
