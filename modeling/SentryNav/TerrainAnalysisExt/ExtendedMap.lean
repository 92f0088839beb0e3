import SentryNav.TerrainAnalysis.MapRuns
import SentryNav.TerrainAnalysisExt.Node

/-!
# What the extended terrain map shows

In every run the program publishes one map for each scan that it handles, and the map is as it
should be (`Tracks.rightMap`, `extended_maps`): beyond the radius of the local map it shows points
of its own terrain cloud, near the ground of their voxels, which are connected to the vehicle's
voxel by small steps of the ground; within, it shows exactly the points of the last local map.
-/

namespace SentryNav.TerrainAnalysisExt

open Machine PointerArray Raster
open TerrainAnalysis (Point VoxelGrid Grid GroundParams cell? around TerrainMap MapEvent Ground)

variable {K : Type*} [Field K] [LinearOrder K] [FloorRing K] {sqrt : K → K} {p : MapParams K}
  {width : ℕ} {n : Node K width}

/-! ## Heights -/

section Heights

variable (sqrt p n)

/-- The place of a point is at most one voxel from a voxel, along each axis. -/
def Node.Neighbouring (n : Node K width) (i : PlanarVoxel) (point : Point K) : Prop :=
  |planarIndex (point.x - n.vehicleX) - indX i| ≤ 1 ∧
    |planarIndex (point.y - n.vehicleY) - indY i| ≤ 1

instance (i : PlanarVoxel) (point : Point K) : Decidable (n.Neighbouring i point) :=
  inferInstanceAs (Decidable (_ ∧ _))

/-- The heights of the points around a voxel. -/
def Node.heights (i : PlanarVoxel) : Multiset K :=
  ((n.terrainCloud : Multiset (Point K)).filter fun point =>
    n.HeightInRange sqrt p.terrain point ∧ n.Neighbouring i point).map Point.z

variable {sqrt p n}

omit [Field K] [LinearOrder K] [FloorRing K] in
/-- A height is pushed back to a voxel once, if the voxel is around its place. -/
lemma foldl_pushElev (z : K) (ix iy : ℤ) (pointElev : PlanarVoxel → List K) (i : PlanarVoxel) :
    around.foldl (pushElev z ix iy) pointElev i
      = pointElev i ++ if (indX i - ix, indY i - iy) ∈ around then [z] else [] := by
  have htarget : ∀ d : ℤ × ℤ, voxelAt? (ix + d.1) (iy + d.2) = some i
      ↔ d = (indX i - ix, indY i - iy) := by
    rintro ⟨dX, dY⟩
    rw [voxelAt?_eq_some_iff, Prod.mk.injEq]
    constructor <;> rintro ⟨hX, hY⟩ <;> constructor <;> omega
  have hpush : ∀ (pointElev : PlanarVoxel → List K) (d : ℤ × ℤ) j, pushElev z ix iy pointElev d j
      = if voxelAt? (ix + d.1) (iy + d.2) = some j then pointElev j ++ [z] else pointElev j := by
    intro pointElev d j
    rw [pushElev]
    cases hvoxel : voxelAt? (ix + d.1) (iy + d.2) with
    | none => simp
    | some other =>
        by_cases hother : other = j
        · subst hother
          simp
        · simp [hother, Ne.symm hother]
  have hfold := (foldl_targets (fun _ => True) (fun pointElev i => pointElev i)
    (fun d : ℤ × ℤ => voxelAt? (ix + d.1) (iy + d.2)) (fun heights _ => heights ++ [z])
    (fun pointElev d _ => ⟨trivial, hpush pointElev d⟩) around pointElev trivial).2 i
  have hnodup : around.Nodup := by decide
  rw [hfold]
  simp only [htarget, List.filter_eq, hnodup.count]
  split_ifs
  · rfl
  · exact (List.append_nil _).symm

lemma enter_eq (pointElev : PlanarVoxel → List K) (point : Point K) (i : PlanarVoxel) :
    n.enter sqrt p pointElev point i = pointElev i
      ++ if n.HeightInRange sqrt p.terrain point ∧ n.Neighbouring i point then [point.z]
        else [] := by
  have hplace : (indX i - planarIndex (point.x - n.vehicleX),
        indY i - planarIndex (point.y - n.vehicleY)) ∈ around ↔ n.Neighbouring i point := by
    rw [TerrainAnalysis.mem_around, Node.Neighbouring, abs_le, abs_le]
    omega
  rw [Node.enter]
  by_cases hrange : n.HeightInRange sqrt p.terrain point
  · rw [if_pos hrange, foldl_pushElev]
    simp only [hplace, hrange, true_and]
  · rw [if_neg hrange, if_neg fun hpoint => hrange hpoint.1, List.append_nil]

/-- **The heights in a voxel** are those of the points around it. -/
lemma planarPointElev_eq (i : PlanarVoxel) :
    (n.planarPointElev sqrt p i : Multiset K) = n.heights sqrt p i := by
  have hfold : ∀ (cloud : List (Point K)) (pointElev : PlanarVoxel → List K),
      cloud.foldl (n.enter sqrt p) pointElev i = pointElev i
        ++ (cloud.filter fun point => n.HeightInRange sqrt p.terrain point
          ∧ n.Neighbouring i point).map Point.z := by
    intro cloud
    induction cloud with
    | nil => simp
    | cons point cloud ih =>
        intro pointElev
        rw [List.foldl_cons, ih, enter_eq]
        by_cases hpoint : n.HeightInRange sqrt p.terrain point ∧ n.Neighbouring i point <;>
          simp [hpoint]
  rw [Node.planarPointElev, hfold, List.nil_append]
  simp [Node.heights]

end Heights

/-! ## Ground and connection -/

section Planar

variable (sqrt p n)

/-- The ground of a voxel: with nothing to go by, that of the vehicle's own voxel is a fixed height
below the vehicle. -/
def Node.IsGround (i : PlanarVoxel) (z : K) : Prop :=
  if p.checkTerrainConn = true ∧ i = vehicleVoxel ∧ n.heights sqrt p i = 0 then
    z = n.vehicleZ + p.terrainUnderVehicle
  else Ground p.ground (n.heights sqrt p i) z

/-- A small step of the ground, to a voxel with points. -/
def Node.Level (ground : PlanarVoxel → K) (a b : PlanarVoxel) : Prop :=
  0 < (n.heights sqrt p b).card ∧ Near a b ∧ |ground a - ground b| < p.terrainConnThre

/-- A voxel is connected to that of the vehicle. -/
def Node.Connected (ground : PlanarVoxel → K) (i : PlanarVoxel) : Prop :=
  ∃ chain, (vehicleVoxel :: chain).IsChain (n.Level sqrt p ground) ∧
    (vehicleVoxel :: chain).getLast (List.cons_ne_nil _ _) = i

variable {sqrt p n}

lemma length_planarPointElev (i : PlanarVoxel) :
    (n.planarPointElev sqrt p i).length = (n.heights sqrt p i).card := by
  rw [← planarPointElev_eq, Multiset.coe_card]

/-- **The connectivity check**, on what the program hands it: it always comes to an end, with the
right ground, and what it has visited is connected. -/
lemma planar_spec (sqrt : K → K) (p : MapParams K) (n : Node K width) :
    ∃ s, n.planar sqrt p = some (some s) ∧ (∀ i, n.IsGround sqrt p i (s.elev i)) ∧
      ∀ i, s.conn i = 2 → n.Connected sqrt p s.elev i := by
  have hground : ∀ i, Ground p.ground (n.heights sqrt p i)
      (planarVoxelElev p (n.planarPointElev sqrt p i)) := by
    intro i
    rw [← planarPointElev_eq]
    exact TerrainAnalysis.ground_elev p.ground _
  by_cases hcheck : p.checkTerrainConn = true
  · obtain ⟨t, hend, hfilled⟩ := checkConnectivity_filled p.toParams hcheck n.vehicleZ
      (fun i => planarVoxelElev p (n.planarPointElev sqrt p i)) (n.planarPointElev sqrt p)
    refine ⟨_, hend, fun i => ?_, fun i hi => ?_⟩
    · show n.IsGround sqrt p i (groundElev p.toParams n.vehicleZ _ _ i)
      have hnone : (n.planarPointElev sqrt p vehicleVoxel).length = 0
          ↔ n.heights sqrt p vehicleVoxel = 0 := by
        rw [length_planarPointElev, Multiset.card_eq_zero]
      rw [Node.IsGround, groundElev]
      by_cases hvehicle : i = vehicleVoxel
      · subst hvehicle
        by_cases hempty : n.heights sqrt p vehicleVoxel = 0
        · rw [if_pos ⟨hcheck, rfl, hempty⟩, if_pos (hnone.mpr hempty), Function.update_self]
        · rw [if_neg fun h => hempty h.2.2, if_neg fun h => hempty (hnone.mp h)]
          exact hground vehicleVoxel
      · rw [if_neg fun h => hvehicle h.2.1]
        split_ifs
        · rw [Function.update_of_ne hvehicle]
          exact hground i
        · exact hground i
    · rw [planar_conn, conn_eq_two_iff] at hi
      have hlinked := hfilled.linked i ((hfilled.mem_pushed i).mpr (Or.inr hi))
      refine List.exists_isChain_cons_of_relationReflTransGen
        (Relation.ReflTransGen.mono (fun a b hab => ?_) vehicleVoxel i hlinked)
      obtain ⟨hpoints, hnear, hstep⟩ := linked_iff.mp hab
      have hcard : 0 < (n.heights sqrt p b).card := by rwa [← length_planarPointElev]
      exact ⟨hcard, hnear, hstep⟩
  · refine ⟨Planar.start (fun i => planarVoxelElev p (n.planarPointElev sqrt p i))
      (n.planarPointElev sqrt p), ?_, fun i => ?_,
      fun i (hi : (0 : ℤ) = 2) => absurd hi (by decide)⟩
    · rw [Node.planar, checkConnectivity, if_neg hcheck]
    · rw [Node.IsGround, if_neg fun h => hcheck h.1]
      exact hground i

end Planar

/-! ## The points of a map -/

section Points

variable (sqrt p n)

/-- The map shows a point of the terrain cloud as `shown`, by some ground. -/
structure Node.Shows (ground : PlanarVoxel → K) (point shown : Point K) : Prop where
  inRange : n.HeightInRange sqrt p.terrain point
  beyond : p.localTerrainMapRadius < n.dis sqrt point
  near : ∃ i, voxelAt? (planarIndex (point.x - n.vehicleX)) (planarIndex (point.y - n.vehicleY))
      = some i ∧ shown = { point with intensity := |point.z - ground i| } ∧
    (p.checkTerrainConn = true → n.Connected sqrt p ground i)
  low : shown.intensity < p.vehicleHeight

variable {sqrt p n}

/-- Every point of the first loop is one that the map should show. -/
lemma mem_foldl_elevate {s : Planar K} {cloud start : List (Point K)} {shown : Point K}
    (hconn : ∀ i, s.conn i = 2 → n.Connected sqrt p s.elev i)
    (h : shown ∈ cloud.foldl (n.elevate sqrt p s) start) :
    shown ∈ start ∨ ∃ point ∈ cloud, n.Shows sqrt p s.elev point shown := by
  induction cloud generalizing start with
  | nil => exact .inl h
  | cons point cloud ih =>
      rcases ih h with hstart | ⟨seen, hseen, hshows⟩
      · rw [Node.elevate] at hstart
        split_ifs at hstart with hpoint
        · cases hvoxel : voxelAt? (planarIndex (point.x - n.vehicleX))
              (planarIndex (point.y - n.vehicleY)) with
          | none =>
              rw [hvoxel] at hstart
              exact .inl hstart
          | some i =>
              rw [hvoxel] at hstart
              dsimp only at hstart
              split_ifs at hstart with hlow
              · rcases List.mem_append.mp hstart with hstart | hlast
                · exact .inl hstart
                · obtain rfl := List.mem_singleton.mp hlast
                  refine .inr ⟨point, List.mem_cons_self, hpoint.1, hpoint.2, ⟨i, hvoxel, rfl,
                    fun hcheck => hconn i ?_⟩, hlow.1⟩
                  exact hlow.2.resolve_right (by simp [hcheck])
              · exact .inl hstart
        · exact .inl hstart
      · exact .inr ⟨seen, List.mem_cons_of_mem _ hseen, hshows⟩

omit [FloorRing K] in
/-- The second loop adds the points within the radius. -/
lemma foldl_mergeLocal (cloud start : List (Point K)) :
    cloud.foldl (n.mergeLocal sqrt p) start
      = start ++ cloud.filter fun point => n.dis sqrt point ≤ p.localTerrainMapRadius := by
  induction cloud generalizing start with
  | nil => simp
  | cons point cloud ih =>
      rw [List.foldl_cons, ih, Node.mergeLocal]
      by_cases hnear : n.dis sqrt point ≤ p.localTerrainMapRadius <;> simp [hnear]

end Points

/-! ## Runs -/

section Runs

/-- The events that `terrain_analysis` handles in the same way, as far as scans and clearing go. -/
def Event.shared : Event K → Option (MapEvent K)
  | .odometry x y z => some (.odometry x y z 0 0 0)
  | .laserCloud stamp cloud => some (.laserCloud stamp cloud)
  | .terrainCloudLocal _ => none
  | .joystick button => some (.joystick button)
  | .clearing dis => some (.clearing dis)
  | .iterate => some .iterate

/-- The last local map. -/
def lastLocal : List (Event K) → List (Point K)
  | [] => []
  | .terrainCloudLocal cloud :: _ => cloud
  | _ :: past => lastLocal past

/-- A scan has come since the last iteration. -/
def scanWaiting (past : List (Event K)) : Bool :=
  TerrainAnalysis.scanWaiting (past.filterMap Event.shared)

/-- The stamp of the latest scan. -/
def lastStamp (past : List (Event K)) : Option ℤ :=
  TerrainAnalysis.lastStamp (past.filterMap Event.shared)

/-- The cloud was to be cleared, and no iteration has done so yet. -/
def clearingRequested (past : List (Event K)) : Bool :=
  TerrainAnalysis.clearingRequested (past.filterMap Event.shared)

/-- The distance out to which the cloud is cleared. -/
def clearingDistance (p : MapParams K) : List (Event K) → K
  | [] => p.terrain.clearingDis
  | .clearing dis :: _ => dis
  | _ :: past => clearingDistance p past

variable (sqrt p) (vg : VoxelGrid K) (g : Grid K)

/-- The variables of the program agree with the history. -/
structure Tracks (past : List (Event K)) (n : Node K g.width) : Prop where
  unshared : Function.Injective n.terrain.cells.ptr
  waiting : n.newlaserCloud = scanWaiting past
  stamp : ∀ stamp, lastStamp past = some stamp → n.laserCloudTime = seconds stamp
  clearing : n.clearingCloud = clearingRequested past
  distance : n.clearingDis = clearingDistance p past
  localMap : n.terrainCloudLocal = lastLocal past

lemma tracks_init : Tracks p g [] (Node.init p g.width) where
  unshared := TerrainAnalysis.init_unshared K g.width
  waiting := rfl
  stamp _ h := nomatch h
  clearing := rfl
  distance := rfl
  localMap := rfl

variable {sqrt p vg g} {past : List (Event K)} {n : Node K g.width}

lemma Tracks.laserCloud (h : Tracks p g past n) (stamp : ℤ) (cloud : List (Point K)) :
    Tracks p g (.laserCloud stamp cloud :: past)
      { n with
        toNode := TerrainAnalysis.laserCloudHandler sqrt p.terrain g n.toNode stamp cloud } := by
  rw [TerrainAnalysis.laserCloudHandler]
  have hstamp : ∀ last, lastStamp (.laserCloud stamp cloud :: past) = some last →
      seconds stamp = (seconds last : K) :=
    fun _ hlast => congrArg seconds (Option.some.inj hlast)
  by_cases hinited : n.systemInited = true
  · simp only [hinited, if_true]
    exact ⟨h.unshared, rfl, hstamp, h.clearing, h.distance, h.localMap⟩
  · simp only [hinited]
    exact ⟨h.unshared, rfl, hstamp, h.clearing, h.distance, h.localMap⟩

lemma Tracks.joystick (h : Tracks p g past n) (button : ℤ) :
    Tracks p g (.joystick button :: past)
      (if (0.5 : K) < button then { n with clearingCloud := true } else n) := by
  have hclearing : clearingRequested (.joystick button :: past)
      = (decide ((0.5 : K) < button) || clearingRequested past) := rfl
  by_cases hpressed : (0.5 : K) < button
  · rw [decide_eq_true hpressed, Bool.true_or] at hclearing
    rw [if_pos hpressed]
    exact ⟨h.unshared, h.waiting, h.stamp, hclearing.symm, h.distance, h.localMap⟩
  · rw [decide_eq_false hpressed, Bool.false_or] at hclearing
    rw [if_neg hpressed]
    exact ⟨h.unshared, h.waiting, h.stamp, h.clearing.trans hclearing.symm, h.distance,
      h.localMap⟩

variable [IsStrictOrderedRing K]

lemma Tracks.step (h : Tracks p g past n) (sqrt : K → K) (vg : VoxelGrid K) (e : Event K) :
    Tracks p g (e :: past) (TerrainAnalysisExt.step sqrt vg p g n e).1 := by
  cases e with
  | odometry x y z =>
      exact ⟨h.unshared, h.waiting, h.stamp, h.clearing, h.distance, h.localMap⟩
  | laserCloud stamp cloud => exact h.laserCloud stamp cloud
  | terrainCloudLocal cloud =>
      exact ⟨h.unshared, h.waiting, h.stamp, h.clearing, h.distance, rfl⟩
  | joystick button => exact h.joystick button
  | clearing dis => exact ⟨h.unshared, h.waiting, h.stamp, rfl, rfl, h.localMap⟩
  | iterate =>
      have hclearing : clearingRequested (.iterate :: past)
          = (!scanWaiting past && clearingRequested past) := rfl
      rw [TerrainAnalysisExt.step]
      by_cases hscan : n.newlaserCloud = true
      · rw [← h.waiting, hscan] at hclearing
        rw [if_pos hscan]
        exact ⟨TerrainAnalysis.update_unshared sqrt vg p.terrain n.toNode h.unshared, rfl,
          h.stamp, hclearing.symm, h.distance, h.localMap⟩
      · have hnone : n.newlaserCloud = false := Bool.eq_false_iff.mpr hscan
        rw [← h.waiting, hnone] at hclearing
        rw [if_neg hscan]
        exact ⟨h.unshared, hnone, h.stamp, h.clearing.trans hclearing.symm, h.distance,
          h.localMap⟩

variable (sqrt p g) in
/-- A map is as it should be, from what happened before the iteration and the state after it. -/
structure RightMap (past : List (Event K)) (n : Node K g.width) (map : TerrainMap K) : Prop where
  stamp : ∃ stamp, lastStamp past = some stamp ∧
    map.stamp = stampOfSeconds (seconds stamp : K) ∧
    (0 ≤ stamp → stamp < 2 ^ 31 * 1000000000 → |map.stamp - stamp| < 1000)
  /-- Nothing is left in any cell within the clearing distance. -/
  cleared : clearingRequested past = true → ∀ ind, ∀ point ∈ n.terrain.cells.deref ind,
    clearingDistance p past ≤ n.dis sqrt point
  points : ∃ ground far, (∀ i, n.IsGround sqrt p i (ground i)) ∧
    map.points = far ++ ((lastLocal past).filter fun point =>
      n.dis sqrt point ≤ p.localTerrainMapRadius) ∧
    ∀ shown ∈ far, ∃ point ∈ n.terrainCloud, n.Shows sqrt p ground point shown ∧
      (clearingRequested past = true → clearingDistance p past ≤ n.dis sqrt shown)

/-- A map is published as it should be, and one for each scan. -/
lemma Tracks.rightMap (h : Tracks p g past n) (sqrt : K → K) (vg : VoxelGrid K)
    (hscan : n.newlaserCloud = true) :
    ∃ map, (TerrainAnalysisExt.step sqrt vg p g n .iterate).2 = [map] ∧
      RightMap sqrt p g past (TerrainAnalysisExt.step sqrt vg p g n .iterate).1 map := by
  obtain ⟨stamp, hstamp⟩ :=
    TerrainAnalysis.lastStamp_of_scanWaiting (h.waiting.symm.trans hscan)
  have hcleared : clearingRequested past = true → ∀ ind,
      ∀ point ∈ (g.update sqrt vg p.terrain n.toNode).cells.deref ind,
        clearingDistance p past ≤ n.dis sqrt point := by
    intro hrequested ind point hpoint
    rw [← h.distance]
    exact TerrainAnalysis.cleared_update sqrt p.terrain n.toNode h.unshared
      (h.clearing.trans hrequested) hpoint
  obtain ⟨s, hplanar, hground, hconn⟩ := planar_spec sqrt p (iterate sqrt vg p g n)
  rw [TerrainAnalysisExt.step, if_pos hscan]
  simp only [hplanar]
  refine ⟨_, rfl, ⟨stamp, hstamp, stampOfSeconds_spec (h.stamp stamp hstamp)⟩, hcleared, s.elev,
    (iterate sqrt vg p g n).terrainCloud.foldl
      ((iterate sqrt vg p g n).elevate sqrt p s) [], hground, ?_, fun shown hshown => ?_⟩
  · rw [Node.terrainCloudElev, foldl_mergeLocal, ← h.localMap]
    rfl
  · obtain ⟨point, hpoint, hshows⟩ :=
      (mem_foldl_elevate hconn hshown).resolve_left List.not_mem_nil
    refine ⟨point, hpoint, hshows, fun hrequested => ?_⟩
    obtain ⟨i, -, rfl, -⟩ := hshows.near
    obtain ⟨ind, hind⟩ := TerrainAnalysis.exists_of_mem_cells hpoint
    exact hcleared hrequested ind point hind

/-- Whatever is published is a map as it should be. -/
lemma Tracks.publishes (h : Tracks p g past n) (sqrt : K → K) (vg : VoxelGrid K) (e : Event K)
    {map : TerrainMap K} (hmap : map ∈ (TerrainAnalysisExt.step sqrt vg p g n e).2) :
    e = .iterate ∧ RightMap sqrt p g past (TerrainAnalysisExt.step sqrt vg p g n e).1 map := by
  cases e with
  | iterate =>
      by_cases hscan : n.newlaserCloud = true
      · obtain ⟨only, houtput, hright⟩ := h.rightMap sqrt vg hscan
        rw [houtput] at hmap
        obtain rfl := List.mem_singleton.mp hmap
        exact ⟨rfl, hright⟩
      · rw [TerrainAnalysisExt.step, if_neg hscan] at hmap
        exact absurd hmap List.not_mem_nil
  | odometry x y z => exact absurd hmap List.not_mem_nil
  | laserCloud stamp cloud => exact absurd hmap List.not_mem_nil
  | terrainCloudLocal cloud => exact absurd hmap List.not_mem_nil
  | joystick button => exact absurd hmap List.not_mem_nil
  | clearing dis => exact absurd hmap List.not_mem_nil

/-- **Every map is as it should be**, in every run, whenever scans, poses, local maps and requests
to clear arrive. -/
theorem extended_maps (sqrt : K → K) (vg : VoxelGrid K) (p : MapParams K) (g : Grid K)
    (events : List (Event K)) :
    ∀ e ∈ emissions (step sqrt vg p g) .start (Node.init p g.width) events,
      ∃ past, e.past.events = .iterate :: past ∧ RightMap sqrt p g past e.after e.output := by
  refine emissions_safe (fun past n => Tracks p g past.events n)
    (fun e => ∃ past, e.past.events = .iterate :: past ∧ RightMap sqrt p g past e.after e.output)
    (fun _ _ e h _ => h.step sqrt vg e) (fun past n e h (_ : True) sooner map later hmap => ?_)
    events .start _ (tracks_init p g) (admissible_of_forall (fun _ _ _ => trivial) _ _ _)
  have hmem : map ∈ (step sqrt vg p g n e).2 :=
    hmap ▸ List.mem_append_right sooner List.mem_cons_self
  obtain ⟨rfl, hright⟩ := h.publishes sqrt vg e hmem
  exact ⟨past.events, rfl, hright⟩

end Runs

lemma twenty_one_pos : 0 < 21 := Nat.succ_pos 20

/-- The grid of the program, with fewer cells. -/
def smallGrid : Grid ℚ :=
  { Grid.terrainAnalysisExt ℚ with
    width := 21
    width_pos := twenty_one_pos }

/-- A local map comes with a point near the vehicle and one that is farther, and a scan with a point
of the ground and one that is high; then there is an iteration. -/
def localThenScan : List (Event ℚ) :=
  [.odometry 0 0 0, .terrainCloudLocal [⟨1, 0, 0, 0⟩, ⟨5, 0, 0, 0⟩],
    .laserCloud 1700000000123456789 [⟨41 / 10, 0, -1 / 2, 0⟩, ⟨6, 0, 3, 0⟩], .iterate]

/-- What happens then, with what is published. -/
abbrev localThenScanMaps :
    List (Emission (Node ℚ smallGrid.width) (Event ℚ) (TerrainMap ℚ)) :=
  emissions (step Rat.sqrt (.sparse ℚ) .declared smallGrid) .start (Node.init .declared 21)
    localThenScan

/-- The map shows the point of the ground and the one of the local map that is near. -/
theorem extended_maps_local :
    ∃ e ∈ localThenScanMaps, e.output.stamp = 1700000000123456768 ∧
      e.output.points = [⟨41 / 10, 0, -1 / 2, 0⟩, ⟨1, 0, 0, 0⟩] ∧
      ∃ past, e.past.events = .iterate :: past ∧
        RightMap Rat.sqrt .declared smallGrid past e.after e.output := by
  have hmap : localThenScanMaps.map (fun e => (e.output.stamp, e.output.points))
      = [(1700000000123456768, [⟨41 / 10, 0, -1 / 2, 0⟩, ⟨1, 0, 0, 0⟩])] := by decide +kernel
  obtain ⟨e, he, hshown⟩ := List.mem_map.mp (hmap ▸ List.mem_singleton_self _)
  exact ⟨e, he, congrArg Prod.fst hshown, congrArg Prod.snd hshown,
    extended_maps Rat.sqrt (.sparse ℚ) .declared smallGrid localThenScan e he⟩

end SentryNav.TerrainAnalysisExt
