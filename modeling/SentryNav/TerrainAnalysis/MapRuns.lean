import SentryNav.TerrainAnalysis.Drift
import SentryNav.TerrainAnalysis.MapGuarantees

/-!
# Terrain maps in runs

What was asked for in a run is told by the messages alone: whether the cloud is to be cleared, out
to which distance, and whether the vehicle has moved far enough since for no-data obstacles.  The
variables of the program agree with this history in every run (`Tracks`), so every published map
shows points within the planar grid only, with heights above the ground that are less than the
vehicle is high, none of them within the clearing distance if clearing was asked for, and no-data
obstacles only if the vehicle has moved (`published_maps`).
-/

namespace SentryNav.TerrainAnalysis

open Machine Raster

variable {K : Type*} [Field K] [LinearOrder K]

/-! ## History -/

section History

variable (m : Libm K) (p : MapParams K)

/-- A scan has come since the last iteration. -/
def scanWaiting : List (MapEvent K) → Bool
  | [] => false
  | .laserCloud _ _ :: _ => true
  | .iterate :: _ => false
  | _ :: past => scanWaiting past

/-- The stamp of the latest scan. -/
def lastStamp : List (MapEvent K) → Option ℤ
  | [] => none
  | .laserCloud stamp _ :: _ => some stamp
  | _ :: past => lastStamp past

/-- The cloud was to be cleared, and no iteration has done so yet. -/
def clearingRequested : List (MapEvent K) → Bool
  | [] => false
  | .clearing _ :: _ => true
  | .joystick button :: past => decide ((0.5 : K) < button) || clearingRequested past
  | .iterate :: past => !scanWaiting past && clearingRequested past
  | _ :: past => clearingRequested past

/-- The distance out to which the cloud is cleared. -/
def clearingDistance : List (MapEvent K) → K
  | [] => p.clearingDis
  | .clearing dis :: _ => dis
  | _ :: past => clearingDistance past

/-- Where the vehicle has been since clearing was asked for, newest first. -/
def placesSince : List (MapEvent K) → List (K × K)
  | [] => []
  | .odometry x y _ _ _ _ :: past => (x, y) :: placesSince past
  | .clearing _ :: _ => []
  | .joystick button :: past => if (0.5 : K) < button then [] else placesSince past
  | _ :: past => placesSince past

/-- Two places are far enough from each other for no-data obstacles. -/
def FarApart (a b : K × K) : Prop :=
  p.noDecayDis ≤ m.sqrt ((a.1 - b.1) * (a.1 - b.1) + (a.2 - b.2) * (a.2 - b.2))

/-- The vehicle has been far enough from the first of some places. -/
def MovedAway (places : List (K × K)) : Prop :=
  ∃ first ∈ places.getLast?, ∃ place ∈ places, FarApart m p place first

omit [Field K] [LinearOrder K] in
lemma lastStamp_of_scanWaiting {past : List (MapEvent K)} (h : scanWaiting past = true) :
    ∃ stamp, lastStamp past = some stamp := by
  induction past with
  | nil => cases h
  | cons e past ih =>
      cases e with
      | laserCloud stamp cloud => exact ⟨stamp, rfl⟩
      | iterate => cases h
      | odometry x y z roll pitch yaw => exact ih h
      | joystick button => exact ih h
      | clearing dis => exact ih h

/-- What `noDataInited` says of the places of the vehicle, and where the first of them is kept. -/
inductive Phase (places : List (K × K)) : ℕ → K → K → Prop
  | reset {xRec yRec : K} (hempty : places = []) : Phase places 0 xRec yRec
  | near {xRec yRec : K} (hfirst : places.getLast? = some (xRec, yRec))
      (hnear : ¬ MovedAway m p places) : Phase places 1 xRec yRec
  | away {xRec yRec : K} (haway : MovedAway m p places) : Phase places 2 xRec yRec

variable {m p}

lemma movedAway_cons (place : K × K) {first : K × K} {places : List (K × K)}
    (hfirst : places.getLast? = some first) :
    MovedAway m p (place :: places) ↔ FarApart m p place first ∨ MovedAway m p places := by
  have hlast : (place :: places).getLast? = some first := by
    rw [List.getLast?_cons, hfirst]
    rfl
  simp only [MovedAway, hlast, hfirst, Option.mem_def, Option.some.injEq, exists_eq_left',
    List.mem_cons, exists_eq_or_imp]

/-- The phase when the vehicle has come to another place. -/
lemma Phase.odometry {width : ℕ} {n : MapNode K width} {places : List (K × K)}
    (h : Phase m p places n.noDataInited n.vehicleXRec n.vehicleYRec) (x y z roll pitch yaw : K) :
    Phase m p ((x, y) :: places) (n.odometryHandler m p x y z roll pitch yaw).noDataInited
      (n.odometryHandler m p x y z roll pitch yaw).vehicleXRec
      (n.odometryHandler m p x y z roll pitch yaw).vehicleYRec := by
  rw [MapNode.odometryHandler, TerrainAnalysis.odometryHandler]
  generalize hphase : n.noDataInited = phase at h
  cases h with
  | reset hempty =>
      subst hempty
      by_cases hfar : FarApart m p (x, y) (x, y)
      · have haway : MovedAway m p [(x, y)] := ⟨(x, y), rfl, (x, y), List.mem_cons_self, hfar⟩
        rw [FarApart] at hfar
        simp only [if_true, hfar]
        exact .away haway
      · have hnear : ¬ MovedAway m p [(x, y)] := by
          simpa [MovedAway] using hfar
        rw [FarApart] at hfar
        simp only [if_true, hfar, if_false]
        exact .near rfl hnear
  | near hfirst hnear =>
      have hmoved := movedAway_cons (m := m) (p := p) (x, y) hfirst
      by_cases hfar : FarApart m p (x, y) (n.vehicleXRec, n.vehicleYRec)
      · have haway := hmoved.mpr (.inl hfar)
        rw [FarApart] at hfar
        rw [if_neg one_ne_zero, if_pos rfl, if_pos hfar]
        exact .away haway
      · have hstill := hmoved.not.mpr (not_or.mpr ⟨hfar, hnear⟩)
        rw [FarApart] at hfar
        rw [if_neg one_ne_zero, if_pos rfl, if_neg hfar]
        refine .near ?_ hstill
        rw [List.getLast?_cons, hfirst]
        rfl
  | away haway =>
      obtain ⟨first, hfirst, place, hplace, hfar⟩ := haway
      have hmoved := (movedAway_cons (x, y) hfirst).mpr
        (.inr ⟨first, hfirst, place, hplace, hfar⟩)
      have htwo : ¬ (2 : ℕ) = 1 := by decide
      rw [if_neg two_ne_zero, if_neg htwo]
      exact .away hmoved

end History

/-! ## The variables and the history -/

section Runs

variable [FloorRing K] (m : Libm K) (pi : K) (vg : VoxelGrid K) (p : MapParams K) (g : Grid K)

/-- The variables of the program agree with the history. -/
structure Tracks (past : List (MapEvent K)) (n : MapNode K g.width) : Prop where
  unshared : Function.Injective n.terrain.cells.ptr
  waiting : n.newlaserCloud = scanWaiting past
  stamp : ∀ stamp, lastStamp past = some stamp → n.laserCloudTime = seconds stamp
  clearing : n.clearingCloud = clearingRequested past
  distance : n.clearingDis = clearingDistance p past
  phase : Phase m p (placesSince past) n.noDataInited n.vehicleXRec n.vehicleYRec

lemma tracks_init : Tracks m p g [] (MapNode.init p g.width) where
  unshared := init_unshared K g.width
  waiting := rfl
  stamp _ h := nomatch h
  clearing := rfl
  distance := rfl
  phase := .reset rfl

variable {m pi vg p g} {past : List (MapEvent K)} {n : MapNode K g.width}

omit [FloorRing K] in
/-- What `odometryHandler` leaves as it is. -/
lemma odometryHandler_keeps (x y z roll pitch yaw : K) :
    (n.odometryHandler m p x y z roll pitch yaw).terrain = n.terrain ∧
      (n.odometryHandler m p x y z roll pitch yaw).newlaserCloud = n.newlaserCloud ∧
      (n.odometryHandler m p x y z roll pitch yaw).laserCloudTime = n.laserCloudTime ∧
      (n.odometryHandler m p x y z roll pitch yaw).clearingCloud = n.clearingCloud ∧
      (n.odometryHandler m p x y z roll pitch yaw).clearingDis = n.clearingDis := by
  simp only [MapNode.odometryHandler, TerrainAnalysis.odometryHandler]
  split_ifs <;> exact ⟨rfl, rfl, rfl, rfl, rfl⟩

lemma Tracks.laserCloud (h : Tracks m p g past n) (stamp : ℤ) (cloud : List (Point K)) :
    Tracks m p g (.laserCloud stamp cloud :: past)
      { n with toNode := laserCloudHandler m.sqrt p.toParams g n.toNode stamp cloud } := by
  rw [laserCloudHandler]
  have hstamp : ∀ last, lastStamp (.laserCloud stamp cloud :: past) = some last →
      seconds stamp = (seconds last : K) :=
    fun _ hlast => congrArg seconds (Option.some.inj hlast)
  by_cases hinited : n.systemInited = true
  · simp only [hinited, if_true]
    exact ⟨h.unshared, rfl, hstamp, h.clearing, h.distance, h.phase⟩
  · simp only [hinited]
    exact ⟨h.unshared, rfl, hstamp, h.clearing, h.distance, h.phase⟩

lemma Tracks.joystick (h : Tracks m p g past n) (button : ℤ) :
    Tracks m p g (.joystick button :: past)
      { n with toNode := joystickHandler n.toNode button } := by
  have hclearing : clearingRequested (.joystick button :: past)
      = (decide ((0.5 : K) < button) || clearingRequested past) := rfl
  rw [joystickHandler]
  by_cases hpressed : (0.5 : K) < button
  · have hplaces : placesSince (.joystick button :: past) = [] := if_pos hpressed
    rw [decide_eq_true hpressed, Bool.true_or] at hclearing
    rw [if_pos hpressed]
    exact ⟨h.unshared, h.waiting, h.stamp, hclearing.symm, h.distance, .reset hplaces⟩
  · have hplaces : placesSince (.joystick button :: past) = placesSince past := if_neg hpressed
    rw [decide_eq_false hpressed, Bool.false_or] at hclearing
    rw [if_neg hpressed]
    exact ⟨h.unshared, h.waiting, h.stamp, h.clearing.trans hclearing.symm, h.distance,
      hplaces ▸ h.phase⟩

variable [IsStrictOrderedRing K]

lemma Tracks.iterate (h : Tracks m p g past n) :
    Tracks m p g (.iterate :: past)
      { n with toNode := g.iterate m.sqrt vg p.toParams n.toNode } := by
  have hclearing : clearingRequested (.iterate :: past)
      = (!scanWaiting past && clearingRequested past) := rfl
  rw [Grid.iterate]
  by_cases hscan : n.newlaserCloud = true
  · rw [← h.waiting, hscan] at hclearing
    rw [if_pos hscan]
    exact ⟨update_unshared m.sqrt vg p.toParams n.toNode h.unshared, rfl, h.stamp,
      hclearing.symm, h.distance, h.phase⟩
  · have hnone : n.newlaserCloud = false := Bool.eq_false_iff.mpr hscan
    rw [← h.waiting, hnone] at hclearing
    rw [if_neg hscan]
    exact ⟨h.unshared, hnone, h.stamp, h.clearing.trans hclearing.symm, h.distance, h.phase⟩

lemma Tracks.step (h : Tracks m p g past n) (e : MapEvent K) :
    Tracks m p g (e :: past) (g.mapStep m pi vg p n e).1 := by
  cases e with
  | odometry x y z roll pitch yaw =>
      obtain ⟨hterrain, hwaiting, htime, hclearing, hdistance⟩ :=
        odometryHandler_keeps (m := m) (p := p) (n := n) x y z roll pitch yaw
      show Tracks m p g _ (n.odometryHandler m p x y z roll pitch yaw)
      exact ⟨hterrain ▸ h.unshared, hwaiting.trans h.waiting,
        fun stamp hstamp => htime.trans (h.stamp stamp hstamp), hclearing.trans h.clearing,
        hdistance.trans h.distance, h.phase.odometry x y z roll pitch yaw⟩
  | laserCloud stamp cloud => exact h.laserCloud stamp cloud
  | joystick button => exact h.joystick button
  | clearing dis => exact ⟨h.unshared, h.waiting, h.stamp, rfl, rfl, .reset rfl⟩
  | iterate => exact h.iterate

/-! ## Maps -/

/-- After an iteration that clears, no cell has a point within the clearing distance. -/
lemma cleared_update (sqrt : K → K) (p : Params K) (n : Node K g.width)
    (hunshared : Function.Injective n.terrain.cells.ptr) (hclearing : n.clearingCloud = true)
    {ind : Fin (g.width * g.width)} {point : Point K}
    (hpoint : point ∈ (g.update sqrt vg p n).cells.deref ind) :
    n.clearingDis ≤ n.dis sqrt point := by
  obtain ⟨t, _, _, _, _, hvoxel⟩ := update_spec sqrt vg p n hunshared
  have hcloud : point ∈ ((g.update sqrt vg p n).voxel ind).cloud := hpoint
  have hdue : ∀ updateNum updateTime, n.Due p updateNum updateTime :=
    fun _ _ => Or.inr (Or.inr hclearing)
  rw [hvoxel, Voxel.filter, if_pos (hdue _ _)] at hcloud
  have hkept := of_decide_eq_true (List.mem_filter.mp hcloud).2
  exact not_lt.mp fun hnear => hkept.2.2 ⟨hnear, hclearing⟩

omit [FloorRing K] [IsStrictOrderedRing K] in
/-- A point of the clouds of some cells, one after the other, is in one of them. -/
lemma exists_of_mem_cells {t : Terrain K g.width} {xs ys : List ℤ} {point : Point K}
    (hpoint : point ∈ xs.flatMap fun indX => ys.flatMap fun indY =>
      (cell? g.width indX indY).elim [] t.cells.deref) : ∃ ind, point ∈ t.cells.deref ind := by
  obtain ⟨indX, -, hpoint⟩ := List.mem_flatMap.mp hpoint
  obtain ⟨indY, -, hpoint⟩ := List.mem_flatMap.mp hpoint
  cases hcell : cell? g.width indX indY with
  | none =>
      rw [hcell] at hpoint
      exact absurd hpoint List.not_mem_nil
  | some ind =>
      rw [hcell] at hpoint
      exact ⟨ind, hpoint⟩

/-- A point is over the planar grid around the vehicle. -/
def Node.OverPlanarGrid {width : ℕ} (n : Node K width) (point : Point K) : Prop :=
  |point.x - n.vehicleX| ≤ planarReach K ∧ |point.y - n.vehicleY| ≤ planarReach K

omit [FloorRing K] in
/-- A place near the middle of a planar voxel, along an axis. -/
lemma abs_le_planarReach {d : K} {ind : ℤ} (hlower : 0 ≤ ind) (hupper : ind < planarVoxelWidth)
    (hnear : |d - (ind - planarVoxelHalfWidth : ℤ) * planarVoxelSize K| ≤ planarVoxelSize K / 2) :
    |d| ≤ planarReach K := by
  have hhalf : (planarVoxelHalfWidth : ℤ) = 25 := rfl
  have hwidth : (planarVoxelWidth : ℤ) = 51 := rfl
  have hleft : (-25 : K) ≤ (ind - planarVoxelHalfWidth : ℤ) := by
    rw [hhalf]
    exact_mod_cast (by omega : (-25 : ℤ) ≤ ind - 25)
  have hright : ((ind - planarVoxelHalfWidth : ℤ) : K) ≤ 25 := by
    rw [hhalf]
    exact_mod_cast (by omega : ind - 25 ≤ (25 : ℤ))
  generalize ((ind - planarVoxelHalfWidth : ℤ) : K) = middle at hleft hright hnear
  rw [abs_le] at hnear ⊢
  rw [planarReach]
  norm_num [planarVoxelSize] at hnear ⊢
  constructor <;> linarith

lemma overPlanarGrid_of_voxel {width : ℕ} {n : Node K width} {point : Point K} {i : PlanarVoxel}
    (h : n.planarVoxel point = some i) : n.OverPlanarGrid point := by
  have hsize : (0 : K) < planarVoxelSize K := by norm_num [planarVoxelSize]
  obtain ⟨hX, hY⟩ := cell?_eq_some_iff.mp h
  obtain ⟨hX0, hXlt, hY0, hYlt⟩ := inside_index i
  have hbin : ∀ d : K, planarIndex d - planarVoxelHalfWidth = bin (planarVoxelSize K) d :=
    fun d => add_sub_cancel_right _ _
  constructor
  · refine abs_le_planarReach hX0 hXlt ?_
    rw [hX, hbin]
    exact abs_sub_bin_le hsize _
  · refine abs_le_planarReach hY0 hYlt ?_
    rw [hY, hbin]
    exact abs_sub_bin_le hsize _

omit [FloorRing K] in
/-- The points of a no-data obstacle. -/
lemma obstaclePoints_spec {width : ℕ} {p : GroundParams K} {n : Node K width} {i : PlanarVoxel}
    {point : Point K} (h : point ∈ n.obstaclePoints p i) :
    point.intensity = p.vehicleHeight ∧ n.OverPlanarGrid point := by
  have hfour : (4.0 : K) = 4 := by norm_num
  have htwo : (2.0 : K) = 2 := by norm_num
  have hsize : (0 : K) < planarVoxelSize K := by norm_num [planarVoxelSize]
  obtain ⟨hX0, hXlt, hY0, hYlt⟩ := inside_index i
  simp only [Node.obstaclePoints, List.mem_cons, List.not_mem_nil, or_false, hfour, htwo] at h
  rcases h with rfl | rfl | rfl | rfl <;>
    refine ⟨rfl, abs_le_planarReach hX0 hXlt ?_, abs_le_planarReach hY0 hYlt ?_⟩ <;>
    rw [abs_le] <;> constructor <;> linarith

variable (m p g) in
/-- A map is as it should be, from what happened before the iteration and the state after it. -/
structure RightMap (past : List (MapEvent K)) (n : MapNode K g.width) (map : TerrainMap K) :
    Prop where
  stamp : ∃ stamp, lastStamp past = some stamp ∧
    map.stamp = stampOfSeconds (seconds stamp : K) ∧
    (0 ≤ stamp → stamp < 2 ^ 31 * 1000000000 → |map.stamp - stamp| < 1000)
  /-- Nothing is left in any cell within the clearing distance. -/
  cleared : clearingRequested past = true → ∀ ind, ∀ point ∈ n.terrain.cells.deref ind,
    clearingDistance p past ≤ n.dis m.sqrt point
  points : ∃ shown obstacles, map.points = shown ++ obstacles ∧
    (∀ point ∈ shown, n.OverPlanarGrid point ∧ 0 ≤ point.intensity
      ∧ point.intensity < p.vehicleHeight
      ∧ (clearingRequested past = true → clearingDistance p past ≤ n.dis m.sqrt point)) ∧
    (∀ point ∈ obstacles, n.OverPlanarGrid point ∧ point.intensity = p.vehicleHeight) ∧
    (obstacles ≠ [] → p.noDataObstacle = true ∧ MovedAway m p (placesSince past))

/-- A map is published as it should be. -/
lemma Tracks.rightMap (h : Tracks m p g past n) (hscan : n.newlaserCloud = true) :
    RightMap m p g past { n with toNode := g.iterate m.sqrt vg p.toParams n.toNode }
      { stamp := stampOfSeconds (g.iterate m.sqrt vg p.toParams n.toNode).laserCloudTime
        frameId := "odom"
        points := MapNode.terrainCloudElev m pi p
          { n with toNode := g.iterate m.sqrt vg p.toParams n.toNode } } := by
  obtain ⟨stamp, hstamp⟩ := lastStamp_of_scanWaiting (h.waiting.symm.trans hscan)
  have hcleared : clearingRequested past = true → ∀ ind,
      ∀ point ∈ (g.update m.sqrt vg p.toParams n.toNode).cells.deref ind,
        clearingDistance p past ≤ n.dis m.sqrt point := by
    intro hrequested ind point hpoint
    rw [← h.distance]
    exact cleared_update m.sqrt p.toParams n.toNode h.unshared (h.clearing.trans hrequested) hpoint
  rw [Grid.iterate, if_pos hscan]
  refine ⟨⟨stamp, hstamp, stampOfSeconds_spec (h.stamp stamp hstamp)⟩, hcleared, _, _,
    terrainCloudElev_eq, fun point hpoint => ?_, fun point hpoint => ?_, fun hobstacles => ?_⟩
  · obtain ⟨seen, hseen, hshown⟩ := List.mem_filterMap.mp hpoint
    obtain ⟨i, ground, hshows⟩ := (shown?_eq_some_iff m pi p _ seen point).mp hshown
    obtain rfl := hshows.eq
    refine ⟨overPlanarGrid_of_voxel hshows.voxel, hshows.nonneg, hshows.low, fun hrequested => ?_⟩
    obtain ⟨ind, hind⟩ := exists_of_mem_cells hseen
    exact hcleared hrequested ind seen hind
  · rw [Node.noDataObstacles] at hpoint
    split_ifs at hpoint
    · rw [foldl_append_if, List.nil_append] at hpoint
      obtain ⟨i, -, hi⟩ := List.mem_flatMap.mp hpoint
      exact (obstaclePoints_spec hi).symm
    · exact absurd hpoint List.not_mem_nil
  · have hactive : p.noDataObstacle = true ∧ n.noDataInited = 2 := by
      by_contra hinactive
      exact hobstacles (if_neg hinactive)
    refine ⟨hactive.1, ?_⟩
    have hphase := h.phase
    rw [hactive.2] at hphase
    cases hphase with
    | away haway => exact haway

/-- Whatever is published is a map as it should be. -/
lemma Tracks.publishes (h : Tracks m p g past n) (pi : K) (vg : VoxelGrid K) (e : MapEvent K)
    {map : TerrainMap K} (hmap : map ∈ (g.mapStep m pi vg p n e).2) :
    e = .iterate ∧ RightMap m p g past (g.mapStep m pi vg p n e).1 map := by
  cases e with
  | iterate =>
      rw [Grid.mapStep] at hmap
      split_ifs at hmap with hscan
      · obtain rfl := List.mem_singleton.mp hmap
        exact ⟨rfl, h.rightMap hscan⟩
      · exact absurd hmap List.not_mem_nil
  | odometry x y z roll pitch yaw => exact absurd hmap List.not_mem_nil
  | laserCloud stamp cloud => exact absurd hmap List.not_mem_nil
  | joystick button => exact absurd hmap List.not_mem_nil
  | clearing dis => exact absurd hmap List.not_mem_nil

/-- **Every published map is as it should be**, in every run: it has the stamp of the latest scan,
which has been turned into seconds and back; the points it shows are over the planar grid, less than
the height of the vehicle above the ground, and beyond the clearing distance if clearing has been
asked for since the map before; in that case nothing nearer is left in any cell; and there are
no-data obstacles only if the vehicle has moved away from where it was when clearing was last asked
for. -/
theorem published_maps (m : Libm K) (pi : K) (vg : VoxelGrid K) (p : MapParams K) (g : Grid K)
    (events : List (MapEvent K)) :
    ∀ e ∈ emissions (g.mapStep m pi vg p) .start (MapNode.init p g.width) events,
      ∃ past, e.past.events = .iterate :: past ∧ RightMap m p g past e.after e.output := by
  refine emissions_safe (fun past n => Tracks m p g past.events n)
    (fun e => ∃ past, e.past.events = .iterate :: past ∧ RightMap m p g past e.after e.output)
    (fun _ _ e h _ => h.step e) (fun past n e h (_ : True) sooner map later hmap => ?_) events
    .start _ (tracks_init m p g) (admissible_of_forall (fun _ _ _ => trivial) _ _ _)
  have hmem : map ∈ (g.mapStep m pi vg p n e).2 :=
    hmap ▸ List.mem_append_right sooner List.mem_cons_self
  obtain ⟨rfl, hright⟩ := h.publishes pi vg e hmem
  exact ⟨past.events, rfl, hright⟩

end Runs

/-- The functions of `<cmath>` on rational numbers, at angle zero. -/
def levelLibm : Libm ℚ where
  sqrt := Rat.sqrt
  cos _ := 1
  sin _ := 0
  hypot x y := Rat.sqrt (x * x + y * y)
  atan2 _ _ := 0

/-- Twelve points above one another. -/
def pole (x : ℚ) : List (Point ℚ) :=
  (List.range 12).map fun (k : ℕ) => ⟨x, 0, k / 20 - 1 / 2, 0⟩

/-- A scan with two poles; clearing is asked for, out to 2 m; then there is an iteration. -/
def twoPoles : List (MapEvent ℚ) :=
  [.odometry 0 0 0 0 0 0, .laserCloud 1700000000123456789 (pole 1 ++ pole 4), .clearing 2,
    .iterate]

/-- What happens in `twoPoles`, with what is published. -/
abbrev twoPolesMaps :
    List (Emission (MapNode ℚ (Grid.terrainAnalysis ℚ).width) (MapEvent ℚ) (TerrainMap ℚ)) :=
  emissions ((Grid.terrainAnalysis ℚ).mapStep levelLibm 3.1415926 (.sparse ℚ) .declared) .start
    (MapNode.init .declared 21) twoPoles

/-- A pole as a map shows it: without the points below its quantile. -/
def shownPole (x : ℚ) : List (Point ℚ) :=
  ((pole x).drop 3).map fun point => { point with intensity := point.z + 7 / 20 }

/-- The map shows the pole that is farther, at a stamp that is a little earlier. -/
theorem published_maps_cleared :
    ∃ e ∈ twoPolesMaps, e.output.stamp = 1700000000123456768 ∧ e.output.points = shownPole 4 ∧
      ∃ past, e.past.events = .iterate :: past ∧
        RightMap levelLibm .declared (.terrainAnalysis ℚ) past e.after e.output := by
  have hmap : twoPolesMaps.map (fun e => (e.output.stamp, e.output.points))
      = [(1700000000123456768, shownPole 4)] := by decide +kernel
  obtain ⟨e, he, hshown⟩ := List.mem_map.mp (hmap ▸ List.mem_singleton_self _)
  exact ⟨e, he, congrArg Prod.fst hshown, congrArg Prod.snd hshown,
    published_maps levelLibm 3.1415926 (.sparse ℚ) .declared (.terrainAnalysis ℚ) twoPoles e he⟩

end SentryNav.TerrainAnalysis
