import SentryNav.TerrainAnalysis.GroundElevation
import SentryNav.TerrainAnalysis.NoDataObstacles
import SentryNav.TerrainAnalysis.TerrainMap

/-!
# What the terrain map shows

`Shows` says, without loops and arrays, which points of the terrain cloud the map shows, and at
which height above the ground.  The map consists of them, in the order of the terrain cloud, and of
the no-data obstacles (`terrainCloudElev_eq`).  All that enters are sums, least values and ranks, so
the map shows the same points whatever the order of the terrain cloud and of the scan
(`terrainCloudElev_spec`).
-/

namespace SentryNav.TerrainAnalysis

open PointerArray Raster

variable {K : Type*} [Field K] [LinearOrder K] [FloorRing K] {width : ℕ} {m : Libm K} {pi : K}
  {p : MapParams K} {n : MapNode K width}

/-! ## Dynamic obstacles -/

section Dynamic

variable (m pi p n)

/-- What a point counts for a dynamic obstacle in its voxel. -/
def MapNode.weight (point : Point K) : ℤ :=
  if p.minDyObsDis < n.dis m.sqrt point then
    if n.High m pi p point ∧ n.InView m pi p point then 1 else 0
  else p.minDyObsPointNum

/-- The latest scan has a high point in a voxel. -/
def MapNode.SeenThrough (i : PlanarVoxel) : Prop :=
  ∃ point ∈ n.laserCloudCrop, n.planarVoxel point = some i ∧ n.High m pi p point

instance (i : PlanarVoxel) : Decidable (n.SeenThrough m pi p i) :=
  inferInstanceAs (Decidable (∃ point ∈ n.laserCloudCrop, _ ∧ _))

/-- What the points of the terrain cloud count together in a voxel. -/
def MapNode.votes (i : PlanarVoxel) : ℤ :=
  ((n.terrainCloud.filter fun point => n.planarVoxel point = some i).map (n.weight m pi p)).sum

/-- What a voxel counts: nothing if the latest scan has a high point there. -/
def MapNode.dyObsCount (i : PlanarVoxel) : ℤ :=
  if n.SeenThrough m pi p i then 0 else n.votes m pi p i

/-- A voxel is left out for a dynamic obstacle. -/
def MapNode.Dynamic (i : PlanarVoxel) : Prop :=
  p.clearDyObs = true ∧ p.minDyObsPointNum ≤ n.dyObsCount m pi p i

variable {m pi p n}

omit [Field K] [LinearOrder K] [FloorRing K] in
/-- A loop that changes what is at the place of each thing. -/
lemma foldl_at {α β : Type*} {step : (PlanarVoxel → β) → α → PlanarVoxel → β}
    (target : α → Option PlanarVoxel) (f : β → α → β)
    (hstep : ∀ s a i, step s a i = if target a = some i then f (s i) a else s i)
    (things : List α) (s : PlanarVoxel → β) (i : PlanarVoxel) :
    things.foldl step s i
      = (things.filter fun a => decide (target a = some i)).foldl f (s i) :=
  (foldl_targets (fun _ => True) (fun s i => s i) target f
    (fun s a _ => ⟨trivial, hstep s a⟩) things s trivial).2 i

/-- A pass of the first loop adds what the point counts. -/
lemma countDyObs_eq (dyObs : PlanarVoxel → ℤ) (point : Point K) (i : PlanarVoxel) :
    n.countDyObs m pi p dyObs point i
      = if n.planarVoxel point = some i then dyObs i + n.weight m pi p point else dyObs i := by
  rw [MapNode.countDyObs, MapNode.weight]
  cases hvoxel : n.planarVoxel point with
  | none => simp
  | some j =>
      simp only [Option.some.injEq]
      by_cases hj : j = i
      · subst hj
        split_ifs with hfar hhigh hview <;> simp_all
      · split_ifs <;> simp [Ne.symm hj]

/-- A pass of the second loop clears the voxel of a high point. -/
lemma clearDyObs_eq (dyObs : PlanarVoxel → ℤ) (point : Point K) (i : PlanarVoxel) :
    n.clearDyObs m pi p dyObs point i
      = if n.planarVoxel point = some i then
          if n.High m pi p point then 0 else dyObs i
        else dyObs i := by
  rw [MapNode.clearDyObs]
  cases hvoxel : n.planarVoxel point with
  | none => simp
  | some j =>
      simp only [Option.some.injEq]
      by_cases hj : j = i
      · subst hj
        rw [if_pos rfl]
        split_ifs
        · exact Function.update_self ..
        · rfl
      · rw [if_neg hj]
        split_ifs
        · exact Function.update_of_ne (Ne.symm hj) ..
        · rfl

omit [FloorRing K] in
lemma foldl_add_weight (points : List (Point K)) (count : ℤ) :
    points.foldl (fun count point => count + n.weight m pi p point) count
      = count + (points.map (n.weight m pi p)).sum := by
  induction points generalizing count with
  | nil => simp
  | cons point points ih =>
      rw [List.foldl_cons, ih, List.map_cons, List.sum_cons, add_assoc]

omit [FloorRing K] in
lemma foldl_clear (points : List (Point K)) (count : ℤ) :
    points.foldl (fun count point => if n.High m pi p point then 0 else count) count
      = if ∃ point ∈ points, n.High m pi p point then 0 else count := by
  induction points generalizing count with
  | nil => simp
  | cons point points ih =>
      rw [List.foldl_cons, ih]
      by_cases hhigh : n.High m pi p point <;> simp [hhigh]

/-- **The counts**: nothing where the latest scan has a high point, and elsewhere what the points of
the terrain cloud count together. -/
lemma planarVoxelDyObs_eq (hclear : p.clearDyObs = true) (i : PlanarVoxel) :
    n.planarVoxelDyObs m pi p i = n.dyObsCount m pi p i := by
  have hcleared := foldl_at n.planarVoxel (fun count point =>
    if n.High m pi p point then 0 else count) (clearDyObs_eq (n := n))
  have hcounted := foldl_at n.planarVoxel (fun count point => count + n.weight m pi p point)
    (countDyObs_eq (n := n))
  have hseen : (∃ point ∈ n.laserCloudCrop.filter fun point => n.planarVoxel point = some i,
      n.High m pi p point) ↔ n.SeenThrough m pi p i := by
    simp only [MapNode.SeenThrough, List.mem_filter, decide_eq_true_eq, and_assoc]
  rw [MapNode.planarVoxelDyObs, if_pos hclear, hcleared, foldl_clear, hcounted, foldl_add_weight,
    zero_add]
  exact if_congr hseen rfl rfl

lemma not_dynamic_iff (i : PlanarVoxel) :
    ¬ n.Dynamic m pi p i ↔
      n.planarVoxelDyObs m pi p i < p.minDyObsPointNum ∨ p.clearDyObs = false := by
  rw [MapNode.Dynamic]
  cases hclear : p.clearDyObs with
  | false => simp
  | true => simp [planarVoxelDyObs_eq hclear, Bool.true_eq_false]

end Dynamic

/-! ## Ground -/

/-- The ground of a voxel with some heights: with sorting, the elevation by the quantile; without,
the least height, if it is less than 1000. -/
inductive Ground (p : GroundParams K) (heights : Multiset K) : K → Prop
  | sorted {z : K} (hsort : p.useSorting = true) (helevation : Elevation p heights z) :
      Ground p heights z
  | lowest {z : K} (hsort : p.useSorting = false) (hmem : z ∈ heights) (hlow : z < 1000.0)
      (hleast : ∀ z' ∈ heights, z ≤ z') : Ground p heights z
  | empty (hsort : p.useSorting = false) (hhigh : ∀ z ∈ heights, 1000.0 ≤ z) : Ground p heights 0

omit [Field K] [FloorRing K] in
/-- The least height is one only. -/
lemma eq_of_least {heights : Multiset K} {z z' : K}
    (hz : z ∈ heights) (hleast : ∀ y ∈ heights, z ≤ y)
    (hz' : z' ∈ heights) (hleast' : ∀ y ∈ heights, z' ≤ y) : z = z' :=
  le_antisymm (hleast z' hz') (hleast' z hz)

lemma Elevation.unique {p : GroundParams K} {heights : Multiset K} {z z' : K}
    (h : Elevation p heights z) (h' : Elevation p heights z') : z = z' := by
  cases h with
  | empty hempty =>
      cases h' with
      | empty => rfl
      | ground _ hlowest => simp [hempty] at hlowest
  | ground hquantile hlowest hleast =>
      cases h' with
      | empty hempty => simp [hempty] at hlowest
      | ground hquantile' hlowest' hleast' =>
          have hq := Option.some.inj (hquantile.symm.trans hquantile')
          have hl := eq_of_least hlowest hleast hlowest' hleast'
          rw [hq, hl]

lemma Ground.unique {p : GroundParams K} {heights : Multiset K} {z z' : K}
    (h : Ground p heights z) (h' : Ground p heights z') : z = z' := by
  cases h with
  | sorted hsort helevation =>
      cases h' with
      | sorted _ helevation' => exact helevation.unique helevation'
      | lowest hnot => simp [hsort] at hnot
      | empty hnot => simp [hsort] at hnot
  | lowest hsort hmem hlow hleast =>
      cases h' with
      | sorted hnot => simp [hsort] at hnot
      | lowest _ hmem' _ hleast' => exact eq_of_least hmem hleast hmem' hleast'
      | empty _ hhigh => exact absurd hlow (not_lt.mpr (hhigh _ hmem))
  | empty hsort hhigh =>
      cases h' with
      | sorted hnot => simp [hsort] at hnot
      | lowest _ hmem' hlow' => exact absurd hlow' (not_lt.mpr (hhigh _ hmem'))
      | empty => rfl

/-- What the code computes from the heights in a voxel. -/
lemma ground_elev (p : GroundParams K) (heights : List K) :
    Ground p heights
      ((if p.useSorting then quantileElev? p heights else lowestElev? heights).getD 0) := by
  cases hsort : p.useSorting with
  | true => exact .sorted hsort (elevation_quantileElev? p _)
  | false =>
      rw [if_neg Bool.false_ne_true, lowestElev?]
      rcases foldl_lowerElev 1000.0 heights with
        ⟨hnone, hle⟩ | ⟨z, j, hsome, hj, hlow, hleast⟩
      · rw [hnone]
        exact .empty hsort hle
      · rw [hsome, Option.bind_some, hj]
        exact .lowest hsort (List.mem_of_getElem? hj) hlow hleast

lemma ground_planarVoxelElev (p : GroundParams K) (n : Node K width) (i : PlanarVoxel) :
    Ground p (n.heights p i) (planarVoxelElev p (n.planarPointElev p) i) := by
  rw [planarVoxelElev, ← planarPointElev_eq]
  exact ground_elev p _

/-! ## The map -/

section Map

variable (m pi p n)

/-- The map shows a point of the terrain cloud, which is in a voxel with some ground, as `shown`. -/
structure MapNode.Shows (point : Point K) (i : PlanarVoxel) (ground : K) (shown : Point K) :
    Prop where
  inBand : n.InBand p.toGroundParams point
  voxel : n.planarVoxel point = some i
  still : ¬ n.Dynamic m pi p i
  isGround : Ground p.toGroundParams (n.heights p.toGroundParams i) ground
  enough : p.minBlockPointNum ≤ (n.heights p.toGroundParams i).card
  eq : shown = { point with
    intensity := if p.considerDrop then |point.z - ground| else point.z - ground }
  nonneg : 0 ≤ shown.intensity
  low : shown.intensity < p.vehicleHeight

/-- What the map shows of a point, from the arrays. -/
def Node.shown? (p : MapParams K) (n : Node K width) (planarVoxelDyObs : PlanarVoxel → ℤ)
    (planarVoxelElev : PlanarVoxel → K) (pointElev : PlanarVoxel → List K) (point : Point K) :
    Option (Point K) :=
  (n.planarVoxel point).bind fun i =>
    let disZ := point.z - planarVoxelElev i
    let disZ := if p.considerDrop then |disZ| else disZ
    if n.InBand p.toGroundParams point ∧
        (planarVoxelDyObs i < p.minDyObsPointNum ∨ p.clearDyObs = false) ∧
        0 ≤ disZ ∧ disZ < p.vehicleHeight ∧ p.minBlockPointNum ≤ (pointElev i).length then
      some { point with intensity := disZ }
    else none

variable {m pi p n}

lemma elevate_eq (n : Node K width) (planarVoxelDyObs : PlanarVoxel → ℤ)
    (planarVoxelElev : PlanarVoxel → K) (pointElev : PlanarVoxel → List K)
    (cloud : List (Point K)) (point : Point K) :
    n.elevate p planarVoxelDyObs planarVoxelElev pointElev cloud point
      = cloud ++ (n.shown? p planarVoxelDyObs planarVoxelElev pointElev point).toList := by
  rw [Node.elevate, Node.shown?]
  cases hvoxel : n.planarVoxel point with
  | none => simp
  | some i =>
      by_cases hband : n.InBand p.toGroundParams point
      · by_cases hdyObs : planarVoxelDyObs i < p.minDyObsPointNum ∨ p.clearDyObs = false
        · simp only [hband, hdyObs, if_true, true_and, Option.bind_some]
          split_ifs <;> simp
        · simp [hband, hdyObs]
      · simp [hband]

lemma foldl_elevate (n : Node K width) (planarVoxelDyObs : PlanarVoxel → ℤ)
    (planarVoxelElev : PlanarVoxel → K) (pointElev : PlanarVoxel → List K)
    (points cloud : List (Point K)) :
    points.foldl (n.elevate p planarVoxelDyObs planarVoxelElev pointElev) cloud
      = cloud ++ points.filterMap
        (n.shown? p planarVoxelDyObs planarVoxelElev pointElev) := by
  induction points generalizing cloud with
  | nil => simp
  | cons point points ih =>
      rw [List.foldl_cons, ih, elevate_eq, List.append_assoc, List.filterMap_cons]
      cases n.shown? p planarVoxelDyObs planarVoxelElev pointElev point <;> rfl

/-- What the loop finds out about a point is what the map shows of it. -/
lemma shown?_eq_some_iff (m : Libm K) (pi : K) (p : MapParams K) (n : MapNode K width)
    (point shown : Point K) :
    n.shown? p (n.planarVoxelDyObs m pi p)
        (planarVoxelElev p.toGroundParams (n.planarPointElev p.toGroundParams))
        (n.planarPointElev p.toGroundParams) point = some shown
      ↔ ∃ i ground, n.Shows m pi p point i ground shown := by
  have hcard : ∀ i, (n.planarPointElev p.toGroundParams i).length
      = (n.heights p.toGroundParams i).card := by
    intro i
    rw [← planarPointElev_eq, Multiset.coe_card]
  rw [Node.shown?, Option.bind_eq_some_iff]
  constructor
  · rintro ⟨i, hvoxel, hshown⟩
    simp only [Option.ite_none_right_eq_some, Option.some.injEq] at hshown
    obtain ⟨⟨hband, hdyObs, hnonneg, hlow, henough⟩, rfl⟩ := hshown
    exact ⟨i, _, hband, hvoxel, (not_dynamic_iff i).mpr hdyObs, ground_planarVoxelElev _ _ i,
      hcard i ▸ henough, rfl, hnonneg, hlow⟩
  · rintro ⟨i, ground, h⟩
    have hground := (ground_planarVoxelElev p.toGroundParams n.toNode i).unique h.isGround
    have heq := h.eq
    refine ⟨i, h.voxel, ?_⟩
    subst heq
    simp only [hground]
    rw [if_pos ⟨h.inBand, (not_dynamic_iff i).mp h.still, h.nonneg, h.low,
      (hcard i).symm ▸ h.enough⟩]

omit [LinearOrder K] [FloorRing K] in
lemma noDataObstacles_append (p : GroundParams K) (n : Node K width)
    (pointElev : PlanarVoxel → List K) (cloud : List (Point K)) :
    n.noDataObstacles p pointElev cloud = cloud ++ n.noDataObstacles p pointElev [] := by
  rw [Node.noDataObstacles, Node.noDataObstacles]
  split_ifs
  · rw [foldl_append_if, foldl_append_if, List.nil_append]
  · rw [List.append_nil]

/-- **The map**: the points of the terrain cloud that it shows, in their order, and the no-data
obstacles. -/
lemma terrainCloudElev_eq :
    n.terrainCloudElev m pi p
      = n.terrainCloud.filterMap (n.shown? p (n.planarVoxelDyObs m pi p)
          (planarVoxelElev p.toGroundParams (n.planarPointElev p.toGroundParams))
          (n.planarPointElev p.toGroundParams))
        ++ n.noDataObstacles p.toGroundParams (n.planarPointElev p.toGroundParams) [] := by
  rw [MapNode.terrainCloudElev, foldl_elevate, noDataObstacles_append, List.nil_append]

/-! ## The order of the points -/

/-- The program with its points in another order. -/
def MapNode.reordered (n : MapNode K width) (cloud crop : List (Point K)) : MapNode K width :=
  { n with terrainCloud := cloud, laserCloudCrop := crop }

variable {cloud crop : List (Point K)}

lemma heights_reordered (p : GroundParams K) (hcloud : cloud.Perm n.terrainCloud) :
    (n.reordered cloud crop).heights p = n.heights p := by
  have hpoints : (cloud : Multiset (Point K)) = n.terrainCloud := Multiset.coe_eq_coe.mpr hcloud
  funext i
  show ((cloud : Multiset (Point K)).filter _).map Point.z = _
  rw [hpoints]
  rfl

lemma dynamic_reordered (hcloud : cloud.Perm n.terrainCloud) (hcrop : crop.Perm n.laserCloudCrop)
    (i : PlanarVoxel) :
    (n.reordered cloud crop).Dynamic m pi p i ↔ n.Dynamic m pi p i := by
  have hseen : (n.reordered cloud crop).SeenThrough m pi p i ↔ n.SeenThrough m pi p i :=
    exists_congr fun point => and_congr_left fun _ => hcrop.mem_iff
  have hvotes : (n.reordered cloud crop).votes m pi p i = n.votes m pi p i :=
    ((hcloud.filter _).map _).sum_eq
  rw [MapNode.Dynamic, MapNode.Dynamic, MapNode.dyObsCount, MapNode.dyObsCount, hvotes,
    if_congr hseen rfl rfl]

lemma shows_reordered (hcloud : cloud.Perm n.terrainCloud) (hcrop : crop.Perm n.laserCloudCrop)
    {point shown : Point K} {i : PlanarVoxel} {ground : K} :
    (n.reordered cloud crop).Shows m pi p point i ground shown
      ↔ n.Shows m pi p point i ground shown := by
  have hheights : (n.reordered cloud crop).heights p.toGroundParams = n.heights p.toGroundParams :=
    heights_reordered p.toGroundParams hcloud
  have hdynamic : (n.reordered cloud crop).Dynamic m pi p i ↔ n.Dynamic m pi p i :=
    dynamic_reordered hcloud hcrop i
  constructor
  · intro h
    exact ⟨h.inBand, h.voxel, fun hi => h.still (hdynamic.mpr hi), hheights ▸ h.isGround,
      hheights ▸ h.enough, h.eq, h.nonneg, h.low⟩
  · intro h
    exact ⟨h.inBand, h.voxel, fun hi => h.still (hdynamic.mp hi), hheights ▸ h.isGround,
      hheights ▸ h.enough, h.eq, h.nonneg, h.low⟩

omit [Field K] [LinearOrder K] [FloorRing K] in
lemma planarVoxelEdge_congr (p : GroundParams K) {pointElev pointElev' : PlanarVoxel → List K}
    (h : ∀ i, (pointElev i).length = (pointElev' i).length) :
    planarVoxelEdge p pointElev = planarVoxelEdge p pointElev' := by
  simp only [planarVoxelEdge, h]

lemma noDataObstacles_reordered (p : GroundParams K) (hcloud : cloud.Perm n.terrainCloud) :
    (n.reordered cloud crop).noDataObstacles p ((n.reordered cloud crop).planarPointElev p) []
      = n.noDataObstacles p (n.planarPointElev p) [] := by
  have hlength : ∀ i, ((n.reordered cloud crop).planarPointElev p i).length
      = (n.planarPointElev p i).length := by
    intro i
    rw [← Multiset.coe_card, ← Multiset.coe_card, planarPointElev_eq, planarPointElev_eq,
      heights_reordered p hcloud]
  rw [Node.noDataObstacles, Node.noDataObstacles, planarVoxelEdge_congr p hlength]
  rfl

/-- **What the terrain map shows**, for every state of the program: exactly the points that it
should show, in the order of the terrain cloud, and then the no-data obstacles; and it does not
depend on the order of the terrain cloud and of the scan which points these are. -/
theorem terrainCloudElev_spec (m : Libm K) (pi : K) (p : MapParams K) (n : MapNode K width) :
    (∃ shown? : Point K → Option (Point K),
      (∀ point shown, shown? point = some shown
        ↔ ∃ i ground, n.Shows m pi p point i ground shown) ∧
      n.terrainCloudElev m pi p = n.terrainCloud.filterMap shown?
        ++ n.noDataObstacles p.toGroundParams (n.planarPointElev p.toGroundParams) []) ∧
    ∀ cloud crop : List (Point K), cloud.Perm n.terrainCloud → crop.Perm n.laserCloudCrop →
      ((n.reordered cloud crop).terrainCloudElev m pi p).Perm (n.terrainCloudElev m pi p) := by
  refine ⟨⟨_, shown?_eq_some_iff m pi p n, terrainCloudElev_eq⟩, fun cloud crop hcloud hcrop => ?_⟩
  have hshown := funext fun point => Option.ext fun shown =>
    (shown?_eq_some_iff m pi p (n.reordered cloud crop) point shown).trans
      ((exists_congr fun i => exists_congr fun ground => shows_reordered hcloud hcrop).trans
        (shown?_eq_some_iff m pi p n point shown).symm)
  rw [terrainCloudElev_eq, terrainCloudElev_eq, hshown, noDataObstacles_reordered _ hcloud]
  exact (hcloud.filterMap _).append_right _

end Map

end SentryNav.TerrainAnalysis
