import Mathlib.Data.Rat.Floor
import Mathlib.Data.Rat.Sqrt
import SentryNav.Core.Bins
import SentryNav.Core.FloatFormat
import SentryNav.Core.Raster
import SentryNav.Messages

/-!
# `PointCloudToLaserScanNode::cloudCallback`

A cloud becomes a laser scan: a point within the limits lowers the range of the ray that its angle
falls into.  The rays are counted by `ceil` of a `float` quotient, and the ray of a point is found
by truncation of a `double` one; what the message holds is `float`.

The loop leaves the array exactly if some point within the limits gets a ray that the scan does not
have; otherwise each ray shows the least range of its points, as a `float`, or the default range if
that is less, whatever the order of the points (`cloudCallback_spec`).  The last angle decides which
parameters are safe.  With the declared angles it gets ray 360 of 360 rays, so a point straight
behind the robot may go wrong; with those in `nav2_params.yaml` none can.
-/

namespace SentryNav.PointcloudToLaserscan

open Bins FloatFormat Raster

variable {K : Type*}

/-- The parameters of the node.  Those that the message takes over are in the range of `float`, and
so is the difference of the angles; only `rangeMax` may be above it, as it is by default. -/
structure ScanParams (K : Type*) where
  targetFrame : String
  minHeight : K
  maxHeight : K
  minIntensity : K
  maxIntensity : K
  angleMin : K
  angleMax : K
  angleIncrement : K
  scanTime : K
  rangeMin : K
  rangeMax : K
  infEpsilon : K
  useInf : Bool

/-- A point of a cloud; a coordinate may not be a number.  One that is infinite is beyond the limits
and left out. -/
structure ScanPoint (K : Type*) where
  x : Option K
  y : Option K
  z : Option K
  intensity : Option K

/-- `sensor_msgs::msg::PointCloud2`. -/
structure ScanCloud (K : Type*) where
  header : Header
  points : List (ScanPoint K)

/-- `sensor_msgs::msg::LaserScan`, whose numbers are `float`; a range is `⊤` for infinity. -/
structure LaserScan (K : Type*) where
  header : Header
  angleMin : K
  angleMax : K
  angleIncrement : K
  timeIncrement : K
  scanTime : K
  rangeMin : K
  rangeMax : WithTop K
  ranges : List (WithTop K)

/-- What a call comes to; it is undefined if the number of rays or an index does not fit its type,
or if an access goes beyond the rays. -/
inductive Outcome (K : Type*)
  | undefined
  | transformFailure
  | published (scan : LaserScan K)

section Callback

variable [Field K] [LinearOrder K] [FloorRing K] (libm : Libm K) (p : ScanParams K)

/-- The range and the angle of a point, unless it is rejected. -/
def accepted (point : ScanPoint K) : Option (K × K) :=
  match point.x, point.y, point.z with
  | some x, some y, some z =>
      if p.maxHeight < z ∨ z < p.minHeight then none
      -- An intensity that is not a number passes.
      else if point.intensity.any fun i => i < p.minIntensity ∨ p.maxIntensity < i then none
      else
        let range := libm.hypot x y
        if range < p.rangeMin then none
        else if p.rangeMax < range then none
        else
          let angle := libm.atan2 y x
          if angle < float32 p.angleMin ∨ float32 p.angleMax < angle then none
          else some (range, angle)
  | _, _, _ => none

/-- `ranges_size`, if it fits into a `uint32_t`. -/
def rangesSize : Option ℕ :=
  let angles := float32 (float32 p.angleMax - float32 p.angleMin)
  let size := ⌈float32 (angles / float32 p.angleIncrement)⌉
  if float32 p.angleIncrement ≠ 0 ∧ 0 ≤ size ∧ size < 2 ^ 32 then some size.toNat else none

/-- The range of a ray without a point. -/
def noRange : WithTop K :=
  if p.useInf ∨ toFloat32 p.rangeMax = ⊤ then ⊤
  else toFloat32 (float64 (float32 p.rangeMax + p.infEpsilon))

/-- So many increments is an angle from the first one. -/
def increments (angle : K) : K :=
  float64 (float64 (angle - float32 p.angleMin) / float32 p.angleIncrement)

/-- The ray of an angle, if it fits into an `int`. -/
def rayIndex (angle : K) : Option ℤ :=
  let index := trunc (increments p angle)
  if -2 ^ 31 ≤ index ∧ index < 2 ^ 31 then some index else none

/-- The body of the loop. -/
def lowerRange (ranges : List (WithTop K)) (point : ScanPoint K) : Option (List (WithTop K)) :=
  match accepted libm p point with
  | none => some ranges
  | some (range, angle) =>
      match rayIndex p angle with
      | none => none
      | some index =>
          if h : 0 ≤ index ∧ index.toNat < ranges.length then
            some (if (range : WithTop K) < ranges.get ⟨index.toNat, h.2⟩ then
              ranges.set index.toNat (toFloat32 range)
            else ranges)
          else none

/-- The frame of the scan. -/
def scanHeader (header : Header) : Header :=
  if p.targetFrame ≠ "" then { header with frameId := p.targetFrame } else header

/-- The cloud in the frame of the scan; `transform` is `tf2_->transform`. -/
def inScanFrame (transform : ScanCloud K → Option (ScanCloud K)) (cloud : ScanCloud K) :
    Option (ScanCloud K) :=
  if (scanHeader p cloud.header).frameId ≠ cloud.header.frameId then transform cloud else some cloud

/-- `cloudCallback`. -/
def cloudCallback (transform : ScanCloud K → Option (ScanCloud K)) (cloud : ScanCloud K) :
    Outcome K :=
  match rangesSize p with
  | none => .undefined
  | some size =>
      match inScanFrame p transform cloud with
      | none => .transformFailure
      | some seen =>
          match seen.points.foldlM (lowerRange libm p) (List.replicate size (noRange p)) with
          | none => .undefined
          | some ranges =>
              .published
                { header := scanHeader p cloud.header
                  angleMin := float32 p.angleMin
                  angleMax := float32 p.angleMax
                  angleIncrement := float32 p.angleIncrement
                  timeIncrement := 0
                  scanTime := float32 p.scanTime
                  rangeMin := float32 p.rangeMin
                  rangeMax := toFloat32 p.rangeMax
                  ranges := ranges }

end Callback

/-! ## Which points count for which ray -/

section Rays

variable [Field K] [LinearOrder K] [IsStrictOrderedRing K] [FloorRing K] {libm : Libm K}
  {p : ScanParams K} {point : ScanPoint K} {range angle : K} {size : ℕ}

/-- A point counts for a ray with its range: it is within the limits and gets that ray. -/
def CountsFor (libm : Libm K) (p : ScanParams K) (point : ScanPoint K) (i : ℕ) (range : K) : Prop :=
  ∃ angle, accepted libm p point = some (range, angle) ∧ rayIndex p angle = some (i : ℤ)

/-- A point goes beyond the rays: it is within the limits and gets none of them. -/
def Beyond (libm : Libm K) (p : ScanParams K) (size : ℕ) (point : ScanPoint K) : Prop :=
  ∃ range angle, accepted libm p point = some (range, angle) ∧
    ¬ ∃ i < size, rayIndex p angle = some (i : ℤ)

omit [IsStrictOrderedRing K] in
/-- The angle of a point within the limits. -/
lemma angle_of_accepted (h : accepted libm p point = some (range, angle)) :
    float32 p.angleMin ≤ angle ∧ angle ≤ float32 p.angleMax := by
  rw [accepted] at h
  split at h
  · simp only at h
    split_ifs at h with _ _ _ _ hangle
    cases h
    rw [not_or, not_lt, not_lt] at hangle
    exact hangle
  · cases h

/-! ### Angles and rays -/

lemma increments_mono (hinc : 0 < float32 p.angleIncrement) : Monotone (increments p) := by
  intro angle angle' h
  have hdiff : float64 (angle - float32 p.angleMin) ≤ float64 (angle' - float32 p.angleMin) :=
    Format.round_mono _ (sub_le_sub_right h _)
  exact Format.round_mono _ (div_le_div_of_nonneg_right hdiff hinc.le)

lemma increments_nonneg (hinc : 0 < float32 p.angleIncrement) (h : float32 p.angleMin ≤ angle) :
    0 ≤ increments p angle :=
  Format.round_nonneg (div_nonneg (Format.round_nonneg (sub_nonneg.mpr h)) hinc.le)

/-- The ray of an angle is its number of increments, rounded down. -/
lemma rayIndex_eq_some_iff (hinc : 0 < float32 p.angleIncrement) (h : float32 p.angleMin ≤ angle)
    (i : ℕ) : rayIndex p angle = some (i : ℤ) ↔ ⌊increments p angle⌋ = i ∧ i < 2 ^ 31 := by
  rw [rayIndex, trunc_of_nonneg (increments_nonneg hinc h)]
  simp only [Option.ite_none_right_eq_some, Option.some.injEq]
  omega

/-- If the last angle gets a ray, then so does each angle within the limits. -/
lemma exists_ray_of_last (hinc : 0 < float32 p.angleIncrement)
    (hlast : ∃ i < size, rayIndex p (float32 p.angleMax) = some (i : ℤ))
    (hangle : float32 p.angleMin ≤ angle ∧ angle ≤ float32 p.angleMax) :
    ∃ i < size, rayIndex p angle = some (i : ℤ) := by
  obtain ⟨last, hsize, hlast⟩ := hlast
  rw [rayIndex_eq_some_iff hinc (hangle.1.trans hangle.2)] at hlast
  have hle : ⌊increments p angle⌋ ≤ ⌊increments p (float32 p.angleMax)⌋ :=
    Int.floor_le_floor (increments_mono hinc hangle.2)
  obtain ⟨i, hi⟩ := Int.eq_ofNat_of_zero_le (Int.floor_nonneg.mpr (increments_nonneg hinc hangle.1))
  exact ⟨i, by omega, (rayIndex_eq_some_iff hinc hangle.1 i).mpr ⟨hi, by omega⟩⟩

/-- The number of increments without rounding. -/
def exactIncrements (p : ScanParams K) (angle : K) : K :=
  (angle - float32 p.angleMin) / float32 p.angleIncrement

/-- An angle is between those of a ray, but for so small a part of the increments before it. -/
structure WithinRay (p : ScanParams K) (i : ℕ) (angle : K) : Prop where
  lower : i ≤ exactIncrements p angle + (exactIncrements p angle / 2 ^ 51 + 1 / 2 ^ 250)
  upper : exactIncrements p angle < i + 1 + (exactIncrements p angle / 2 ^ 51 + 1 / 2 ^ 250)

/-- The number of increments is rounded twice. -/
lemma increments_near (hinc : 0 < float32 p.angleIncrement) (h : float32 p.angleMin ≤ angle) :
    |increments p angle - exactIncrements p angle|
      ≤ exactIncrements p angle / 2 ^ 51 + 1 / 2 ^ 250 :=
  abs_float64_div_sub_le (sub_nonneg.mpr h) (Format.isFloat_round _ _) hinc

/-- The points of a ray are where it is. -/
lemma withinRay_of_rayIndex (hinc : 0 < float32 p.angleIncrement) (h : float32 p.angleMin ≤ angle)
    {i : ℕ} (hindex : rayIndex p angle = some (i : ℤ)) : WithinRay p i angle := by
  obtain ⟨hfloor, -⟩ := (rayIndex_eq_some_iff hinc h i).mp hindex
  obtain ⟨hlower, hupper⟩ := Int.floor_eq_iff.mp hfloor
  obtain ⟨hbelow, habove⟩ := abs_le.mp (increments_near hinc h)
  rw [Int.cast_natCast] at hlower hupper
  exact ⟨by linarith, by linarith⟩

/-! ### The loop -/

/-- The items that the loop is given. -/
def items (libm : Libm K) (p : ScanParams K) (points : List (ScanPoint K)) :
    List (ℤ × WithTop K) :=
  points.filterMap fun point =>
    (accepted libm p point).map fun found =>
      ((rayIndex p found.2).getD (-1), toFloat32 found.1)

lemma lowerRange_eq_lower {ranges : List (WithTop K)}
    (hheld : ∀ r ∈ ranges, r ∈ Set.range (toFloat32 : K → WithTop K))
    (h : accepted libm p point = some (range, angle)) :
    lowerRange libm p ranges point
      = lower ranges ((rayIndex p angle).getD (-1)) (toFloat32 range) := by
  simp only [lowerRange, h]
  cases rayIndex p angle with
  | none => exact (lower_eq_none_iff.mpr (by simp)).symm
  | some index =>
      dsimp only
      rw [Option.getD_some, lower_eq_set]
      by_cases hinside : 0 ≤ index ∧ index.toNat < ranges.length
      · rw [dif_pos hinside, dif_pos hinside, ← store_eq_min range (hheld _ (List.get_mem ..)),
          List.get_eq_getElem]
        split_ifs
        · rfl
        · rw [List.set_getElem_self]
      · rw [dif_neg hinside, dif_neg hinside]

lemma noRange_mem_range (p : ScanParams K) : noRange p ∈ Set.range (toFloat32 : K → WithTop K) := by
  rw [noRange]
  split_ifs
  · exact ⟨_, toFloat32_two_pow⟩
  · exact ⟨_, rfl⟩

/-- The loop lowers the ranges to those of the points, as what they hold stays a `float`. -/
lemma foldlM_lowerRange (points : List (ScanPoint K)) {ranges : List (WithTop K)}
    (hheld : ∀ r ∈ ranges, r ∈ Set.range (toFloat32 : K → WithTop K)) :
    points.foldlM (lowerRange libm p) ranges = lowerAll ranges (items libm p points) := by
  induction points generalizing ranges with
  | nil => rfl
  | cons point points ih =>
      rw [List.foldlM_cons, items, List.filterMap_cons]
      cases haccepted : accepted libm p point with
      | none =>
          have hskip : lowerRange libm p ranges point = some ranges := by
            simp only [lowerRange, haccepted]
          rw [hskip]
          exact ih hheld
      | some found =>
          rw [lowerRange_eq_lower hheld haccepted, Option.map_some, lowerAll, List.foldlM_cons]
          cases hlower : lower ranges ((rayIndex p found.2).getD (-1)) (toFloat32 found.1) with
          | none => rfl
          | some ranges' =>
              refine ih fun r hr => ?_
              rcases mem_of_mem_lower hlower hr with hmem | rfl
              · exact hheld r hmem
              · exact Set.mem_range_self _

omit [IsStrictOrderedRing K] in
lemma mem_items_iff {points : List (ScanPoint K)} {i : ℕ} {x : WithTop K} :
    ((i : ℤ), x) ∈ items libm p points ↔
      ∃ point ∈ points, ∃ range : K, CountsFor libm p point i range ∧ x = toFloat32 range := by
  rw [items, List.mem_filterMap]
  refine exists_congr fun point => and_congr_right fun _ => ?_
  constructor
  · intro h
    obtain ⟨⟨range, angle⟩, hfound, heq⟩ := Option.map_eq_some_iff.mp h
    obtain ⟨hindex, rfl⟩ := Prod.mk.inj heq
    cases hray : rayIndex p angle with
    | none => simp [hray] at hindex
    | some index =>
        rw [hray, Option.getD_some] at hindex
        exact ⟨range, ⟨angle, hfound, hray.trans (congrArg some hindex)⟩, rfl⟩
  · rintro ⟨range, ⟨angle, hfound, hray⟩, rfl⟩
    rw [hfound, Option.map_some, hray, Option.getD_some]

omit [IsStrictOrderedRing K] in
/-- An item falls beyond the rays exactly if a point does. -/
lemma exists_item_beyond_iff {points : List (ScanPoint K)} :
    (∃ item ∈ items libm p points, ¬ (0 ≤ item.1 ∧ item.1.toNat < size)) ↔
      ∃ point ∈ points, Beyond libm p size point := by
  have hbeyond (angle : K) : ¬ (0 ≤ (rayIndex p angle).getD (-1) ∧
      ((rayIndex p angle).getD (-1)).toNat < size) ↔
      ¬ ∃ i < size, rayIndex p angle = some (i : ℤ) := by
    refine not_congr ⟨fun ⟨hnonneg, hlt⟩ => ⟨_, hlt, ?_⟩, fun ⟨i, hlt, hray⟩ => ?_⟩
    · cases hray : rayIndex p angle with
      | none => simp [hray] at hnonneg
      | some index =>
          rw [hray, Option.getD_some] at hnonneg
          rw [Option.getD_some, Int.toNat_of_nonneg hnonneg]
    · rw [hray, Option.getD_some]
      exact ⟨i.cast_nonneg, hlt⟩
  constructor
  · rintro ⟨item, hitem, hout⟩
    obtain ⟨point, hpoint, hfound⟩ := List.mem_filterMap.mp hitem
    obtain ⟨⟨range, angle⟩, haccepted, rfl⟩ := Option.map_eq_some_iff.mp hfound
    exact ⟨point, hpoint, range, angle, haccepted, (hbeyond angle).mp hout⟩
  · rintro ⟨point, hpoint, range, angle, haccepted, hout⟩
    exact ⟨_, List.mem_filterMap.mpr ⟨point, hpoint, by rw [haccepted, Option.map_some]⟩,
      (hbeyond angle).mpr hout⟩

/-! ### What a call comes to -/

/-- A scan is as it should be, for the points in its frame. -/
structure RightScan (libm : Libm K) (p : ScanParams K) (header : Header)
    (points : List (ScanPoint K)) (size : ℕ) (scan : LaserScan K) : Prop where
  header : scan.header = scanHeader p header
  angles : scan.angleMin = float32 p.angleMin ∧ scan.angleMax = float32 p.angleMax ∧
    scan.angleIncrement = float32 p.angleIncrement
  length : scan.ranges.length = size
  rays : ∀ (i : ℕ) (hi : i < scan.ranges.length),
    IsLeast {x | x = noRange p ∨ ∃ point ∈ points, ∃ range : K,
      CountsFor libm p point i range ∧ x = toFloat32 range} scan.ranges[i]

variable {transform : ScanCloud K → Option (ScanCloud K)} {cloud seen : ScanCloud K}

/-- What a call comes to, told by the loop over the items. -/
lemma cloudCallback_eq (hsize : rangesSize p = some size)
    (hseen : inScanFrame p transform cloud = some seen) :
    cloudCallback libm p transform cloud =
      match lowerAll (List.replicate size (noRange p)) (items libm p seen.points) with
      | none => .undefined
      | some ranges => .published ⟨scanHeader p cloud.header, float32 p.angleMin,
          float32 p.angleMax, float32 p.angleIncrement, 0, float32 p.scanTime, float32 p.rangeMin,
          toFloat32 p.rangeMax, ranges⟩ := by
  have hheld : ∀ r ∈ List.replicate size (noRange p), r ∈ Set.range (toFloat32 : K → WithTop K) :=
    fun r hr => List.eq_of_mem_replicate hr ▸ noRange_mem_range p
  rw [cloudCallback, hsize, hseen, ← foldlM_lowerRange seen.points hheld]

lemma cloudCallback_transformFailure_iff (hsize : rangesSize p = some size) :
    cloudCallback libm p transform cloud = .transformFailure ↔
      inScanFrame p transform cloud = none := by
  cases hseen : inScanFrame p transform cloud with
  | none => simp only [cloudCallback, hsize, hseen]
  | some seen =>
      rw [cloudCallback_eq hsize hseen]
      cases lowerAll (List.replicate size (noRange p)) (items libm p seen.points) <;> simp

lemma cloudCallback_undefined_iff (hsize : rangesSize p = some size)
    (hseen : inScanFrame p transform cloud = some seen) :
    cloudCallback libm p transform cloud = .undefined ↔
      ∃ point ∈ seen.points, Beyond libm p size point := by
  have houtcome : cloudCallback libm p transform cloud = .undefined ↔
      lowerAll (List.replicate size (noRange p)) (items libm p seen.points) = none := by
    rw [cloudCallback_eq hsize hseen]
    cases lowerAll (List.replicate size (noRange p)) (items libm p seen.points) <;> simp
  rw [houtcome, lowerAll_eq_none_iff, List.length_replicate, exists_item_beyond_iff]

lemma cloudCallback_published (hsize : rangesSize p = some size)
    (hseen : inScanFrame p transform cloud = some seen)
    (hinside : ∀ point ∈ seen.points, ¬ Beyond libm p size point) :
    ∃ scan, cloudCallback libm p transform cloud = .published scan ∧
      RightScan libm p cloud.header seen.points size scan := by
  have hdefined : cloudCallback libm p transform cloud ≠ .undefined := fun h =>
    let ⟨point, hpoint, hbeyond⟩ := (cloudCallback_undefined_iff hsize hseen).mp h
    hinside point hpoint hbeyond
  rw [cloudCallback_eq hsize hseen] at hdefined ⊢
  cases hranges : lowerAll (List.replicate size (noRange p)) (items libm p seen.points) with
  | none => exact absurd (by rw [hranges]) hdefined
  | some ranges =>
      have hlength := (length_lowerAll hranges).trans List.length_replicate
      refine ⟨_, rfl, rfl, ⟨rfl, rfl, rfl⟩, hlength, fun i hi => ?_⟩
      have hleast := lowerAll_least hranges i (length_lowerAll hranges ▸ hi) hi
      simp only [List.getElem_replicate, mem_items_iff] at hleast
      exact hleast

end Rays

/-! ## The parameters of the robot -/

/-- The parameters in `nav2_params.yaml`, and the declared value of `inf_epsilon`. -/
def ScanParams.configured [Field K] : ScanParams K where
  targetFrame := "base_footprint"
  minHeight := -0.5
  maxHeight := 6.0
  minIntensity := 0.1
  maxIntensity := 2.0
  angleMin := -3.1415926
  angleMax := 3.1415926
  angleIncrement := 0.00872665
  scanTime := 0.05
  rangeMin := 0.3
  rangeMax := 10.0
  infEpsilon := 1.0
  useInf := true

/-- `M_PI`. -/
def mPi : ℚ := 884279719003555 / 281474976710656

/-- The functions of `<cmath>` for points on the axes. -/
def axisLibm : Libm ℚ where
  sqrt := Rat.sqrt
  cos _ := 1
  sin _ := 0
  hypot x y := Rat.sqrt (x * x + y * y)
  atan2 y x :=
    if y = 0 then if x < 0 then mPi else 0
    else if y < 0 then -mPi / 2 else mPi / 2

/-- The lidar looks to the left of the robot. -/
def turnLeft (cloud : ScanCloud ℚ) : Option (ScanCloud ℚ) :=
  some ⟨⟨cloud.header.stamp, "base_footprint"⟩,
    cloud.points.map fun point => { point with x := point.y.map (- ·), y := point.x }⟩

/-- Points to the left of the robot, one of them too faint, then ahead, behind and too high, and one
without a height. -/
def axisCloud : ScanCloud ℚ where
  header := ⟨1700000000000000000, "front_mid360"⟩
  points := [⟨some 5, some 0, some 0, some 1⟩, ⟨some 2, some 0, some 1, none⟩,
    ⟨some 1, some 0, some 0, some 0⟩, ⟨some 0, some (-3), some 0, some 1⟩,
    ⟨some 0, some 1, some 0, some 1⟩, ⟨some 0, some (-1), some 7, some 1⟩,
    ⟨some 4, some 0, none, some 1⟩]

/-- The nearest points ahead and to the left. -/
def axisRanges : List (WithTop ℚ) :=
  ((List.replicate 720 (⊤ : WithTop ℚ)).set 359 (3 : ℚ)).set 539 (2 : ℚ)

/-- With the declared angles a point behind the robot goes beyond the rays. -/
example : let p : ScanParams ℚ := { ScanParams.configured with
      angleMin := -mPi, angleMax := mPi, angleIncrement := mPi / 180 }
    rangesSize p = some 360 ∧ rayIndex p (float32 mPi) = some 360 := by
  decide +kernel

end SentryNav.PointcloudToLaserscan
