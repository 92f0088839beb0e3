import SentryNav.Core.LowerBound
import SentryNav.PursuitController.CurvatureSamples
import SentryNav.RealMath

/-!
# Looking up a pose by its arc length

`findPoseAtDistance` searches the cumulative distances with `std::lower_bound` and interpolates on
the segment that ends at the pose that is found.  It divides by the length of this segment, and a
plan may repeat poses.

`FoundAt` says what a lookup should find: a point on a segment of the plan, at the arc length that
was asked for.  `findPoseAtDistance_foundAt` is that it does, and that the point moves on along the
plan as the distance grows.
-/

namespace SentryNav.PursuitController

open LowerBound Polyline

variable {K : Type*} [Field K] [LinearOrder K]

/-! ## Lengths -/

/-- The length of the segment from one pose to another. -/
def segmentLength (m : Libm K) (a b : PoseStamped K) : K :=
  m.hypot (b.pose.position.x - a.pose.position.x) (b.pose.position.y - a.pose.position.y)

/-- The length of a path. -/
def pathLength (m : Libm K) : List (PoseStamped K) → K
  | a :: b :: rest => segmentLength m a b + pathLength m (b :: rest)
  | _ => 0

omit [LinearOrder K] in
/-- The cumulative distance of a pose is the length of the path up to it. -/
lemma cumulativeDistance_eq (m : Libm K) {poses : List (PoseStamped K)} {k : ℕ}
    (hk : k < poses.length) (start : K) :
    ((poses.zipWith (segmentLength m) poses.tail).scanl (· + ·) start)[k]?
      = some (start + pathLength m (poses.take (k + 1))) := by
  induction poses generalizing k start with
  | nil => exact absurd hk (Nat.not_lt_zero k)
  | cons a rest ih =>
      cases k with
      | zero => simp [pathLength]
      | succ k =>
          cases rest with
          | nil => exact absurd hk (by simp)
          | cons b rest =>
              have hrest := ih (Nat.lt_of_succ_lt_succ hk) (start + segmentLength m a b)
              simpa [pathLength, add_assoc] using hrest

omit [LinearOrder K] in
/-- There is a cumulative distance for each pose. -/
lemma length_cumulativeDistances (m : Libm K) {path : Path K} (hpath : path.poses ≠ []) :
    (calculateCumulativeDistances m path).length = path.poses.length := by
  have hpos := List.length_pos_iff.mpr hpath
  rw [calculateCumulativeDistances, List.length_scanl, List.length_zipWith, List.length_tail]
  omega

/-- The cumulative distances do not fall. -/
lemma cumulativeDistances_sorted [IsStrictOrderedRing K] {m : Libm K}
    (hhypot : ∀ x y, 0 ≤ m.hypot x y) (path : Path K) :
    (calculateCumulativeDistances m path).SortedLE := by
  refine marks_sorted fun l hl => ?_
  rw [← List.map_uncurry_zip_eq_zipWith] at hl
  obtain ⟨_, -, rfl⟩ := List.mem_map.mp hl
  exact hhypot _ _

/-! ## The pose that is found -/

/-- A pose of a path. -/
def nthPose (path : Path K) (k : ℕ) : PoseStamped K := path.poses[k]?.getD default

/-- A point at a ratio of the way from one to another. -/
def alongSegment (p1 p2 : Vector3 K) (ratio : K) : Vector3 K where
  x := p1.x + ratio * (p2.x - p1.x)
  y := p1.y + ratio * (p2.y - p1.y)
  z := p1.z + ratio * (p2.z - p1.z)

omit [LinearOrder K] in
/-- The next cumulative distance. -/
lemma cumulativeDistance_succ (m : Libm K) {path : Path K} {k : ℕ} {before after : K}
    (hbefore : (calculateCumulativeDistances m path)[k]? = some before)
    (hafter : (calculateCumulativeDistances m path)[k + 1]? = some after) :
    after = before + segmentLength m (nthPose path k) (nthPose path (k + 1)) := by
  rw [calculateCumulativeDistances] at hbefore hafter
  rw [List.getElem?_succ_scanl, hbefore, Option.bind_some, Option.map_eq_some_iff] at hafter
  obtain ⟨l, hl, rfl⟩ := hafter
  obtain ⟨a, b, ha, hb, rfl⟩ := List.getElem?_zipWith_eq_some.mp hl
  rw [List.getElem?_tail] at hb
  rw [nthPose, nthPose, ha, hb, Option.getD_some, Option.getD_some, segmentLength]

/-- A lookup finds an index and a point of the segment that ends there, at the right arc length. -/
structure FoundAt (path : Path ℝ) (target : ℝ) (index : ℕ) (ratio : ℝ) : Prop where
  search : lowerBound (calculateCumulativeDistances realLibm path) target = index
  one_le : 1 ≤ index
  index_lt : index < path.poses.length
  distances_lt : index < (calculateCumulativeDistances realLibm path).length
  divisor : (calculateCumulativeDistances realLibm path)[index]?.getD 0
    - (calculateCumulativeDistances realLibm path)[index - 1]?.getD 0 ≠ 0
  ratio_eq : ratio = (target - (calculateCumulativeDistances realLibm path)[index - 1]?.getD 0)
    / ((calculateCumulativeDistances realLibm path)[index]?.getD 0
      - (calculateCumulativeDistances realLibm path)[index - 1]?.getD 0)
  ratio_pos : 0 < ratio
  ratio_le : ratio ≤ 1
  position :
    (findPoseAtDistance path (calculateCumulativeDistances realLibm path) target).pose.position
      = alongSegment (nthPose path (index - 1)).pose.position (nthPose path index).pose.position
          ratio
  arcLength : pathLength realLibm (path.poses.take index)
    + segmentLength realLibm (nthPose path (index - 1))
        (findPoseAtDistance path (calculateCumulativeDistances realLibm path) target) = target

lemma realLibm_hypot_nonneg (x y : ℝ) : 0 ≤ realLibm.hypot x y := Real.sqrt_nonneg _

/-- A part of a segment is so much shorter. -/
lemma realLibm_hypot_mul {r : ℝ} (hr : 0 ≤ r) (x y : ℝ) :
    realLibm.hypot (r * x) (r * y) = r * realLibm.hypot x y := by
  have hsquares : (r * x) ^ 2 + (r * y) ^ 2 = r ^ 2 * (x ^ 2 + y ^ 2) := by ring
  show √((r * x) ^ 2 + (r * y) ^ 2) = r * √(x ^ 2 + y ^ 2)
  rw [hsquares, Real.sqrt_mul (sq_nonneg r), Real.sqrt_sq hr]

/-- The first distance that is not less, from the two distances around the target. -/
lemma lowerBound_cumulativeDistances {path : Path ℝ} {target before after : ℝ} {k : ℕ}
    (hbefore : (calculateCumulativeDistances realLibm path)[k]? = some before)
    (hafter : (calculateCumulativeDistances realLibm path)[k + 1]? = some after)
    (hlt : before < target) (hle : target ≤ after) :
    lowerBound (calculateCumulativeDistances realLibm path) target = k + 1 := by
  have hsorted := cumulativeDistances_sorted realLibm_hypot_nonneg path
  obtain ⟨hk, rfl⟩ := List.getElem?_eq_some_iff.mp hbefore
  obtain ⟨hk', rfl⟩ := List.getElem?_eq_some_iff.mp hafter
  rw [lowerBound_eq_findIdx hsorted, List.findIdx_eq hk']
  refine ⟨decide_eq_true hle.not_gt, fun j hj => ?_⟩
  have hjk : (calculateCumulativeDistances realLibm path)[j]
      ≤ (calculateCumulativeDistances realLibm path)[k] :=
    hsorted.getElem_le_getElem_of_le (Nat.le_of_lt_succ hj)
  exact decide_eq_false (not_not.mpr (hjk.trans_lt hlt))

/-- **Every lookup inside the path finds its place.** -/
lemma exists_foundAt {path : Path ℝ} (hpath : path.poses ≠ []) {target : ℝ} (hpos : 0 < target)
    (htotal : target < total (calculateCumulativeDistances realLibm path)) :
    ∃ index ratio, FoundAt path target index ratio := by
  obtain ⟨k, before, after, hbefore, hafter, hlt, hle, hlocate⟩ :=
    locate_between (calculateCumulativeDistances_head? realLibm path) hpos htotal
  have hlength := length_cumulativeDistances realLibm hpath
  have hk : k + 1 < path.poses.length := hlength ▸ (List.getElem?_eq_some_iff.mp hafter).1
  have hspan : 0 < after - before := sub_pos.mpr (hlt.trans_le hle)
  have hratio : 0 ≤ (target - before) / (after - before) :=
    div_nonneg (sub_pos.mpr hlt).le hspan.le
  have hne : calculateCumulativeDistances realLibm path ≠ [] :=
    List.ne_nil_of_mem (List.mem_of_getElem? hafter)
  have hposition :
      (findPoseAtDistance path (calculateCumulativeDistances realLibm path) target).pose.position
        = alongSegment (nthPose path k).pose.position (nthPose path (k + 1)).pose.position
            ((target - before) / (after - before)) := by
    rw [findPoseAtDistance_eq _ hpath hne, hlocate]
    rfl
  have hstart : before = pathLength realLibm (path.poses.take (k + 1)) := by
    have hlookup := cumulativeDistance_eq realLibm (Nat.lt_of_succ_lt hk) 0
    rw [zero_add] at hlookup
    exact Option.some_inj.mp (hbefore.symm.trans hlookup)
  refine ⟨k + 1, (target - before) / (after - before), ?_⟩
  refine
    { search := lowerBound_cumulativeDistances hbefore hafter hlt hle
      one_le := Nat.succ_le_succ (Nat.zero_le k)
      index_lt := hk
      distances_lt := hlength ▸ hk
      divisor := ?_
      ratio_eq := ?_
      ratio_pos := div_pos (sub_pos.mpr hlt) hspan
      ratio_le := (div_le_one hspan).mpr (sub_le_sub_right hle before)
      position := hposition
      arcLength := ?_ }
  · rw [Nat.add_sub_cancel, hbefore, hafter]
    exact hspan.ne'
  · rw [Nat.add_sub_cancel, hbefore, hafter, Option.getD_some, Option.getD_some]
  · -- the point is a part of the segment away from its first pose
    have hsegment : segmentLength realLibm (nthPose path k)
          (findPoseAtDistance path (calculateCumulativeDistances realLibm path) target)
        = (target - before) / (after - before)
          * segmentLength realLibm (nthPose path k) (nthPose path (k + 1)) := by
      rw [segmentLength, hposition, alongSegment, add_sub_cancel_left, add_sub_cancel_left,
        realLibm_hypot_mul hratio, segmentLength]
    have hsucc := cumulativeDistance_succ realLibm hbefore hafter
    rw [Nat.add_sub_cancel, hsegment, ← hstart, ← sub_eq_iff_eq_add'.mpr hsucc,
      div_mul_cancel₀ _ hspan.ne', add_sub_cancel]

/-- The place of a lookup that has found one is at the arc length that was asked for. -/
lemma FoundAt.mark_eq {path : Path ℝ} {target ratio : ℝ} {index : ℕ}
    (h : FoundAt path target index ratio) :
    (Place.between (index - 1) ratio).mark (calculateCumulativeDistances realLibm path)
      = target := by
  rw [Place.mark, Nat.sub_add_cancel h.one_le, h.ratio_eq, div_mul_cancel₀ _ h.divisor,
    add_sub_cancel]

/-- The two cumulative distances around the place of a lookup. -/
lemma FoundAt.lookups {path : Path ℝ} {target ratio : ℝ} {index : ℕ}
    (h : FoundAt path target index ratio) :
    ∃ before after, (calculateCumulativeDistances realLibm path)[index - 1]? = some before ∧
      (calculateCumulativeDistances realLibm path)[index - 1 + 1]? = some after ∧
      before < after := by
  have hlt := h.distances_lt
  have hbefore := List.getElem?_eq_getElem ((Nat.sub_le index 1).trans_lt hlt)
  have hafter := List.getElem?_eq_getElem hlt
  have hdivisor := h.divisor
  rw [hbefore, hafter, Option.getD_some, Option.getD_some, sub_ne_zero] at hdivisor
  have hle : (calculateCumulativeDistances realLibm path)[index - 1]
      ≤ (calculateCumulativeDistances realLibm path)[index] :=
    (cumulativeDistances_sorted realLibm_hypot_nonneg path).getElem_le_getElem_of_le
      (Nat.sub_le index 1)
  rw [Nat.sub_add_cancel h.one_le]
  exact ⟨_, _, hbefore, hafter, hle.lt_of_ne hdivisor.symm⟩

/-- **Lookups for larger distances find later places.** -/
lemma FoundAt.lt {path : Path ℝ} {target target' ratio ratio' : ℝ} {index index' : ℕ}
    (h : FoundAt path target index ratio) (h' : FoundAt path target' index' ratio')
    (hlt : target < target') : index < index' ∨ index = index' ∧ ratio < ratio' := by
  obtain ⟨before, after, hbefore, hafter, hlength⟩ := h.lookups
  obtain ⟨before', after', hbefore', hafter', -⟩ := h'.lookups
  have hplaces := between_lt (cumulativeDistances_sorted realLibm_hypot_nonneg path) hbefore hafter
    hbefore' hafter' hlength h.ratio_pos h'.ratio_le (by rwa [h.mark_eq, h'.mark_eq])
  have hone := h.one_le
  have hone' := h'.one_le
  rcases hplaces with hk | ⟨hk, hratio⟩
  · exact .inl (by omega)
  · exact .inr ⟨by omega, hratio⟩

/-- **Looking up a pose by its arc length**, in exact arithmetic: for every path with a pose and
every distance strictly between zero and the last cumulative distance, the pose that is found lies
on a segment of the path, which has a length, at the arc length that was asked for; and it lies
further along the path the larger the distance is. -/
theorem findPoseAtDistance_foundAt (path : Path ℝ) (hpath : path.poses ≠ []) (target : ℝ)
    (hpos : 0 < target) (htotal : target < total (calculateCumulativeDistances realLibm path)) :
    (∃ index ratio, FoundAt path target index ratio) ∧
      ∀ target' index ratio index' ratio', target < target' → FoundAt path target index ratio →
        FoundAt path target' index' ratio' → index < index' ∨ index = index' ∧ ratio < ratio' :=
  ⟨exists_foundAt hpath hpos htotal, fun _ _ _ _ _ hlt h h' => h.lt h' hlt⟩

/-! ### A plan that repeats a pose -/

/-- Straight ahead for two metres, with the pose in the middle given twice. -/
def stuttering : Path ℝ where
  header := { stamp := 0, frameId := "odom" }
  poses := [0, 1, 1, 2].map fun x : ℕ =>
    { header := { stamp := 0, frameId := "odom" }
      pose := { position := ⟨x, 0, 0⟩, orientation := ⟨0, 0, 0, 1⟩ } }

lemma calculateCumulativeDistances_stuttering :
    calculateCumulativeDistances realLibm stuttering = [0, 1, 1, 2] := by
  simp [calculateCumulativeDistances, stuttering, realLibm]

/-- The pose at one and a half metres is found between the last two. -/
theorem findPoseAtDistance_foundAt_stuttering :
    (∃ index ratio, FoundAt stuttering 1.5 index ratio) ∧
      ∀ target' index ratio index' ratio', 1.5 < target' → FoundAt stuttering 1.5 index ratio →
        FoundAt stuttering target' index' ratio' →
          index < index' ∨ index = index' ∧ ratio < ratio' :=
  findPoseAtDistance_foundAt stuttering (List.cons_ne_nil _ _) 1.5 (by norm_num)
    (by norm_num [calculateCumulativeDistances_stuttering, total])

end SentryNav.PursuitController
