import SentryNav.PointLio.VoxelHistory
import Mathlib.Data.Multiset.Basic

/-!
# What a query of the voxel map finds

A query looks into the voxels around a point, takes the nearest few of each and the nearest few of
all these.  `getClosestPoint_nearest` is that it answers with the nearest of all points in these
voxels that are in range.  `nearby26_complete` says when these are the nearest of all points: with
all 26 neighbours, no point is missed that is not farther than a voxel is wide, less what rounding
can take from the keys, which is the more the farther the points are from zero.
-/

namespace SentryNav.PointLio

open FloatFormat Recency Nearest

variable {K : Type*} [Field K] [LinearOrder K] {v : IVox K}

/-! ## Voxels by their keys -/

/-- Lists that are parted by a key can be read key by key. -/
lemma flatMap_filter_perm {α κ : Type*} [DecidableEq κ] {ks : List κ} (hks : ks.Nodup) (f : α → κ)
    (l : List α) :
    (ks.flatMap fun k => l.filter fun a => f a = k).Perm (l.filter fun a => f a ∈ ks) := by
  induction ks with
  | nil => simp
  | cons k ks ih =>
      obtain ⟨hk, hks⟩ := List.nodup_cons.mp hks
      have hsame : (l.filter fun a => f a ∈ k :: ks).filter (fun a => f a = k)
          = l.filter fun a => f a = k := by
        rw [List.filter_filter]
        refine List.filter_congr fun a _ => ?_
        by_cases ha : f a = k <;> simp [ha]
      have hothers : (l.filter fun a => f a ∈ k :: ks).filter (fun a => ! decide (f a = k))
          = l.filter fun a => f a ∈ ks := by
        rw [List.filter_filter]
        refine List.filter_congr fun a _ => ?_
        by_cases ha : f a = k <;> simp [ha, hk]
      rw [List.flatMap_cons]
      refine ((ih hks).append_left _).trans ?_
      rw [← hsame, ← hothers]
      exact List.filter_append_perm _ _

omit [Field K] [LinearOrder K] in
/-- At most one voxel has a key. -/
lemma Linked.filter_key (h : Linked v) {n : CacheNode K} (hn : n ∈ v.gridsCache) :
    v.gridsCache.filter (fun m => m.key = n.key) = [n] := by
  have hkeys := h.keys_nodup
  obtain ⟨before, after, hsplit⟩ := List.append_of_mem hn
  rw [hsplit, List.map_append, List.map_cons, List.nodup_append, List.nodup_cons] at hkeys
  rw [hsplit, List.filter_append, List.filter_cons_of_pos (by simp)]
  have hbefore : before.filter (fun m => m.key = n.key) = [] := by
    rw [List.filter_eq_nil_iff]
    intro m hm
    simpa using hkeys.2.2 _ (List.mem_map_of_mem hm) _ List.mem_cons_self
  have hafter : after.filter (fun m => m.key = n.key) = [] := by
    rw [List.filter_eq_nil_iff]
    intro m hm
    have hne : m.key ≠ n.key := fun heq => hkeys.2.1.1 (heq ▸ List.mem_map_of_mem hm)
    simpa using hne
  rw [hbefore, hafter, List.nil_append]

omit [Field K] [LinearOrder K] in
/-- What a loop over keys does with the voxel that the map finds for each. -/
lemma Linked.foldlM_lookup (h : Linked v) {β : Type*} (f : CacheNode K → List β) (ks : List KeyType)
    (candidates : List β) :
    ks.foldlM (fun candidates key =>
        match v.gridsMap.lookup key with
        | none => some candidates
        | some it => (v.deref it).map fun n => candidates ++ f n) candidates
      = some (candidates ++
          (ks.flatMap fun key => v.gridsCache.filter fun n => n.key = key).flatMap f) := by
  induction ks generalizing candidates with
  | nil => simp
  | cons key ks ih =>
      rw [List.foldlM_cons]
      cases hlookup : v.gridsMap.lookup key with
      | none =>
          have hnone : v.gridsCache.filter (fun n => n.key = key) = [] := by
            rw [List.filter_eq_nil_iff]
            intro n hn hkey
            have hsome := (h.lookup_iff key n.address).mpr ⟨n, hn, of_decide_eq_true hkey, rfl⟩
            rw [hlookup] at hsome
            cases hsome
          rw [List.flatMap_cons, hnone, List.nil_append]
          exact ih candidates
      | some it =>
          obtain ⟨n, hn, rfl, rfl⟩ := (h.lookup_iff key it).mp hlookup
          simp only [h.deref_eq hn, Option.map_some]
          rw [List.flatMap_cons, h.filter_key hn, List.flatMap_append, List.flatMap_singleton,
            ← List.append_assoc]
          exact ih _

/-! ## Places and their points -/

/-- Where a place leads to; the point itself stands for a place that leads nowhere. -/
def DistPoint.point (v : IVox K) (pt : PointType K) (d : DistPoint K) : PointType K :=
  (d.get v).getD pt

lemma Linked.get_inRange (h : Linked v) {n : CacheNode K} (hn : n ∈ v.gridsCache)
    {pt : PointType K} {maxRange : K} {d : DistPoint K} (hd : d ∈ n.inRange pt maxRange) :
    ∃ p, d.get v = some p ∧ d.dist = distance2 p pt := by
  obtain ⟨e, he, rfl⟩ := List.mem_map.mp (List.mem_of_mem_filter hd)
  refine ⟨e.1, ?_, rfl⟩
  show (v.deref n.address).bind _ = some e.1
  rw [h.deref_eq hn]
  exact List.mk_mem_zipIdx_iff_getElem?.mp he

/-- The places of a voxel lead to its points in range. -/
lemma Linked.inRange_map_point (h : Linked v) {n : CacheNode K} (hn : n ∈ v.gridsCache)
    (pt : PointType K) (maxRange : K) :
    (n.inRange pt maxRange).map (DistPoint.point v pt)
      = n.node.points.filter fun p => distance2 p pt < maxRange * maxRange := by
  rw [CacheNode.inRange, List.filter_map, List.map_map]
  have hpoint : ∀ e ∈ n.node.points.zipIdx.filter (fun e => distance2 e.1 pt < maxRange * maxRange),
      DistPoint.point v pt ⟨distance2 e.1 pt, n.address, e.2⟩ = e.1 := by
    intro e he
    have hget := List.mk_mem_zipIdx_iff_getElem?.mp (List.mem_of_mem_filter he)
    show ((v.deref n.address).bind fun m => m.node.points[e.2]?).getD pt = e.1
    rw [h.deref_eq hn, Option.bind_some, hget, Option.getD_some]
  have hmap := List.map_congr_left hpoint
  refine hmap.trans ?_
  conv_rhs => rw [← List.zipIdx_map_fst 0 n.node.points, List.filter_map]
  rfl

omit [Field K] [LinearOrder K] in
lemma mapM_get {ds : List (DistPoint K)} (pt : PointType K)
    (h : ∀ d ∈ ds, ∃ p, d.get v = some p) :
    ds.mapM (DistPoint.get v) = some (ds.map (DistPoint.point v pt)) := by
  induction ds with
  | nil => rfl
  | cons d ds ih =>
      obtain ⟨⟨p, hp⟩, hds⟩ := List.forall_mem_cons.mp h
      rw [List.mapM_cons, hp, ih hds, List.map_cons, DistPoint.point, hp]
      rfl

/-! ## Queries -/

lemma nearbyGrids_nodup (nearbyType : NearbyType) : (generateNearbyGrids nearbyType).Nodup := by
  cases nearbyType <;> decide

lemma KeyType.add_right_injective (key : KeyType) : Function.Injective (key + ·) := by
  intro a b hab
  have hx : key.x + a.x = key.x + b.x := congrArg KeyType.x hab
  have hy : key.y + a.y = key.y + b.y := congrArg KeyType.y hab
  have hz : key.z + a.z = key.z + b.z := congrArg KeyType.z hab
  cases a
  cases b
  simp_all

variable [FloorRing K]

/-- The voxels around a point. -/
def IVox.around (v : IVox K) (pt : PointType K) : List KeyType :=
  v.nearbyGrids.map fun delta => v.options.pos2Grid pt + delta

/-- The points in the voxels around a point, out to a range. -/
def IVox.nearby (v : IVox K) (pt : PointType K) (maxRange : K) : List (PointType K) :=
  ((voxels v.gridsCache).filter fun e => e.1 ∈ v.around pt).flatMap fun e =>
    e.2.filter fun p => distance2 p pt < maxRange * maxRange

/-- The voxels around a point that a query finds. -/
def IVox.visited (v : IVox K) (pt : PointType K) : List (CacheNode K) :=
  (v.around pt).flatMap fun key => v.gridsCache.filter fun n => n.key = key

lemma mem_of_mem_visited {pt : PointType K} {n : CacheNode K} (hn : n ∈ v.visited pt) :
    n ∈ v.gridsCache := by
  obtain ⟨key, -, hkey⟩ := List.mem_flatMap.mp hn
  exact List.mem_of_mem_filter hkey

/-- What a query goes through is the points nearby. -/
lemma Linked.visited_points (h : Linked v) (hnearby : v.nearbyGrids.Nodup) (pt : PointType K)
    (maxRange : K) :
    (((v.visited pt).flatMap fun n => n.inRange pt maxRange).map (DistPoint.point v pt)).Perm
      (v.nearby pt maxRange) := by
  have hperm := flatMap_filter_perm
    (hnearby.map (KeyType.add_right_injective (v.options.pos2Grid pt))) CacheNode.key v.gridsCache
  have hpoints : ∀ n ∈ v.visited pt, (n.inRange pt maxRange).map (DistPoint.point v pt)
      = n.node.points.filter fun p => distance2 p pt < maxRange * maxRange :=
    fun n hn => h.inRange_map_point (mem_of_mem_visited hn) pt maxRange
  rw [List.map_flatMap, IVox.nearby, voxels, List.filter_map, List.flatMap_map]
  refine (List.Perm.of_eq (List.flatMap_congr hpoints)).trans ?_
  exact hperm.flatMap_right _

/-- The candidates of a query: the nearest of each voxel that it finds. -/
def IVox.candidates (v : IVox K) (nth : NthElement (DistPoint.dist (K := K))) (pt : PointType K)
    (maxNum : ℕ) (maxRange : K) : List (DistPoint K) :=
  (v.visited pt).flatMap fun n => cut nth maxNum (n.inRange pt maxRange)

lemma Linked.get_candidate (h : Linked v) {nth : NthElement (DistPoint.dist (K := K))}
    {pt : PointType K} {maxNum : ℕ} {maxRange : K} {d : DistPoint K}
    (hd : d ∈ v.candidates nth pt maxNum maxRange) :
    ∃ p, d.get v = some p ∧ d.dist = distance2 p pt := by
  obtain ⟨n, hn, hcut⟩ := List.mem_flatMap.mp hd
  exact h.get_inRange (mem_of_mem_visited hn) (mem_of_mem_cut hcut)

lemma Linked.getClosestPoint_eq (h : Linked v) (nth : NthElement (DistPoint.dist (K := K)))
    (pt : PointType K) (maxNum : ℕ) (maxRange : K) :
    v.getClosestPoint nth pt maxNum maxRange =
      if v.candidates nth pt maxNum maxRange = [] then some none
      else ((nth.run 0 (cut nth maxNum (v.candidates nth pt maxNum maxRange))).mapM
        (DistPoint.get v)).bind fun closestPt => some (some closestPt) := by
  have hfold := h.foldlM_lookup (fun n => cut nth maxNum (n.inRange pt maxRange)) (v.around pt) []
  rw [IVox.around, List.foldlM_map] at hfold
  exact congrArg (fun c : Option (List (DistPoint K)) => c.bind fun candidates =>
    if candidates = [] then some none
    else ((nth.run 0 (cut nth maxNum candidates)).mapM (DistPoint.get v)).bind fun closestPt =>
      some (some closestPt)) hfold

/-- What a query chooses is nearest. -/
lemma Linked.cut_candidates (h : Linked v) (hnearby : v.nearbyGrids.Nodup)
    (nth : NthElement (DistPoint.dist (K := K))) (pt : PointType K) {maxNum : ℕ} (hnum : 0 < maxNum)
    (maxRange : K) :
    IsNearest maxNum (fun p => distance2 p pt)
      ((cut nth maxNum (v.candidates nth pt maxNum maxRange)).map (DistPoint.point v pt) :
        Multiset (PointType K))
      (v.nearby pt maxRange : Multiset (PointType K)) := by
  have hplaces : IsNearest maxNum DistPoint.dist
      (cut nth maxNum (v.candidates nth pt maxNum maxRange) : Multiset (DistPoint K))
      ((v.visited pt).flatMap fun n => n.inRange pt maxRange : Multiset (DistPoint K)) :=
    cut_flatMap_isNearest nth hnum _ _
  rw [← Multiset.coe_eq_coe.mpr (h.visited_points hnearby pt maxRange), ← Multiset.map_coe,
    ← Multiset.map_coe]
  refine hplaces.map fun d hd => ?_
  obtain ⟨n, hn, hin⟩ := List.mem_flatMap.mp (Multiset.mem_coe.mp hd)
  obtain ⟨p, hp, hdist⟩ := h.get_inRange (mem_of_mem_visited hn) hin
  rw [DistPoint.point, hp, Option.getD_some, hdist]

/-- A query of a map that is in order. -/
lemma Linked.getClosestPoint_spec (h : Linked v) (hnearby : v.nearbyGrids.Nodup)
    (nth : NthElement (DistPoint.dist (K := K))) (pt : PointType K) {maxNum : ℕ} (hnum : 0 < maxNum)
    (maxRange : K) :
    ∃ found, v.getClosestPoint nth pt maxNum maxRange = some found ∧
      (found = none ↔ v.nearby pt maxRange = []) ∧
      ∀ closest, found = some closest →
        IsNearest maxNum (fun p => distance2 p pt) (closest : Multiset (PointType K))
          (v.nearby pt maxRange : Multiset (PointType K)) ∧
        ∃ first, closest.head? = some first ∧
          ∀ p ∈ v.nearby pt maxRange, distance2 first pt ≤ distance2 p pt := by
  have hnearest := h.cut_candidates hnearby nth pt hnum maxRange
  have hperm := nth.perm 0 (cut nth maxNum (v.candidates nth pt maxNum maxRange))
  have hplaces : ∀ d ∈ nth.run 0 (cut nth maxNum (v.candidates nth pt maxNum maxRange)),
      ∃ p, d.get v = some p ∧ d.dist = distance2 p pt := fun d hd =>
    h.get_candidate (mem_of_mem_cut (hperm.mem_iff.mp hd))
  have hnear : (v.candidates nth pt maxNum maxRange = []) ↔ v.nearby pt maxRange = [] := by
    have hcard := hnearest.1
    rw [Multiset.coe_card, Multiset.coe_card, List.length_map] at hcard
    have hcut := (cut_isNearest nth hnum (v.candidates nth pt maxNum maxRange)).1
    rw [Multiset.coe_card, Multiset.coe_card] at hcut
    rw [← List.length_eq_zero_iff, ← List.length_eq_zero_iff]
    omega
  rw [h.getClosestPoint_eq, mapM_get pt fun d hd => (hplaces d hd).imp fun _ hp => hp.1]
  split_ifs with hempty
  · exact ⟨none, rfl, iff_of_true rfl (hnear.mp hempty), fun _ hnone => by cases hnone⟩
  · refine ⟨_, rfl, iff_of_false (by simp) fun hnone => hempty (hnear.mpr hnone), ?_⟩
    rintro closest hclosest
    obtain rfl := Option.some.inj hclosest
    rw [← Multiset.coe_eq_coe.mpr (hperm.map (DistPoint.point v pt))] at hnearest
    refine ⟨hnearest, ?_⟩
    have hlength := (cut_isNearest nth hnum (v.candidates nth pt maxNum maxRange)).1
    rw [Multiset.coe_card, Multiset.coe_card, ← hperm.length_eq] at hlength
    cases hrun : nth.run 0 (cut nth maxNum (v.candidates nth pt maxNum maxRange)) with
    | nil =>
        rw [hrun, List.length_nil] at hlength
        have hpos := List.length_pos_iff.mpr hempty
        omega
    | cons d ds =>
        rw [hrun] at hperm hplaces hnearest
        refine ⟨DistPoint.point v pt d, rfl, ?_⟩
        have hfirst : ∀ p ∈ (d :: ds).map (DistPoint.point v pt),
            distance2 (DistPoint.point v pt d) pt ≤ distance2 p pt := by
          intro p hp
          obtain ⟨d', hd', rfl⟩ := List.mem_map.mp hp
          have hle := head_run_zero_le nth (congrArg List.head? hrun) d' (hperm.mem_iff.mp hd')
          obtain ⟨q, hq, hdist⟩ := hplaces d List.mem_cons_self
          obtain ⟨q', hq', hdist'⟩ := hplaces d' hd'
          rw [DistPoint.point, DistPoint.point, hq, hq', Option.getD_some, Option.getD_some,
            ← hdist, ← hdist']
          exact hle
        exact hnearest.first_le (List.mem_cons_self ..) hfirst

/-- **A query is answered with the nearest points of the voxels around**, the nearest in front,
whatever has been added; it fails only if none of them is in range. -/
theorem getClosestPoint_nearest {options : Options K} {batches : List (List (PointType K))}
    (hv : IVox.history options batches = some v) (nth : NthElement (DistPoint.dist (K := K)))
    (pt : PointType K) {maxNum : ℕ} (hnum : 0 < maxNum) (maxRange : K) :
    ∃ found, v.getClosestPoint nth pt maxNum maxRange = some found ∧
      (found = none ↔ v.nearby pt maxRange = []) ∧
      ∀ closest, found = some closest →
        IsNearest maxNum (fun p => distance2 p pt) (closest : Multiset (PointType K))
          (v.nearby pt maxRange : Multiset (PointType K)) ∧
        ∃ first, closest.head? = some first ∧
          ∀ p ∈ v.nearby pt maxRange, distance2 first pt ≤ distance2 p pt := by
  obtain ⟨v', hv', hsynced, -, hnearby, -⟩ := IVox.history_spec options batches
  obtain rfl := Option.some.inj (hv.symm.trans hv')
  exact hsynced.getClosestPoint_spec (hnearby ▸ nearbyGrids_nodup _) nth pt hnum maxRange

/-- Half a metre wide voxels. -/
def halfMetre (nearbyType : NearbyType) : Options ℚ := ⟨1 / 2, 10, nearbyType, 10⟩

/-- Points in five voxels, three of them in one. -/
def sevenPoints : List (PointType ℚ) :=
  [⟨3 / 8, 0, 0, 0, 0⟩, ⟨1 / 8, 1 / 4, 0, 0, 1⟩, ⟨1 / 4, 3 / 8, 1 / 4, 0, 2⟩,
    ⟨-1 / 4, 1 / 4, 0, 0, 3⟩, ⟨1 / 8, 0, 5 / 8, 0, 4⟩, ⟨2, 0, 0, 0, 5⟩,
    ⟨3 / 4, 3 / 4, 3 / 4, 0, 6⟩]

/-- A map of seven points, in two batches, is asked for two. -/
theorem getClosestPoint_nearest_seven :
    ∃ v : IVox ℚ,
      IVox.history (halfMetre .nearby6) [sevenPoints.take 4, sevenPoints.drop 4] = some v ∧
      ∃ found, v.getClosestPoint (NthElement.sort DistPoint.dist) ⟨0, 0, 0, 0, 0⟩ 2 5
        = some found ∧ (found = none ↔ v.nearby ⟨0, 0, 0, 0, 0⟩ 5 = []) ∧
      ∀ closest, found = some closest →
        IsNearest 2 (fun p => distance2 p ⟨0, 0, 0, 0, 0⟩) (closest : Multiset (PointType ℚ))
          (v.nearby ⟨0, 0, 0, 0, 0⟩ 5 : Multiset (PointType ℚ)) ∧
        ∃ first, closest.head? = some first ∧
          ∀ p ∈ v.nearby ⟨0, 0, 0, 0, 0⟩ 5,
            distance2 first ⟨0, 0, 0, 0, 0⟩ ≤ distance2 p ⟨0, 0, 0, 0, 0⟩ := by
  obtain ⟨v, hv, -⟩ :=
    IVox.history_spec (halfMetre .nearby6) [sevenPoints.take 4, sevenPoints.drop 4]
  exact ⟨v, hv, getClosestPoint_nearest hv (NthElement.sort DistPoint.dist) ⟨0, 0, 0, 0, 0⟩
    (Nat.succ_pos 1) 5⟩

/-- The answer is the two nearest points, the nearest in front. -/
example :
    ((IVox.history (halfMetre .nearby6) [sevenPoints.take 4, sevenPoints.drop 4]).bind fun v =>
      v.getClosestPoint (NthElement.sort DistPoint.dist) ⟨0, 0, 0, 0, 0⟩ 2 5)
    = some (some [⟨1 / 8, 1 / 4, 0, 0, 1⟩, ⟨-1 / 4, 1 / 4, 0, 0, 3⟩]) := by
  decide +kernel

/-! ## All 26 neighbours -/

/-- The points in the map. -/
def IVox.stored (v : IVox K) : List (PointType K) := (voxels v.gridsCache).flatMap Prod.snd

/-- A point is in the voxel that it belongs to. -/
lemma mem_own_voxel {options : Options K} {batches : List (List (PointType K))}
    (hv : IVox.history options batches = some v) {p : PointType K} (hp : p ∈ v.stored) :
    ∃ points, (v.options.pos2Grid p, points) ∈ voxels v.gridsCache ∧ p ∈ points := by
  obtain ⟨v', hv', -, hoptions, -, hvoxels⟩ := IVox.history_spec options batches
  obtain rfl := Option.some.inj (hv.symm.trans hv')
  obtain ⟨e, he, hpe⟩ := List.mem_flatMap.mp hp
  refine ⟨e.2, ?_, hpe⟩
  have hcontents := he
  rw [hvoxels, run_touch] at hcontents
  obtain ⟨key, -, rfl⟩ := List.mem_map.mp hcontents
  rw [hoptions, key_of_mem_since hpe]
  exact he

section Neighbours

variable [IsStrictOrderedRing K]

/-- Numbers not farther apart than a voxel is wide, less what rounding can take, are in the same
voxel or in adjacent ones. -/
lemma floor_adjacent {k : ℕ} {inv reach a b : K} (hinv : 0 ≤ inv) (hreach : 0 ≤ reach)
    (hwidth : reach * inv ≤ 1 - 2 ^ (k - 24 : ℤ)) (ha : |a * inv| ≤ 2 ^ k) (hb : |b * inv| ≤ 2 ^ k)
    (h : (a - b) ^ 2 ≤ reach ^ 2) :
    ⌊float32 (a * inv)⌋ - ⌊float32 (b * inv)⌋ ∈ ([-1, 0, 1] : List ℤ) := by
  have habs := abs_le_of_sq_le_sq' h hreach
  have hround : ∀ x : K, |x * inv| ≤ 2 ^ k → |float32 (x * inv) - x * inv| ≤ 2 ^ (k - 24 : ℤ) / 2 :=
    fun x hx => Format.abs_round_sub_le_of_abs_le (by rwa [zpow_natCast])
      (show (-149 : ℤ) ≤ k - (24 : ℕ) by omega)
  have hscale : ∀ x y : K, |x * inv| ≤ 2 ^ k → |y * inv| ≤ 2 ^ k → x - y ≤ reach →
      ⌊float32 (x * inv)⌋ ≤ ⌊float32 (y * inv)⌋ + 1 := by
    intro x y hx hy hxy
    rw [← Int.floor_add_one]
    refine Int.floor_le_floor ?_
    have hdiff := mul_le_mul_of_nonneg_right hxy hinv
    rw [sub_mul] at hdiff
    have hx' := abs_le.mp (hround x hx)
    have hy' := abs_le.mp (hround y hy)
    linarith [hx'.2, hy'.1]
  have hab := hscale a b ha hb habs.2
  have hba := hscale b a hb ha (by linarith [habs.1])
  simp only [List.mem_cons, List.not_mem_nil, or_false]
  omega

lemma mem_nearby26 : ∀ x ∈ ([-1, 0, 1] : List ℤ), ∀ y ∈ ([-1, 0, 1] : List ℤ),
    ∀ z ∈ ([-1, 0, 1] : List ℤ), (⟨x, y, z⟩ : KeyType) ∈ generateNearbyGrids .nearby26 := by
  decide

/-- The coordinates are at most so many powers of two voxels away from zero. -/
structure PointType.Within (k : ℕ) (inv : K) (p : PointType K) : Prop where
  x : |p.x * inv| ≤ 2 ^ k
  y : |p.y * inv| ≤ 2 ^ k
  z : |p.z * inv| ≤ 2 ^ k

/-- A distance that is less than the width of a voxel by what rounding can take. -/
structure Options.Reach (options : Options K) (k : ℕ) (reach : K) : Prop where
  nonneg : 0 ≤ reach
  width : reach * (IVox.make options).options.invResolution ≤ 1 - 2 ^ (k - 24 : ℤ)

/-- A point in reach is in a voxel around. -/
lemma mem_around (options : Options K) (hres : 0 < options.resolution) {k : ℕ} {reach : K}
    (hreach : options.Reach k reach) (hoptions : v.options = (IVox.make options).options)
    (hnearby : v.nearbyGrids = generateNearbyGrids .nearby26) {p pt : PointType K}
    (hp : p.Within k v.options.invResolution) (hpt : pt.Within k v.options.invResolution)
    (h : distance2 p pt ≤ reach ^ 2) : v.options.pos2Grid p ∈ v.around pt := by
  rw [hoptions] at hp hpt
  rw [distance2] at h
  have hx := sq_nonneg (p.x - pt.x)
  have hy := sq_nonneg (p.y - pt.y)
  have hz := sq_nonneg (p.z - pt.z)
  have hinv : 0 ≤ (IVox.make options).options.invResolution :=
    Format.round_nonneg (Format.round_nonneg (div_nonneg (by norm_num) hres.le))
  have hadjacent : ∀ {a b : K},
      |a * (IVox.make options).options.invResolution| ≤ 2 ^ k →
      |b * (IVox.make options).options.invResolution| ≤ 2 ^ k → (a - b) ^ 2 ≤ reach ^ 2 → _ :=
    fun ha hb => floor_adjacent hinv hreach.nonneg hreach.width ha hb
  rw [IVox.around, hoptions, hnearby]
  refine List.mem_map.mpr ⟨_, mem_nearby26 _ (hadjacent hp.x hpt.x ?_)
    _ (hadjacent hp.y hpt.y ?_) _ (hadjacent hp.z hpt.z ?_), ?_⟩
  · linarith
  · linarith
  · linarith
  · exact KeyType.mk.injEq .. ▸ ⟨add_sub_cancel _ _, add_sub_cancel _ _, add_sub_cancel _ _⟩

/-- **With all 26 neighbours nothing in reach is missed**, the reach being the width of a voxel,
less what rounding can take from keys of so many digits.  If there is such a point in range, then
the first point of the answer is the nearest of all points in the map, and each such point is in
the answer, if this is not full of points that are not farther. -/
theorem nearby26_complete {options : Options K} {batches : List (List (PointType K))}
    (hv : IVox.history options batches = some v) (htype : options.nearbyType = .nearby26)
    (hres : 0 < options.resolution) (nth : NthElement (DistPoint.dist (K := K)))
    (pt : PointType K) {maxNum : ℕ} (hnum : 0 < maxNum) (maxRange : K) {k : ℕ} {reach : K}
    (hreach : options.Reach k reach) (hpt : pt.Within k v.options.invResolution)
    (hstored : ∀ p ∈ v.stored, p.Within k v.options.invResolution)
    (hsome : ∃ p ∈ v.stored, distance2 p pt ≤ reach ^ 2 ∧ distance2 p pt < maxRange * maxRange) :
    ∃ closest first, v.getClosestPoint nth pt maxNum maxRange = some (some closest) ∧
      closest.head? = some first ∧ (∀ p ∈ v.stored, distance2 first pt ≤ distance2 p pt) ∧
      ∀ p ∈ v.stored, distance2 p pt ≤ reach ^ 2 → distance2 p pt < maxRange * maxRange →
        p ∈ closest ∨ closest.length = maxNum ∧ ∀ c ∈ closest, distance2 c pt ≤ distance2 p pt := by
  obtain ⟨v', hv', hsynced, hoptions, hnearby, -⟩ := IVox.history_spec options batches
  obtain rfl := Option.some.inj (hv.symm.trans hv')
  have hmem : ∀ p ∈ v.stored, distance2 p pt ≤ reach ^ 2 →
      distance2 p pt < maxRange * maxRange → p ∈ v.nearby pt maxRange := by
    intro p hp hwidth hrange
    obtain ⟨points, hpoints, hpin⟩ := mem_own_voxel hv hp
    have haround := mem_around options hres hreach hoptions (htype ▸ hnearby) (hstored p hp) hpt
      hwidth
    exact List.mem_flatMap.mpr ⟨_, List.mem_filter.mpr ⟨hpoints, decide_eq_true haround⟩,
      List.mem_filter.mpr ⟨hpin, decide_eq_true hrange⟩⟩
  obtain ⟨q, hq, hqwidth, hqrange⟩ := hsome
  obtain ⟨found, hfound, hnone, hclosest⟩ := hsynced.getClosestPoint_spec
    (hnearby ▸ nearbyGrids_nodup _) nth pt hnum maxRange
  have hqnear := hmem q hq hqwidth hqrange
  cases found with
  | none => exact absurd (hnone.mp rfl) (List.ne_nil_of_mem hqnear)
  | some closest =>
      obtain ⟨hnearest, first, hhead, hfirst⟩ := hclosest closest rfl
      refine ⟨closest, first, hfound, hhead, ?_, ?_⟩
      · -- what is not nearby is farther than the point that is
        intro p hp
        have hle := hfirst q hqnear
        rcases le_or_gt (distance2 p pt) (distance2 q pt) with hpq | hpq
        · exact hfirst p (hmem p hp (hpq.trans hqwidth) (hpq.trans_lt hqrange))
        · exact hle.trans hpq.le
      · intro p hp hwidth hrange
        by_cases hin : p ∈ closest
        · exact .inl hin
        · have hpnear := Multiset.mem_coe.mpr (hmem p hp hwidth hrange)
          obtain ⟨hcard, hle⟩ := hnearest.le_of_notMem hpnear fun h => hin (Multiset.mem_coe.mp h)
          exact .inr ⟨hcard, fun c hc => hle c (Multiset.mem_coe.mpr hc)⟩

end Neighbours

/-- Of the map of seven points two are asked for, out to nearly half a metre; the coordinates are at
most four voxels away from zero. -/
theorem nearby26_complete_seven :
    ∃ v : IVox ℚ, IVox.history (halfMetre .nearby26) [sevenPoints.take 4, sevenPoints.drop 4]
        = some v ∧
      ∃ closest first, v.getClosestPoint (NthElement.sort DistPoint.dist) ⟨0, 0, 0, 0, 0⟩ 2 5
        = some (some closest) ∧ closest.head? = some first ∧
      (∀ p ∈ v.stored, distance2 first ⟨0, 0, 0, 0, 0⟩ ≤ distance2 p ⟨0, 0, 0, 0, 0⟩) ∧
      ∀ p ∈ v.stored, distance2 p ⟨0, 0, 0, 0, 0⟩ ≤ (31 / 64) ^ 2 →
        distance2 p ⟨0, 0, 0, 0, 0⟩ < 5 * 5 →
        p ∈ closest ∨ closest.length = 2 ∧
          ∀ c ∈ closest, distance2 c ⟨0, 0, 0, 0, 0⟩ ≤ distance2 p ⟨0, 0, 0, 0, 0⟩ := by
  obtain ⟨v, hv, -, hoptions, -, hvoxels⟩ :=
    IVox.history_spec (halfMetre .nearby26) [sevenPoints.take 4, sevenPoints.drop 4]
  have hstored : v.stored.Perm sevenPoints := by
    rw [IVox.stored, hvoxels]
    decide +kernel
  have htwo : (IVox.make (halfMetre .nearby26)).options.invResolution = 2 := by decide +kernel
  have hinv : v.options.invResolution = 2 := by rw [hoptions, htwo]
  have hwithin : ∀ p ∈ sevenPoints, |p.x * 2| ≤ 2 ^ 2 ∧ |p.y * 2| ≤ 2 ^ 2 ∧ |p.z * 2| ≤ 2 ^ 2 := by
    decide +kernel
  have hreach : (halfMetre .nearby26).Reach 2 (31 / 64) :=
    ⟨by norm_num, by rw [htwo]; norm_num⟩
  refine ⟨v, hv, nearby26_complete hv rfl (by norm_num [halfMetre])
    (NthElement.sort DistPoint.dist) ⟨0, 0, 0, 0, 0⟩ (Nat.succ_pos 1) 5 hreach ?_ ?_ ?_⟩
  · rw [hinv]
    exact ⟨by norm_num, by norm_num, by norm_num⟩
  · rw [hinv]
    intro p hp
    obtain ⟨hx, hy, hz⟩ := hwithin p (hstored.mem_iff.mp hp)
    exact ⟨hx, hy, hz⟩
  · exact ⟨⟨1 / 8, 1 / 4, 0, 0, 1⟩, hstored.mem_iff.mpr (by decide +kernel),
      by norm_num [distance2], by norm_num [distance2]⟩

end SentryNav.PointLio
