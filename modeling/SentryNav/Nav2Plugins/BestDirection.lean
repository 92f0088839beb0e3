import SentryNav.Nav2Plugins.BackUpFreeSpace
import Mathlib.Data.Rat.Floor

/-!
# Which direction `findBestDirection` returns

The search goes over the sampled angles once.  It records a sector, from a first safe angle to the
unsafe one that follows, if it is wider than the one recorded before; a sector that is not wider
stays in the markers, and nothing is recorded any more.  An angle of `-1` means that a marker is not
set, so a sample at `-1` leaves no trace (`scan_sentinel`).

`Search.best_eq` says what is returned: the middle of the sector at which the climb over the closed
runs stops, or zero.
-/

namespace SentryNav.Nav2Plugins.BackUpFreeSpace

open FloatFormat Sectors

/-! ## The scan -/

section Scan

variable {K : Type*} [Field K] [LinearOrder K] [FloorRing K]

/-- Markers while the run that has begun at a place, if any, is open. -/
def Markers.at (angle : ℕ → K) (o : Option ℕ) (sector : K × K) : Markers K :=
  ⟨(o.map angle).getD (-1), -1, sector.1, sector.2⟩

/-- The sector recorded. -/
def Markers.sector (s : Markers K) : K × K := (s.finalSafeAngle, s.finalUnsafeAngle)

/-- The flags as the search takes them: a sample at `-1` is like the sample before it. -/
def seen (angle : ℕ → K) (safe : ℕ → Bool) (k : ℕ) : Bool :=
  if angle k = -1 then k != 0 && safe (k - 1) else safe k

variable {angle : ℕ → K} {safe : ℕ → Bool} {a : ℕ} {o : Option ℕ} {sector : K × K}

/-- A sample at `-1` leaves no trace. -/
lemma scan_sentinel (ho : ∀ i ∈ o, angle i ≠ -1) (flag : Bool) :
    (Markers.at angle o sector).scan (-1) flag = Markers.at angle o sector := by
  cases o with
  | none => cases flag <;> simp [Markers.scan, Markers.at]
  | some i =>
      have hi : angle i ≠ -1 := ho i rfl
      cases flag <;> simp [Markers.scan, Markers.at, hi]

/-- A safe sample begins a run or continues it. -/
lemma scan_safe (ho : ∀ i ∈ o, angle i ≠ -1) :
    (Markers.at angle o sector).scan (angle a) true
      = Markers.at angle (some (o.getD a)) sector := by
  cases o with
  | none => simp [Markers.scan, Markers.at]
  | some i =>
      have hi : angle i ≠ -1 := ho i rfl
      simp [Markers.scan, Markers.at, hi]

/-- An unsafe sample when no run is open. -/
lemma scan_unsafe_none :
    (Markers.at angle none sector).scan (angle a) false = Markers.at angle none sector := by
  simp [Markers.scan, Markers.at]

/-- An unsafe sample ends a run; it is recorded if it is wider than the one recorded. -/
lemma scan_unsafe_some {i : ℕ} (hi : angle i ≠ -1) (ha : angle a ≠ -1) :
    (Markers.at angle (some i) sector).scan (angle a) false
      = if float32 (sector.2 - sector.1) < float32 (angle a - angle i)
        then Markers.at angle none (angle i, angle a)
        else ⟨angle i, angle a, sector.1, sector.2⟩ := by
  simp [Markers.scan, Markers.at, hi, ha]

/-- A sector that has not been recorded stays in the markers for good. -/
lemma scan_stuck {s : Markers K} (hfirst : s.firstSafeAngle ≠ -1) (hlast : s.lastUnsafeAngle ≠ -1)
    (hnarrow : ¬ float32 (s.finalUnsafeAngle - s.finalSafeAngle)
      < float32 (s.lastUnsafeAngle - s.firstSafeAngle))
    (angle : K) (flag : Bool) : s.scan angle flag = s := by
  simp [Markers.scan, hfirst, hlast, hnarrow]

lemma foldl_stuck {s : Markers K} (hfirst : s.firstSafeAngle ≠ -1)
    (hlast : s.lastUnsafeAngle ≠ -1)
    (hnarrow : ¬ float32 (s.finalUnsafeAngle - s.finalSafeAngle)
      < float32 (s.lastUnsafeAngle - s.firstSafeAngle))
    (places : List ℕ) :
    places.foldl (fun s k => s.scan (angle k) (safe k)) s = s := by
  induction places with
  | nil => rfl
  | cons k places ih => rw [List.foldl_cons, scan_stuck hfirst hlast hnarrow, ih]

omit [FloorRing K] in
/-- At a sample at `-1` the flag that the search takes is whether a run is open. -/
lemma seen_sentinel (hangle : a ≠ 0 → angle (a - 1) ≠ angle a)
    (h : Opened (seen angle safe) a o) (ha : angle a = -1) : seen angle safe a = o.isSome := by
  have hprev : a ≠ 0 → seen angle safe (a - 1) = safe (a - 1) :=
    fun h0 => if_neg fun hprev => hangle h0 (hprev.trans ha.symm)
  have hhere : seen angle safe a = (a != 0 && safe (a - 1)) := if_pos ha
  cases o with
  | none =>
      rcases h with rfl | hdown
      · simp [hhere]
      · rcases Nat.eq_zero_or_pos a with rfl | hpos
        · simp [hhere]
        · rw [hprev hpos.ne'] at hdown
          simp [hhere, hdown]
  | some i =>
      obtain ⟨hlt, hall, -⟩ := h
      have hup := hall (a - 1) (by omega) (by omega)
      rw [hprev (by omega)] at hup
      have h0 : a ≠ 0 := by omega
      simp [hhere, hup, h0]

/-- **What the scan records** is what the climb over the closed runs stops at. -/
theorem foldl_scan (safe : ℕ → Bool) (sector : K × K) (len : ℕ)
    (hangle : ∀ k < a + len, k ≠ 0 → angle (k - 1) ≠ angle k)
    (h : Opened (seen angle safe) a o) (ho : ∀ i ∈ o, angle i ≠ -1) :
    ((List.range' a len).foldl (fun s k => s.scan (angle k) (safe k))
        (Markers.at angle o sector)).sector
      = climb (fun s => float32 (s.2 - s.1)) sector
          ((runsFrom (seen angle safe) o a len).map fun r => (angle r.1, angle r.2)) := by
  induction len generalizing a o sector with
  | zero => rfl
  | succ len ih =>
      rw [List.range'_succ, List.foldl_cons]
      have hrest : ∀ k < a + 1 + len, k ≠ 0 → angle (k - 1) ≠ angle k :=
        fun k hk => hangle k (by omega)
      by_cases ha : angle a = -1
      · have hskip : runsFrom (seen angle safe) o a (len + 1)
            = runsFrom (seen angle safe) o (a + 1) len ∧
              Opened (seen angle safe) (a + 1) o := by
          have hflag := seen_sentinel (hangle a (by omega)) h ha
          cases o with
          | none => exact ⟨runsFrom_down none hflag len, opened_of_down hflag⟩
          | some i => exact ⟨runsFrom_up (some i) hflag len, h.next_up hflag⟩
        rw [ha, scan_sentinel ho, hskip.1]
        exact ih _ hrest hskip.2 ho
      · have hseen : seen angle safe a = safe a := if_neg ha
        cases hflag : safe a with
        | true =>
            have hup := hseen.trans hflag
            rw [scan_safe ho, runsFrom_up o hup]
            refine ih _ hrest (h.next_up hup) fun i hi => ?_
            obtain rfl : o.getD a = i := Option.some.inj hi
            cases o with
            | none => exact ha
            | some i => exact ho i rfl
        | false =>
            have hdown := hseen.trans hflag
            have hnext := opened_of_down hdown
            rw [runsFrom_down o hdown]
            cases o with
            | none =>
                rw [scan_unsafe_none]
                exact ih _ hrest hnext nofun
            | some i =>
                have hi := ho i rfl
                rw [scan_unsafe_some hi ha]
                simp only [Option.map_some, Option.toList_some, List.singleton_append,
                  List.map_cons, climb]
                split
                · exact ih _ hrest hnext nofun
                · next hnarrow =>
                    let stuck : Markers K := ⟨angle i, angle a, sector.1, sector.2⟩
                    have hstuck : (List.range' (a + 1) len).foldl
                        (fun s k => s.scan (angle k) (safe k)) stuck = stuck :=
                      foldl_stuck (s := stuck) hi ha hnarrow _
                    exact congrArg Markers.sector hstuck

end Scan

/-! ## What is returned -/

/-- The value of the loop variable in a pass. -/
def angleAt {K : Type*} [Field K] [LinearOrder K] [FloorRing K]
    (startAngle angleIncrement : K) (k : ℕ) : K :=
  (advance (float32 angleIncrement))^[k] (float32 startAngle)

section AngleAt

variable {K : Type*} [Field K] [LinearOrder K] [FloorRing K] [IsStrictOrderedRing K]
  {startAngle angleIncrement : K}

lemma isFloat_angleAt (startAngle angleIncrement : K) (k : ℕ) :
    binary32.IsFloat (angleAt startAngle angleIncrement k) := by
  cases k with
  | zero => exact binary32.isFloat_round _
  | succ k =>
      rw [angleAt, Function.iterate_succ_apply']
      exact binary32.isFloat_round _

omit [IsStrictOrderedRing K] in
lemma angleAt_succ (startAngle angleIncrement : K) (k : ℕ) :
    angleAt startAngle angleIncrement (k + 1)
      = float32 (angleAt startAngle angleIncrement k + float32 angleIncrement) := by
  rw [angleAt, Function.iterate_succ_apply', ← angleAt, advance]

/-- Adding something positive does not go down. -/
lemma monotone_angleAt (h : 0 ≤ float32 angleIncrement) :
    Monotone (angleAt startAngle angleIncrement) := by
  refine monotone_nat_of_le_succ fun k => ?_
  rw [angleAt_succ]
  exact (isFloat_angleAt startAngle angleIncrement k).le_round (le_add_of_nonneg_right h)

end AngleAt

/-- A call of `findBestDirection`; the loop over the angles moves on in every pass, or it would not
end. -/
structure Search (K : Type*) [Field K] [LinearOrder K] [FloorRing K] where
  costmap : Costmap K
  pose : Pose2D K
  startAngle : K
  endAngle : K
  radius : K
  angleIncrement : K
  moves_on : ∀ k, angleAt startAngle angleIncrement k ≤ float32 endAngle →
    angleAt startAngle angleIncrement k < angleAt startAngle angleIncrement (k + 1)

namespace Search

variable {K : Type*} [Field K] [LinearOrder K] [FloorRing K]

/-- The number of sampled angles. -/
def count (q : Search K) : ℕ :=
  (floatSweep (float32 q.startAngle) (float32 q.endAngle) (float32 q.angleIncrement)).length

/-- A sampled angle. -/
def angle (q : Search K) (k : ℕ) : K := angleAt q.startAngle q.angleIncrement k

/-- Whether a sampled angle is safe. -/
def safe (m : Libm K) (q : Search K) (k : ℕ) : Bool :=
  isSafe m q.costmap q.pose (float32 q.radius) (q.angle k)

/-- The angle returned. -/
def best (m : Libm K) (q : Search K) : K :=
  findBestDirection m q.costmap q.pose q.startAngle q.endAngle q.radius q.angleIncrement

/-- Where a run of samples begins, and the angle that follows it. -/
def span (q : Search K) (r : ℕ × ℕ) : K × K := (q.angle r.1, q.angle r.2)

/-- The middle of a run of samples, as it is computed. -/
def middle (q : Search K) (r : ℕ × ℕ) : K :=
  float32 (float32 (q.angle r.1 + q.angle r.2) / 2.0)

/-- The width of a run of samples. -/
def width (q : Search K) (r : ℕ × ℕ) : K := q.angle r.2 - q.angle r.1

/-- The width of a run of samples, as it is computed. -/
def floatWidth (q : Search K) (r : ℕ × ℕ) : K := float32 (q.width r)

/-- The flags as the search takes them. -/
def seen (m : Libm K) (q : Search K) : ℕ → Bool :=
  BackUpFreeSpace.seen q.angle (q.safe m)

variable [IsStrictOrderedRing K] {q : Search K} {m : Libm K} {r r' : ℕ × ℕ} {n : ℕ}

lemma isFloat_angle (q : Search K) (k : ℕ) : binary32.IsFloat (q.angle k) :=
  isFloat_angleAt _ _ k

omit [IsStrictOrderedRing K] in
/-- The loop takes angle after angle. -/
lemma angles_eq (q : Search K) :
    floatSweep (float32 q.startAngle) (float32 q.endAngle) (float32 q.angleIncrement)
      = (List.range q.count).map q.angle :=
  sweep_eq_map _ _ _ _

omit [IsStrictOrderedRing K] in
lemma angle_le_endAngle (q : Search K) {k : ℕ} (hk : k < q.count) :
    q.angle k ≤ float32 q.endAngle := le_of_lt_sweep hk

omit [IsStrictOrderedRing K] in
/-- The angles go up. -/
lemma angle_lt (q : Search K) {i j : ℕ} (hij : i < j) (hj : j ≤ q.count) : q.angle i < q.angle j :=
  lt_of_moves_on (fun k hk => q.moves_on k (q.angle_le_endAngle hk)) hij hj

omit [IsStrictOrderedRing K] in
lemma angle_inj (q : Search K) {i j : ℕ} (hi : i ≤ q.count) (hj : j ≤ q.count)
    (h : q.angle i = q.angle j) : i = j := by
  rcases Nat.lt_trichotomy i j with hlt | heq | hgt
  · exact absurd h (q.angle_lt hlt hj).ne
  · exact heq
  · exact absurd h (q.angle_lt hgt hi).ne'

/-- **The loop ends** as the code's does, not for want of passes. -/
theorem endAngle_lt_angle_count (q : Search K) : float32 q.endAngle < q.angle q.count := by
  refine lt_of_sweep_lt (Nat.lt_succ_of_le (sweep_length_le (zpow_pos two_pos _) fun k hk => ?_))
  exact (q.isFloat_angle k).add_le (q.isFloat_angle (k + 1)) (q.moves_on k (le_of_lt_sweep hk))

lemma floatWidth_pos (q : Search K) (h : r.1 < r.2) (hr : r.2 ≤ q.count) : 0 < q.floatWidth r :=
  (q.isFloat_angle r.1).round_sub_pos (q.isFloat_angle r.2) (q.angle_lt h hr)

lemma floatWidth_none (q : Search K) : q.floatWidth (0, 0) = 0 := by
  rw [floatWidth, width, sub_self]
  exact float32_zero

/-- **What the search returns**: the middle of the run at which the climb stops, or zero if there is
no run to start from. -/
theorem best_eq (m : Libm K) (q : Search K) :
    q.best m = if runs (q.seen m) q.count = [] then 0
      else q.middle (climb q.floatWidth (0, 0) (runs (q.seen m) q.count)) := by
  have hspan : q.span = fun r => (q.angle r.1, q.angle r.2) := rfl
  have hangle : ∀ k < 0 + q.count, k ≠ 0 → q.angle (k - 1) ≠ q.angle k :=
    fun k hk h0 => (q.angle_lt (by omega) (by omega)).ne
  have hscan := foldl_scan (q.safe m) (0, 0) q.count hangle opened_start nofun
  have hbest : q.best m
      = (fun s : K × K => float32 (float32 (s.1 + s.2) / 2.0))
          (climb (fun s => float32 (s.2 - s.1)) (0, 0)
            ((runs (q.seen m) q.count).map q.span)) := by
    rw [runs, seen, hspan, ← hscan, best, findBestDirection, q.angles_eq, List.foldl_map,
      List.range_eq_range']
    rfl
  rw [hbest]
  cases hruns : runs (q.seen m) q.count with
  | nil => simp [climb, float32_zero]
  | cons r rs =>
      obtain ⟨hr, hcount⟩ := mem_runs.mp (hruns ▸ List.mem_cons_self : r ∈ runs (q.seen m) q.count)
      have hpos := q.floatWidth_pos hr.lt hcount.le
      have hwide : float32 ((0 : K) - 0) < float32 ((q.span r).2 - (q.span r).1) := by
        rw [sub_self, float32_zero]
        exact hpos
      rw [List.map_cons, climb, if_pos hwide, climb_map, climb, q.floatWidth_none, if_pos hpos,
        if_neg (List.cons_ne_nil r rs)]
      rfl

/-- What is returned if there is a run to start from. -/
lemma best_eq_middle (m : Libm K) (q : Search K) (hr : r ∈ closedRuns (q.seen m) q.count) :
    q.best m = q.middle (climb q.floatWidth (0, 0) (runs (q.seen m) q.count)) := by
  have hruns : runs (q.seen m) q.count ≠ [] := by
    intro hempty
    have hmem := mem_runs.mpr hr
    rw [hempty] at hmem
    exact List.not_mem_nil hmem
  rw [best_eq, if_neg hruns]

lemma floatWidth_lt (q : Search K) {up : ℕ → Bool} :
    ∀ r ∈ closedRuns up q.count, q.floatWidth (0, 0) < q.floatWidth r :=
  fun _ hr => q.floatWidth_none.symm ▸ q.floatWidth_pos hr.1.lt hr.2.le

/-- The middle of a run is between its ends, or at one of them. -/
lemma angle_le_middle (q : Search K) (h : r.1 < r.2) (hr : r.2 ≤ q.count) :
    q.angle r.1 ≤ q.middle r := by
  have htwo : (2.0 : K) = 2 := by norm_num
  rw [middle, htwo]
  exact (q.isFloat_angle r.1).le_round_midpoint (q.angle_lt h hr).le

lemma middle_le_angle (q : Search K) (h : r.1 < r.2) (hr : r.2 ≤ q.count) :
    q.middle r ≤ q.angle r.2 := by
  have htwo : (2.0 : K) = 2 := by norm_num
  rw [middle, htwo]
  exact (q.isFloat_angle r.2).round_midpoint_le (q.angle_lt h hr).le

/-- Of two closed runs, the one that ends first has the smaller middle. -/
lemma middle_lt_middle (q : Search K) {up : ℕ → Bool} (h : r ∈ closedRuns up q.count)
    (h' : r' ∈ closedRuns up q.count) (hlt : r.2 < r'.2) : q.middle r < q.middle r' := by
  have hstart := h'.1.lt.trans h'.2
  calc q.middle r ≤ q.angle r.2 := q.middle_le_angle h.1.lt h.2.le
    _ < q.angle r'.1 := q.angle_lt (h.1.lt_of_lt h'.1 hlt) hstart.le
    _ ≤ q.middle r' := q.angle_le_middle h'.1.lt h'.2.le

/-- Closed runs are told apart by their middles. -/
lemma middle_injOn (q : Search K) {up : ℕ → Bool} (h : r ∈ closedRuns up q.count)
    (h' : r' ∈ closedRuns up q.count) (heq : q.middle r = q.middle r') : r = r' := by
  rcases Nat.lt_trichotomy r.2 r'.2 with hlt | hstop | hgt
  · exact absurd heq (q.middle_lt_middle h h' hlt).ne
  · have hrun := h'.1
    rw [← hstop] at hrun
    exact Prod.ext (h.1.eq_of_stop hrun) hstop
  · exact absurd heq (q.middle_lt_middle h' h hgt).ne'

lemma climb_mem_closedRuns (m : Libm K) (q : Search K) (hr : r ∈ closedRuns (q.seen m) q.count) :
    climb q.floatWidth (0, 0) (runs (q.seen m) q.count) ∈ closedRuns (q.seen m) q.count :=
  mem_runs.mp
    (climb_mem_of_narrower (mem_runs.mpr hr) fun p hp => q.floatWidth_lt p (mem_runs.mp hp))

end Search

/-! ## The search of `onRun` -/

section RunSearch

variable {K : Type*} [Field K] [LinearOrder K] [IsStrictOrderedRing K] [FloorRing K]

/-- `M_PI` is between two floats. -/
lemma mPi_bounds : 3 ≤ (mPi : K) ∧ (mPi : K) ≤ 13 / 4 := by
  have hlower : binary64.IsFloat (3 : K) := ⟨3, 0, by decide, by decide, by norm_num⟩
  have hupper : binary64.IsFloat (13 / 4 : K) := ⟨13, -2, by decide, by decide, by norm_num⟩
  exact ⟨hlower.le_round (by norm_num), hupper.round_le (by norm_num)⟩

lemma float32_mPi_le : float32 (mPi : K) ≤ 13 / 4 := by
  have hupper : binary32.IsFloat (13 / 4 : K) := ⟨13, -2, by decide, by decide, by norm_num⟩
  exact hupper.round_le mPi_bounds.2

/-- The increment is about a tenth. -/
lemma runIncrement_bounds :
    1 / 16 ≤ float32 (mPi / 32.0 : K) ∧ float32 (mPi / 32.0 : K) ≤ 1 / 8 := by
  obtain ⟨hpi, hpi'⟩ := mPi_bounds (K := K)
  have hlower : binary32.IsFloat (1 / 16 : K) := ⟨1, -4, by decide, by decide, by norm_num⟩
  have hupper : binary32.IsFloat (1 / 8 : K) := ⟨1, -3, by decide, by decide, by norm_num⟩
  refine ⟨hlower.le_round ?_, hupper.round_le ?_⟩
  · rw [le_div_iff₀ (by norm_num)]
    norm_num
    linarith
  · rw [div_le_iff₀ (by norm_num)]
    norm_num
    linarith

/-- No angle is below minus four. -/
lemma neg_four_le_angleAt (k : ℕ) : -4 ≤ angleAt (-mPi : K) (mPi / 32.0) k := by
  have hfour : binary32.IsFloat (-4 : K) := ⟨-1, 2, by decide, by decide, by norm_num⟩
  have hstart : -4 ≤ angleAt (-mPi : K) (mPi / 32.0) 0 :=
    hfour.le_round (by linarith [(mPi_bounds (K := K)).2])
  have hstep : (0 : K) ≤ float32 (mPi / 32.0) := by linarith [(runIncrement_bounds (K := K)).1]
  exact hstart.trans (monotone_angleAt hstep (Nat.zero_le k))

/-- The search of `onRun`. -/
def runSearch (costmap : Costmap K) (pose : Pose2D K) (maxRadius : K) : Search K where
  costmap := costmap
  pose := pose
  startAngle := -mPi
  endAngle := mPi
  radius := maxRadius
  angleIncrement := mPi / 32.0
  moves_on := fun k hk => by
    -- up to four, rounding takes away less than the increment
    have hlower := neg_four_le_angleAt (K := K) k
    have hupper := hk.trans float32_mPi_le
    obtain ⟨hstep, hstep'⟩ := runIncrement_bounds (K := K)
    rw [angleAt_succ]
    have hsmall : |angleAt (-mPi : K) (mPi / 32.0) k + float32 (mPi / 32.0)| ≤ 2 ^ (2 : ℤ) := by
      rw [abs_le]
      constructor <;> norm_num <;> linarith
    have hround := Format.abs_round_sub_le_of_abs_le (f := binary32) hsmall (by decide)
    obtain ⟨hfar, -⟩ := abs_le.mp hround
    have hunit : (2 : K) ^ (2 - (binary32.precision : ℤ)) / 2 < 1 / 16 := by
      norm_num [binary32]
    linarith

lemma bestAngle_eq (m : Libm K) (costmap : Costmap K) (pose : Pose2D K) (maxRadius : K) :
    bestAngle m costmap pose maxRadius = (runSearch costmap pose maxRadius).best m := rfl

end RunSearch

/-- The last angle would be at half a turn, but rounding puts it beyond. -/
example : (floatSweep (float32 (-mPi : ℚ)) (float32 mPi) (float32 (mPi / 32.0))).length = 64 := by
  decide +kernel

end SentryNav.Nav2Plugins.BackUpFreeSpace
