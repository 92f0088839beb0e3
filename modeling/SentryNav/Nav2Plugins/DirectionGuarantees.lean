import SentryNav.Nav2Plugins.BestDirection
import SentryNav.RealMath
import Mathlib.Analysis.Real.Pi.Bounds
import Mathlib.Analysis.SpecialFunctions.Trigonometric.Bounds
import Mathlib.Tactic.IntervalCases

/-!
# Is the direction safe, and is its sector the widest?

Two things `findBestDirection` is for, and when it delivers them.

* `widestSector_iff`: the middle of the widest sector is returned just when the sectors up to that
  one come in increasing width, since the search gets stuck at the first that does not.
  `wider_later` is a costmap with a wider sector after that.
* `safeDirection_iff`: the angle returned is in a safe sector, apart from samples at `-1`, if any
  sector is followed by an unsafe sample.  `only_west_safe` is a costmap on which the last sample
  alone is safe, and the angle returned is zero.

Angles, widths and middles are those of `float`.  The costmaps are searched in eight directions, by
`25 / 32`, which is a `float` and nearly an eighth of a turn.
-/

namespace SentryNav.Nav2Plugins.BackUpFreeSpace

open FloatFormat Sectors

namespace Search

variable {K : Type*} [Field K] [LinearOrder K] [FloorRing K] [IsStrictOrderedRing K]
  {q : Search K} {m : Libm K} {r : ℕ × ℕ}

/-! ## Is it the widest? -/

/-- `findBestDirection` returns the middle of the first of the widest runs that are followed by an
unsafe sample. -/
def WidestSector (m : Libm K) (q : Search K) : Prop :=
  ∀ r, FirstWidest q.width (closedRuns (q.safe m) q.count) r → q.best m = q.middle r

/-- Up to the first of the widest runs, the runs come in increasing width, after rounding. -/
def WidthsGrow (m : Libm K) (q : Search K) : Prop :=
  ∀ r, FirstWidest q.width (closedRuns (q.safe m) q.count) r →
    ∀ p ∈ closedRuns (q.safe m) q.count, ∀ p' ∈ closedRuns (q.safe m) q.count,
      p.1 < p'.1 → p'.1 ≤ r.1 → q.floatWidth p < q.floatWidth p'

omit [IsStrictOrderedRing K] in
/-- The flags are seen as they are if no sampled angle is `-1`. -/
lemma runs_seen (hsentinel : ∀ k < q.count, q.angle k ≠ -1) :
    runs (q.seen m) q.count = runs (q.safe m) q.count :=
  runsFrom_congr fun k _ hk => if_neg (hsentinel k (by omega))

omit [IsStrictOrderedRing K] in
lemma closedRuns_seen (hsentinel : ∀ k < q.count, q.angle k ≠ -1) :
    closedRuns (q.seen m) q.count = closedRuns (q.safe m) q.count := by
  ext r
  rw [← mem_runs, runs_seen hsentinel, mem_runs]

/-- **When the widest sector is found.**  If no sampled angle is `-1`, the search returns the middle
of the widest sector just when the sectors up to that one come in increasing width. -/
theorem widestSector_iff (m : Libm K) (q : Search K)
    (hsentinel : ∀ k < q.count, q.angle k ≠ -1) : q.WidestSector m ↔ q.WidthsGrow m := by
  refine forall_congr' fun r => imp_congr_right fun hr => ?_
  have hmem : r ∈ closedRuns (q.seen m) q.count := closedRuns_seen hsentinel ▸ hr.mem
  have hclimb : climb q.floatWidth (0, 0) (runs (q.safe m) q.count) = r ↔ _ :=
    climb_eq_widest_iff binary32.round_mono (fun _ => mem_runs) runs_sorted q.floatWidth_lt hr
  rw [best_eq_middle m q hmem]
  refine Iff.trans ⟨fun heq => ?_, fun heq => ?_⟩ hclimb
  · rw [← runs_seen hsentinel]
    exact q.middle_injOn (climb_mem_closedRuns m q hmem) hmem heq
  · rw [runs_seen hsentinel, heq]

/-! ## Is it safe? -/

/-- If a sampled angle is safe, the angle returned lies between the first sample of a maximal run of
safe samples and the sample that follows, or the last angle. -/
def SafeDirection (m : Libm K) (q : Search K) : Prop :=
  (∃ k < q.count, q.safe m k = true) →
    ∃ i j, MaxRun (q.safe m) q.count i j ∧ q.angle i ≤ q.best m ∧
      q.best m ≤ if j < q.count then q.angle j else float32 q.endAngle

/-- The angle zero lies in a maximal run of safe samples, or before the sample that follows. -/
def AroundZero (m : Libm K) (q : Search K) : Prop :=
  ∃ i j, MaxRun (q.safe m) q.count i j ∧ q.angle i ≤ 0 ∧
    0 ≤ if j < q.count then q.angle j else float32 q.endAngle

/-- A sample at `-1` is unsafe, inside what the search takes for a run, and the middle of the run is
after it, but before the next sample, or that is the end of the run. -/
def Swallowed (m : Libm K) (q : Search K) (r : ℕ × ℕ) : Prop :=
  ∃ k, q.angle k = -1 ∧ q.safe m k = false ∧ r.1 < k ∧ k < r.2 ∧ q.angle k < q.middle r ∧
    (k + 1 = r.2 ∨ q.middle r < q.angle (k + 1))

/-- If a run is followed by an unsafe sample, then that up to which such runs come in increasing
width is not interrupted, just before its middle, by an unsafe sample at `-1`; if none is, then no
sample is safe or the angle zero is as good as a safe one. -/
def DirectionCondition (m : Libm K) (q : Search K) : Prop :=
  (∀ r ∈ closedRuns (q.seen m) q.count,
    Peak q.floatWidth (closedRuns (q.seen m) q.count) r → ¬ q.Swallowed m r) ∧
  (closedRuns (q.seen m) q.count = ∅ → (∃ k < q.count, q.safe m k = true) → q.AroundZero m)

omit [IsStrictOrderedRing K] in
lemma seen_of_ne {k : ℕ} (h : q.angle k ≠ -1) : q.seen m k = q.safe m k := if_neg h

omit [IsStrictOrderedRing K] in
lemma prev_ne_sentinel (q : Search K) {k : ℕ} (hk : k ≤ q.count) (h : q.angle k = -1)
    (h0 : k ≠ 0) : q.angle (k - 1) ≠ -1 := by
  intro hprev
  have := q.angle_inj (by omega) hk (hprev.trans h.symm)
  omega

omit [IsStrictOrderedRing K] in
/-- What the search takes for a run does not begin at `-1`. -/
lemma start_ne (h : r ∈ closedRuns (q.seen m) q.count) : q.angle r.1 ≠ -1 := by
  obtain ⟨hrun, hcount⟩ := h
  have hlt := hrun.lt
  intro hi
  have hup : (r.1 != 0 && q.safe m (r.1 - 1)) = true :=
    (if_pos hi).symm.trans (hrun.all r.1 le_rfl hlt)
  rw [Bool.and_eq_true, bne_iff_ne] at hup
  obtain ⟨h0, hsafe⟩ := hup
  rcases hrun.before with h0' | hdown
  · exact h0 h0'
  · rw [seen_of_ne (q.prev_ne_sentinel (by omega) hi h0), hsafe] at hdown
    exact absurd hdown.symm Bool.false_ne_true

omit [IsStrictOrderedRing K] in
/-- It does not end at `-1` either. -/
lemma stop_ne (h : r ∈ closedRuns (q.seen m) q.count) : q.angle r.2 ≠ -1 := by
  obtain ⟨hrun, hcount⟩ := h
  have hlt := hrun.lt
  intro hj
  have h0 : r.2 ≠ 0 := by omega
  have hup := hrun.all (r.2 - 1) (by omega) (by omega)
  rw [seen_of_ne (q.prev_ne_sentinel hcount.le hj h0)] at hup
  have hdown : (r.2 != 0 && q.safe m (r.2 - 1)) = false := (if_pos hj).symm.trans hrun.after
  rw [hup, Bool.and_true] at hdown
  simp [h0] at hdown

omit [IsStrictOrderedRing K] in
/-- In what the search takes for a run, samples elsewhere than at `-1` are safe. -/
lemma safe_of_mem_run {i j k : ℕ} (hrun : ClosedRun (q.seen m) i j) (hik : i ≤ k) (hkj : k < j)
    (hne : q.angle k ≠ -1) : q.safe m k = true :=
  (seen_of_ne hne).symm.trans (hrun.all k hik hkj)

omit [IsStrictOrderedRing K] in
/-- What the search takes for a run is followed by an unsafe sample. -/
lemma unsafe_stop (h : r ∈ closedRuns (q.seen m) q.count) : q.safe m r.2 = false :=
  (seen_of_ne (stop_ne h)).symm.trans h.1.after

/-- The middle of a run lies in a maximal run of safe samples, or before the sample that follows. -/
def MiddleSafe (m : Libm K) (q : Search K) (r : ℕ × ℕ) : Prop :=
  ∃ i j, MaxRun (q.safe m) q.count i j ∧ q.angle i ≤ q.middle r ∧
    q.middle r ≤ if j < q.count then q.angle j else float32 q.endAngle

omit [IsStrictOrderedRing K] in
lemma middleSafe_of_maxRun {i j : ℕ} (hrun : MaxRun (q.safe m) q.count i j)
    (hcount : j < q.count) (hstart : q.angle i ≤ q.middle r) (hstop : q.middle r ≤ q.angle j) :
    q.MiddleSafe m r :=
  ⟨i, j, hrun, hstart, by rwa [if_pos hcount]⟩

/-- An unsafe sample at `-1` cuts a run in two, and the middle is in one of the parts if it is not
between them. -/
lemma middleSafe_of_cut (hr : r ∈ closedRuns (q.seen m) q.count) {k : ℕ} (hk : q.angle k = -1)
    (hdanger : q.safe m k = false) (hrk : r.1 < k) (hkr : k < r.2)
    (hmiddle : q.angle k < q.middle r → k + 1 ≠ r.2 ∧ q.angle (k + 1) ≤ q.middle r) :
    q.MiddleSafe m r := by
  have hunsafe := unsafe_stop hr
  have hstart := q.angle_le_middle hr.1.lt hr.2.le
  have hstop := q.middle_le_angle hr.1.lt hr.2.le
  obtain ⟨hrun, hcount⟩ := hr
  have hne : ∀ l ≤ r.2, l ≠ k → q.angle l ≠ -1 :=
    fun l hl hlk heq => hlk (q.angle_inj (by omega) (by omega) (heq.trans hk.symm))
  rcases lt_or_ge (q.angle k) (q.middle r) with hright | hleft
  · obtain ⟨hlast, hnext⟩ := hmiddle hright
    have hpart : MaxRun (q.safe m) q.count (k + 1) r.2 :=
      { lt := by omega
        le := hcount.le
        all := fun l hl hlr => safe_of_mem_run hrun (by omega) hlr (hne l hlr.le (by omega))
        before := .inr hdanger
        after := .inr hunsafe }
    exact middleSafe_of_maxRun hpart hcount hnext hstop
  · have hpart : MaxRun (q.safe m) q.count r.1 k :=
      { lt := hrk
        le := by omega
        all := fun l hl hlk =>
          safe_of_mem_run hrun hl (by omega) (hne l (by omega) (by omega))
        before := hrun.before.imp_right fun hdown =>
          (seen_of_ne (hne _ (by omega) (by omega))).symm.trans hdown
        after := .inr hdanger }
    exact middleSafe_of_maxRun hpart (by omega) hstart hleft

/-- A run that is not cut is safe all along; it may have begun at `-1` already. -/
lemma middleSafe_of_uncut (hr : r ∈ closedRuns (q.seen m) q.count)
    (hall : ∀ k, r.1 ≤ k → k < r.2 → q.safe m k = true) : q.MiddleSafe m r := by
  have hunsafe := unsafe_stop hr
  have hstart := q.angle_le_middle hr.1.lt hr.2.le
  have hstop := q.middle_le_angle hr.1.lt hr.2.le
  obtain ⟨hrun, hcount⟩ := hr
  have hlt := hrun.lt
  by_cases hprev : r.1 ≠ 0 ∧ q.angle (r.1 - 1) = -1 ∧ q.safe m (r.1 - 1) = true
  · obtain ⟨h0, hangle, hup⟩ := hprev
    have hbefore : r.1 - 1 = 0 ∨ q.safe m (r.1 - 1 - 1) = false := by
      have hdown := hrun.before.resolve_left h0
      rw [seen, BackUpFreeSpace.seen, if_pos hangle, Bool.and_eq_false_iff] at hdown
      exact hdown.imp_left fun h => by simpa using h
    have hrun' : MaxRun (q.safe m) q.count (r.1 - 1) r.2 :=
      { lt := by omega
        le := hcount.le
        all := fun l hl hlr => by
          rcases Nat.eq_or_lt_of_le hl with rfl | hgt
          · exact hup
          · exact hall l (by omega) hlr
        before := hbefore
        after := .inr hunsafe }
    have hearlier := q.angle_lt (show r.1 - 1 < r.1 by omega) (by omega)
    exact middleSafe_of_maxRun hrun' hcount (hearlier.le.trans hstart) hstop
  · have hbefore : r.1 = 0 ∨ q.safe m (r.1 - 1) = false := by
      by_cases h0 : r.1 = 0
      · exact .inl h0
      · refine .inr ?_
        by_contra hup
        have hne : q.angle (r.1 - 1) ≠ -1 :=
          fun hne => hprev ⟨h0, hne, Bool.eq_true_of_not_eq_false hup⟩
        exact hup ((seen_of_ne hne).symm.trans (hrun.before.resolve_left h0))
    exact middleSafe_of_maxRun ⟨hlt, hcount.le, hall, hbefore, .inr hunsafe⟩ hcount hstart hstop

/-- The middle of a closed run is in a maximal run of safe samples, if it is not swallowed. -/
lemma middleSafe_of_not_swallowed (hr : r ∈ closedRuns (q.seen m) q.count)
    (hnot : ¬ q.Swallowed m r) : q.MiddleSafe m r := by
  by_cases hcut : ∃ k, q.angle k = -1 ∧ q.safe m k = false ∧ r.1 < k ∧ k < r.2
  · obtain ⟨k, hk, hdanger, hrk, hkr⟩ := hcut
    refine middleSafe_of_cut hr hk hdanger hrk hkr fun hafter => ?_
    by_contra hbetween
    rw [not_and_or, not_ne_iff, not_le] at hbetween
    exact hnot ⟨k, hk, hdanger, hrk, hkr, hafter, hbetween⟩
  · refine middleSafe_of_uncut hr fun k hle hk => ?_
    by_cases hne : q.angle k = -1
    · have hrk : r.1 ≠ k := fun heq => start_ne hr (heq ▸ hne)
      by_contra hdanger
      exact hcut ⟨k, hne, Bool.eq_false_of_not_eq_true hdanger, by omega, hk⟩
    · exact safe_of_mem_run hr.1 hle hk hne

/-- The middle of a swallowed run is in no maximal run of safe samples. -/
lemma not_middleSafe_of_swallowed (hr : r ∈ closedRuns (q.seen m) q.count)
    (hswallowed : q.Swallowed m r) : ¬ q.MiddleSafe m r := by
  rintro ⟨i, j, hrun, hstart, hstop⟩
  obtain ⟨k, -, hdanger, -, hkr, hafter, hbefore⟩ := hswallowed
  have hcount := hr.2
  have hij := hrun.lt
  have hj := hrun.le
  have hik : i ≤ k := by
    by_contra hlt
    rcases hbefore with hlast | hnext
    · -- the run would begin at the unsafe sample that ends the swallowed one, or later
      have hne : r.2 ≠ i := by
        rintro rfl
        have hup := hrun.all _ le_rfl hij
        rw [unsafe_stop hr] at hup
        exact Bool.false_ne_true hup
      have hlater := q.angle_lt (show r.2 < i by omega) (by omega)
      exact absurd (hstart.trans (q.middle_le_angle hr.1.lt hcount.le)) (not_le.mpr hlater)
    · rcases Nat.eq_or_lt_of_le (show k + 1 ≤ i by omega) with rfl | hlater
      · exact absurd hstart (not_le.mpr hnext)
      · exact absurd hstart (not_le.mpr (hnext.trans (q.angle_lt hlater (by omega))))
  have hkj : k < j := by
    by_cases hend : j < q.count
    · rw [if_pos hend] at hstop
      by_contra hge
      rcases Nat.eq_or_lt_of_le (not_lt.mp hge) with rfl | hearlier
      · exact absurd hstop (not_le.mpr hafter)
      · exact absurd hstop (not_le.mpr ((q.angle_lt hearlier (by omega)).trans hafter))
    · omega
  rw [hrun.all k hik hkj] at hdanger
  exact absurd hdanger.symm Bool.false_ne_true

/-- **When the direction returned is safe.** -/
theorem safeDirection_iff (m : Libm K) (q : Search K) :
    q.SafeDirection m ↔ q.DirectionCondition m := by
  rcases Set.eq_empty_or_nonempty (closedRuns (q.seen m) q.count) with hempty | ⟨r, hr⟩
  · have hbest : q.best m = 0 := by
      rw [best_eq, if_pos]
      refine List.eq_nil_iff_forall_not_mem.mpr fun r hr => ?_
      rw [mem_runs, hempty] at hr
      exact hr
    rw [SafeDirection, DirectionCondition, hempty, hbest]
    exact ⟨fun h => ⟨fun r hr => absurd hr (Set.notMem_empty r), fun _ => h⟩, fun h => h.2 rfl⟩
  · have hmem := climb_mem_closedRuns m q hr
    rw [SafeDirection, best_eq_middle m q hr]
    constructor
    · intro hsafe
      refine ⟨fun r' hr' hpeak hswallowed => ?_,
        fun hempty => (Set.eq_empty_iff_forall_notMem.mp hempty r hr).elim⟩
      have hclimb := (climb_eq_iff (fun _ => mem_runs) runs_sorted q.floatWidth_lt hr').mpr hpeak
      have hup : q.safe m r'.1 = true :=
        (seen_of_ne (start_ne hr')).symm.trans (hr'.1.all _ le_rfl hr'.1.lt)
      have hmiddle := hsafe ⟨r'.1, hr'.1.lt.trans hr'.2, hup⟩
      rw [hclimb] at hmiddle
      exact not_middleSafe_of_swallowed hr' hswallowed hmiddle
    · rintro ⟨hnot, -⟩ -
      exact middleSafe_of_not_swallowed hmem (hnot _ hmem
        ((climb_eq_iff (fun _ => mem_runs) runs_sorted q.floatWidth_lt hmem).mp rfl))

end Search

/-! ## Sweeps over eight directions -/

lemma metre_pos : (0 : ℝ) < 1 := one_pos

/-- Nine cells, of one metre, with the robot in the middle of the one in the middle. -/
def around (data : ℕ → UInt8) : Costmap ℝ := ⟨1, 0, 0, 3, 3, data, metre_pos⟩

/-- The column of the cell one metre away, in directions by eighths of a turn. -/
def column (n : ℕ) : ℕ := [2, 2, 1, 0, 0, 0, 1, 2].getD (n % 8) 0

/-- The row of the cell one metre away. -/
def row (n : ℕ) : ℕ := [1, 2, 2, 2, 1, 0, 0, 0].getD (n % 8) 0

/-- Half a turn on, the opposite direction. -/
lemma opposite_eighth (k : ℕ) :
    Real.cos ((k + 4 : ℕ) * (Real.pi / 4)) = -Real.cos (k * (Real.pi / 4)) ∧
      Real.sin ((k + 4 : ℕ) * (Real.pi / 4)) = -Real.sin (k * (Real.pi / 4)) := by
  have hturn : ((k + 4 : ℕ) : ℝ) * (Real.pi / 4) = k * (Real.pi / 4) + Real.pi := by
    push_cast
    ring
  rw [hturn, Real.cos_add_pi, Real.sin_add_pi]
  exact ⟨rfl, rfl⟩

/-- The cosines and sines of the first four eighths. -/
lemma eighth_values {k : ℕ} (hk : k < 4) :
    (Real.cos (k * (Real.pi / 4)), Real.sin (k * (Real.pi / 4)))
      = [(1, 0), (√2 / 2, √2 / 2), (0, 1), (-(√2 / 2), √2 / 2)].getD k (0, 0) := by
  interval_cases k
  · simp
  · simp
  · have hangle : ((2 : ℕ) : ℝ) * (Real.pi / 4) = Real.pi / 2 := by push_cast; ring
    rw [hangle]
    simp
  · have hangle : ((3 : ℕ) : ℝ) * (Real.pi / 4) = Real.pi - Real.pi / 4 := by push_cast; ring
    rw [hangle]
    simp

/-- Where eighths of a turn lead to, with some room around. -/
lemma eighth_bounds (n : ℕ) :
    ((column n : ℝ) - 13 / 10 ≤ Real.cos (n * (Real.pi / 4)) ∧
      Real.cos (n * (Real.pi / 4)) ≤ column n - 7 / 10) ∧
    ((row n : ℝ) - 13 / 10 ≤ Real.sin (n * (Real.pi / 4)) ∧
      Real.sin (n * (Real.pi / 4)) ≤ row n - 7 / 10) := by
  have hlower : 7 / 5 < √(2 : ℝ) := Real.lt_sqrt_of_sq_lt (by norm_num)
  have hupper : √(2 : ℝ) < 2 := (Real.sqrt_lt' two_pos).mpr (by norm_num)
  have hturn : (n : ℝ) * (Real.pi / 4)
      = ((n % 8 : ℕ) : ℝ) * (Real.pi / 4) + ((n / 8 : ℕ) : ℝ) * (2 * Real.pi) := by
    have hsplit : ((n % 8 + 8 * (n / 8) : ℕ) : ℝ) = n := by rw [Nat.mod_add_div]
    rw [← hsplit]
    push_cast
    ring
  rw [hturn, Real.cos_add_nat_mul_two_pi, Real.sin_add_nat_mul_two_pi, column, row]
  have hlt := Nat.mod_lt n (show 0 < 8 by norm_num)
  generalize n % 8 = k at hlt
  rcases Nat.lt_or_ge k 4 with hk | hk
  · obtain ⟨hcos, hsin⟩ := Prod.mk.inj (eighth_values hk)
    rw [hcos, hsin]
    interval_cases k <;> refine ⟨⟨?_, ?_⟩, ?_, ?_⟩ <;> norm_num <;> linarith
  · obtain ⟨k, rfl⟩ := Nat.exists_eq_add_of_le' hk
    have hk : k < 4 := by omega
    obtain ⟨hcos, hsin⟩ := Prod.mk.inj (eighth_values hk)
    rw [(opposite_eighth k).1, (opposite_eighth k).2, hcos, hsin]
    interval_cases k <;> refine ⟨⟨?_, ?_⟩, ?_, ?_⟩ <;> norm_num <;> linarith

/-- The cost of a cell does not stop a march. -/
def passable (cost : UInt8) : Bool := !(253 ≤ cost)

lemma trunc_of_bounds {x : ℝ} {i : ℕ} (h : (i : ℝ) ≤ x ∧ x < i + 1) : Raster.trunc x = i := by
  rw [Raster.trunc_of_nonneg (i.cast_nonneg.trans h.1), Int.floor_eq_iff]
  exact_mod_cast h

/-! ### Floats on the way -/

/-- Thirty-seconds, as far as they are needed here. -/
lemma isFloat_thirtySecond {n : ℤ} (hn : |n| ≤ 1000) : binary32.IsFloat (n / 32 : ℝ) := by
  refine ⟨n, -5, hn.trans (by decide), by decide, ?_⟩
  norm_num [div_eq_mul_inv]

lemma isFloat_double_thirtySecond {n : ℤ} (hn : |n| ≤ 1000) :
    binary64.IsFloat (n / 32 : ℝ) := by
  refine ⟨n, -5, hn.trans (by decide), by decide, ?_⟩
  norm_num [div_eq_mul_inv]

lemma float32_natCast {n : ℕ} (hn : n ≤ 1000) : float32 (n : ℝ) = n := by
  have hfloat := Format.isFloat_intCast (K := ℝ) (f := binary32) (n := n)
    (by rw [Nat.abs_cast]; exact (by exact_mod_cast hn : (n : ℤ) ≤ 1000).trans (by decide))
    (by decide)
  rw [Int.cast_natCast] at hfloat
  exact hfloat.round_eq

lemma float32_one : float32 (1 : ℝ) = 1 := by
  have hone := float32_natCast (n := 1) (by norm_num)
  rwa [Nat.cast_one] at hone

/-- Rounding does not leave an interval between thirty-seconds. -/
lemma float32_mem {x : ℝ} {a b : ℤ} (ha : |a| ≤ 1000) (hb : |b| ≤ 1000)
    (h : (a / 32 : ℝ) ≤ x ∧ x ≤ b / 32) : (a / 32 : ℝ) ≤ float32 x ∧ float32 x ≤ b / 32 :=
  ⟨(isFloat_thirtySecond ha).le_round h.1, (isFloat_thirtySecond hb).round_le h.2⟩

lemma float64_mem {x : ℝ} {a b : ℤ} (ha : |a| ≤ 1000) (hb : |b| ≤ 1000)
    (h : (a / 32 : ℝ) ≤ x ∧ x ≤ b / 32) : (a / 32 : ℝ) ≤ float64 x ∧ float64 x ≤ b / 32 :=
  ⟨(isFloat_double_thirtySecond ha).le_round h.1, (isFloat_double_thirtySecond hb).round_le h.2⟩

/-- A point on a ray from the middle of the map, one metre away. -/
lemma rayPoint_mem {c : ℝ} {a b : ℤ} (ha : |a| ≤ 500) (hb : |b| ≤ 500)
    (h : (a / 32 : ℝ) ≤ c ∧ c ≤ b / 32) :
    (((a + 48 : ℤ) : ℝ) / 32 : ℝ) ≤ rayPoint (3 / 2) 1 c ∧
      rayPoint (3 / 2) 1 c ≤ ((b + 48 : ℤ) : ℝ) / 32 := by
  rw [abs_le] at ha hb
  have hdirection := float32_mem (abs_le.mpr (by omega)) (abs_le.mpr (by omega)) h
  have hproduct : (a / 32 : ℝ) ≤ float32 (1 * float32 c) ∧ float32 (1 * float32 c) ≤ b / 32 := by
    rw [one_mul]
    exact float32_mem (abs_le.mpr (by omega)) (abs_le.mpr (by omega)) hdirection
  have hsum : (((a + 48 : ℤ) : ℝ) / 32 : ℝ) ≤ 3 / 2 + float32 (1 * float32 c) ∧
      3 / 2 + float32 (1 * float32 c) ≤ ((b + 48 : ℤ) : ℝ) / 32 := by
    push_cast
    constructor <;> linarith [hproduct.1, hproduct.2]
  exact float32_mem (abs_le.mpr (by omega)) (abs_le.mpr (by omega))
    (float64_mem (abs_le.mpr (by omega)) (abs_le.mpr (by omega)) hsum)

/-- The start of a ray is its first point. -/
lemma rayPoint_start (c : ℝ) : rayPoint (3 / 2) 0 c = 3 / 2 := by
  have hhalf : (3 / 2 : ℝ) = ((48 : ℤ) : ℝ) / 32 := by norm_num
  have hdouble : float64 (((48 : ℤ) : ℝ) / 32) = ((48 : ℤ) : ℝ) / 32 :=
    (isFloat_double_thirtySecond (by decide)).round_eq
  have hfloat : float32 (((48 : ℤ) : ℝ) / 32) = ((48 : ℤ) : ℝ) / 32 :=
    (isFloat_thirtySecond (by decide)).round_eq
  rw [rayPoint, zero_mul, float32_zero, add_zero, hhalf, hdouble, hfloat]

/-- The cell of a point with some room around. -/
lemma trunc_cell {x : ℝ} {i : ℕ} (hi : i < 3)
    (hx : (((32 * i + 4 : ℤ) : ℝ) / 32 : ℝ) ≤ x ∧ x ≤ ((32 * i + 28 : ℤ) : ℝ) / 32) :
    Raster.trunc (float32 (float32 (x - float32 0) / float32 1)) = i := by
  have ha : |(32 * i + 4 : ℤ)| ≤ 1000 := abs_le.mpr (by omega)
  have hb : |(32 * i + 28 : ℤ)| ≤ 1000 := abs_le.mpr (by omega)
  have hround := float32_mem ha hb (float32_mem ha hb hx)
  rw [float32_one, div_one, float32_zero, sub_zero]
  refine trunc_of_bounds ?_
  push_cast at hround
  constructor <;> linarith [hround.1, hround.2]

lemma pointFree_around (data : ℕ → UInt8) {x y : ℝ} {i j : ℕ} (hi : i < 3) (hj : j < 3)
    (hx : (((32 * i + 4 : ℤ) : ℝ) / 32 : ℝ) ≤ x ∧ x ≤ ((32 * i + 28 : ℤ) : ℝ) / 32)
    (hy : (((32 * j + 4 : ℤ) : ℝ) / 32 : ℝ) ≤ y ∧ y ≤ ((32 * j + 28 : ℤ) : ℝ) / 32) :
    pointFree (around data) x y = passable (data (i + j * 3)) := by
  have hi' : (i : ℝ) + 1 ≤ 3 := by exact_mod_cast hi
  have hj' : (j : ℝ) + 1 ≤ 3 := by exact_mod_cast hj
  have hzero : float32 (0 : ℝ) = 0 := float32_zero
  have hmax : float32 (float32 (0 : ℝ) + float32 (float32 ((3 : ℕ) : ℝ) * float32 1)) = 3 := by
    have hthree := float32_natCast (n := 3) (by norm_num)
    rw [hzero, float32_one, hthree, mul_one, hthree, zero_add, hthree]
    norm_num
  have hinside : float32 0 ≤ x ∧ x ≤ 3 ∧ float32 0 ≤ y ∧ y ≤ 3 := by
    have hi0 : (0 : ℝ) ≤ i := i.cast_nonneg
    have hj0 : (0 : ℝ) ≤ j := j.cast_nonneg
    rw [hzero]
    push_cast at hx hy
    refine ⟨?_, ?_, ?_, ?_⟩ <;> linarith [hx.1, hx.2, hy.1, hy.2]
  have hcell : (0 : ℤ) ≤ i ∧ (i : ℤ) < (3 : ℕ) ∧ (0 : ℤ) ≤ j ∧ (j : ℤ) < (3 : ℕ) := by omega
  have hindex : ((i : ℤ) + j * (3 : ℕ)).toNat = i + j * 3 := by omega
  simp only [pointFree, around, trunc_cell hi hx, trunc_cell hj hy, hmax]
  rw [if_pos hinside, if_pos hcell, hindex, passable]

lemma column_lt (n : ℕ) : column n < 3 := by
  have hlt := Nat.mod_lt n (show 0 < 8 by norm_num)
  rw [column]
  generalize n % 8 = k at hlt
  interval_cases k <;> decide

lemma row_lt (n : ℕ) : row n < 3 := by
  have hlt := Nat.mod_lt n (show 0 < 8 by norm_num)
  rw [row]
  generalize n % 8 = k at hlt
  interval_cases k <;> decide

/-- A ray of one metre has two points. -/
lemma floatSweep_metre : floatSweep (0 : ℝ) 1 1 = [0, 1] := by
  have hone : advance (1 : ℝ) 0 = 1 := by rw [advance, zero_add, float32_one]
  have htwo : advance (1 : ℝ) 1 = 2 := by
    have hround := float32_natCast (n := 2) (by norm_num)
    rw [Nat.cast_ofNat] at hround
    rw [advance, one_add_one_eq_two, hround]
  have hpasses : 2 < (⌊((1 : ℝ) - 0) / binary32.least⌋ + 1).toNat + 1 := by
    have hfloor : 1 ≤ ⌊((1 : ℝ) - 0) / binary32.least⌋ := by
      rw [Int.le_floor, Format.least]
      norm_num [binary32]
    omega
  have hle : ∀ k < 2, (advance (1 : ℝ))^[k] 0 ≤ 1 := by
    intro k hk
    interval_cases k <;> norm_num [hone]
  have hlt : 1 < (advance (1 : ℝ))^[2] 0 := by norm_num [hone, htwo]
  rw [floatSweep, sweep_eq_map, sweep_length_eq hle hlt hpasses]
  simp [List.range_succ, hone]

/-- Nearly so many eighths of a turn, as a `float`. -/
noncomputable def nearEighths (n : ℤ) : ℝ := ((25 * n : ℤ) : ℝ) / 32

lemma float32_nearEighths {n : ℤ} (hn : |n| ≤ 40) : float32 (nearEighths n) = nearEighths n :=
  (isFloat_thirtySecond (abs_le.mpr (by rw [abs_le] at hn; omega))).round_eq

lemma nearEighths_add (a b : ℤ) : nearEighths a + nearEighths b = nearEighths (a + b) := by
  rw [nearEighths, nearEighths, nearEighths]
  push_cast
  ring

lemma nearEighths_lt_iff {a b : ℤ} : nearEighths a < nearEighths b ↔ a < b := by
  rw [nearEighths, nearEighths, div_lt_div_iff_of_pos_right (by norm_num), Int.cast_lt]
  omega

/-- They are at most a twentieth away from the eighths. -/
lemma abs_nearEighths_sub_le {n : ℤ} (hn : |n| ≤ 8) :
    |nearEighths n - n * (Real.pi / 4)| ≤ 1 / 20 := by
  have hlower := Real.pi_gt_d2
  have hupper := Real.pi_lt_d2
  have hcast : |(n : ℝ)| ≤ 8 := by exact_mod_cast hn
  have hsplit : nearEighths n - n * (Real.pi / 4) = n * (25 / 32 - Real.pi / 4) := by
    rw [nearEighths]
    push_cast
    ring
  have hunit : |25 / 32 - Real.pi / 4| ≤ 1 / 160 := by
    rw [abs_le]
    constructor <;> linarith
  calc |nearEighths n - n * (Real.pi / 4)| = |(n : ℝ)| * |25 / 32 - Real.pi / 4| := by
        rw [hsplit, abs_mul]
    _ ≤ 8 * (1 / 160) := mul_le_mul hcast hunit (abs_nonneg _) (by norm_num)
    _ = 1 / 20 := by norm_num

/-- Where nearly so many eighths lead to. -/
lemma nearEighths_bounds {n : ℕ} (hn : n ≤ 16) :
    ((((32 * column n - 44 : ℤ) : ℝ) / 32 : ℝ) ≤ Real.cos (nearEighths (n - 8)) ∧
      Real.cos (nearEighths (n - 8)) ≤ ((32 * column n - 20 : ℤ) : ℝ) / 32) ∧
    ((((32 * row n - 44 : ℤ) : ℝ) / 32 : ℝ) ≤ Real.sin (nearEighths (n - 8)) ∧
      Real.sin (nearEighths (n - 8)) ≤ ((32 * row n - 20 : ℤ) : ℝ) / 32) := by
  have hnear := abs_nearEighths_sub_le (n := (n : ℤ) - 8) (abs_le.mpr (by omega))
  have hturn : (((n : ℤ) - 8 : ℤ) : ℝ) * (Real.pi / 4) = n * (Real.pi / 4) - 2 * Real.pi := by
    push_cast
    ring
  have hcos := (Real.abs_cos_sub_cos_le _ _).trans hnear
  have hsin := (Real.abs_sin_sub_sin_le _ _).trans hnear
  rw [hturn, Real.cos_sub_two_pi] at hcos
  rw [hturn, Real.sin_sub_two_pi] at hsin
  obtain ⟨⟨hc, hc'⟩, hs, hs'⟩ := eighth_bounds n
  rw [abs_le] at hcos hsin
  push_cast
  refine ⟨⟨?_, ?_⟩, ?_, ?_⟩ <;> linarith [hcos.1, hcos.2, hsin.1, hsin.2]

/-- A march of one metre asks the cell in the middle, and one around it. -/
lemma isSafe_around (data : ℕ → UInt8) {n : ℕ} (hn : n ≤ 16) :
    isSafe realLibm (around data) ⟨3 / 2, 3 / 2, 0⟩ (float32 1) (nearEighths (n - 8))
      = (passable (data 4) && passable (data (column n + row n * 3))) := by
  obtain ⟨hcolumn, hrow⟩ := nearEighths_bounds hn
  have hc := column_lt n
  have hr := row_lt n
  have hstart : (((32 * (1 : ℕ) + 4 : ℤ) : ℝ) / 32 : ℝ) ≤ 3 / 2 ∧
      (3 / 2 : ℝ) ≤ ((32 * (1 : ℕ) + 28 : ℤ) : ℝ) / 32 := by norm_num
  have hmiddle := pointFree_around data (by norm_num) (by norm_num) hstart hstart
  have hx := rayPoint_mem (abs_le.mpr (by omega)) (abs_le.mpr (by omega)) hcolumn
  have hy := rayPoint_mem (abs_le.mpr (by omega)) (abs_le.mpr (by omega)) hrow
  rw [show (32 * column n - 44 + 48 : ℤ) = 32 * column n + 4 by ring,
    show (32 * column n - 20 + 48 : ℤ) = 32 * column n + 28 by ring] at hx
  rw [show (32 * row n - 44 + 48 : ℤ) = 32 * row n + 4 by ring,
    show (32 * row n - 20 + 48 : ℤ) = 32 * row n + 28 by ring] at hy
  have hedge := pointFree_around data hc hr hx hy
  rw [isSafe, show (around data).resolution = 1 from rfl, float32_one, floatSweep_metre]
  simp only [List.all_cons, List.all_nil, Bool.and_true, realLibm, rayPoint_start, hmiddle, hedge]

/-- Nearly eighths come out of the loop as they are. -/
lemma angleAt_nearEighths {s : ℤ} (hs : |s| ≤ 8) {k : ℕ} (hk : k ≤ 9) :
    angleAt (nearEighths s) (nearEighths 1) k = nearEighths (s + k) := by
  rw [abs_le] at hs
  induction k with
  | zero =>
      rw [Nat.cast_zero, add_zero]
      exact float32_nearEighths (abs_le.mpr (by omega))
  | succ k ih =>
      rw [angleAt_succ, ih (by omega), float32_nearEighths (by decide), nearEighths_add,
        float32_nearEighths (abs_le.mpr (by omega))]
      congr 1
      push_cast
      ring

/-- The loop over eight of them moves on. -/
lemma moves_on_nearEighths (first : Fin 9) (k : ℕ)
    (hk : angleAt (nearEighths (first - 8)) (nearEighths 1) k ≤ float32 (nearEighths (first - 1))) :
    angleAt (nearEighths (first - 8)) (nearEighths 1) k
      < angleAt (nearEighths (first - 8)) (nearEighths 1) (k + 1) := by
  have hfirst := first.isLt
  have hs : |((first : ℕ) : ℤ) - 8| ≤ 8 := abs_le.mpr (by omega)
  rw [float32_nearEighths (abs_le.mpr (by omega))] at hk
  rcases Nat.lt_or_ge k 8 with hlt | hge
  · rw [angleAt_nearEighths hs (by omega), angleAt_nearEighths hs (by omega), nearEighths_lt_iff]
    omega
  · -- the eighth value is beyond the last angle already
    have hstep : (0 : ℝ) ≤ float32 (nearEighths 1) := by
      rw [float32_nearEighths (by decide), nearEighths]
      norm_num
    have hbeyond := (monotone_angleAt hstep hge).trans hk
    rw [angleAt_nearEighths hs (by omega), ← not_lt, nearEighths_lt_iff] at hbeyond
    omega

/-- A sweep over eight directions, one turn before so many eighths, about a robot in the middle. -/
noncomputable def eightDirections (data : ℕ → UInt8) (first : Fin 9) : Search ℝ where
  costmap := around data
  pose := ⟨1.5, 1.5, 0⟩
  startAngle := nearEighths (first - 8)
  endAngle := nearEighths (first - 1)
  radius := 1
  angleIncrement := nearEighths 1
  moves_on := moves_on_nearEighths first

lemma angle_eightDirections (data : ℕ → UInt8) (first : Fin 9) {k : ℕ} (hk : k ≤ 9) :
    (eightDirections data first).angle k = nearEighths ((first + k : ℕ) - 8) := by
  have hfirst := first.isLt
  have hangle := angleAt_nearEighths (s := (first : ℕ) - 8) (abs_le.mpr (by omega)) hk
  rw [Search.angle]
  refine hangle.trans (congrArg nearEighths ?_)
  push_cast
  ring

lemma count_eightDirections (data : ℕ → UInt8) (first : Fin 9) :
    (eightDirections data first).count = 8 := by
  have hfirst := first.isLt
  have hend : float32 (eightDirections data first).endAngle = nearEighths (first - 1) :=
    float32_nearEighths (abs_le.mpr (by omega))
  have hbeyond := (eightDirections data first).endAngle_lt_angle_count
  rcases Nat.lt_trichotomy (eightDirections data first).count 8 with hless | heq | hmore
  · rw [hend, angle_eightDirections data first (by omega), nearEighths_lt_iff] at hbeyond
    omega
  · exact heq
  · have hle := (eightDirections data first).angle_le_endAngle hmore
    rw [hend, angle_eightDirections data first (by omega), ← not_lt, nearEighths_lt_iff] at hle
    omega

/-- Which of the eight directions are safe, by the costs of the cells. -/
def eighthSafe (data : ℕ → UInt8) (first k : ℕ) : Bool :=
  passable (data 4) && passable (data (column (first + k) + row (first + k) * 3))

/-- Which of the eight directions are safe. -/
lemma safe_eightDirections (data : ℕ → UInt8) (first : Fin 9) {k : ℕ} (hk : k < 8) :
    (eightDirections data first).safe realLibm k = eighthSafe data first k := by
  have hfirst := first.isLt
  have hmiddle : (1.5 : ℝ) = 3 / 2 := by norm_num
  rw [Search.safe, angle_eightDirections data first (by omega)]
  simp only [eightDirections, hmiddle]
  exact isSafe_around data (by omega)

lemma closedRuns_eightDirections (data : ℕ → UInt8) (first : Fin 9) (rs : List (ℕ × ℕ))
    (h : runs (eighthSafe data first) 8 = rs) :
    closedRuns ((eightDirections data first).safe realLibm) (eightDirections data first).count
      = {r | r ∈ rs} := by
  have hflags : runs ((eightDirections data first).safe realLibm) 8 = rs :=
    (runsFrom_congr fun k _ hk => safe_eightDirections data first (by omega)).trans h
  ext r
  rw [count_eightDirections, ← mem_runs, hflags]
  rfl

/-- All widths are told exactly. -/
lemma width_eightDirections (data : ℕ → UInt8) (first : Fin 9) {r : ℕ × ℕ} (hr : r.2 ≤ 8)
    (h : r.1 ≤ 8) :
    (eightDirections data first).width r = nearEighths (r.2 - r.1) ∧
      (eightDirections data first).floatWidth r = nearEighths (r.2 - r.1) := by
  have hwidth : (eightDirections data first).width r = nearEighths (r.2 - r.1) := by
    rw [Search.width, angle_eightDirections data first (by omega),
      angle_eightDirections data first (by omega), nearEighths, nearEighths, nearEighths]
    push_cast
    ring
  refine ⟨hwidth, ?_⟩
  rw [Search.floatWidth, hwidth]
  exact float32_nearEighths (abs_le.mpr (by omega))

/-- A sweep from the east on does not meet the angle `-1`. -/
lemma angle_ne_sentinel (data : ℕ → UInt8) {k : ℕ} (hk : k < (eightDirections data 8).count) :
    (eightDirections data 8).angle k ≠ -1 := by
  rw [count_eightDirections] at hk
  have hpos : (0 : ℝ) ≤ nearEighths ((((8 : Fin 9) : ℕ) + k : ℕ) - 8) := by
    rw [nearEighths]
    have : (0 : ℤ) ≤ 25 * ((((8 : Fin 9) : ℕ) + k : ℕ) - 8) := by
      have h8 : ((8 : Fin 9) : ℕ) = 8 := rfl
      omega
    exact div_nonneg (by exact_mod_cast this) (by norm_num)
  rw [angle_eightDirections data 8 (by omega)]
  exact fun h => by linarith

/-! ### A sector that becomes wider -/

/-- Free cells to the east, and to the north and north-west. -/
def twoSectors : ℕ → UInt8 := fun i => if i ∈ [4, 5, 7, 6] then 0 else 254

/-- The wider of two sectors is found if it comes second. -/
theorem widestSector_twoSectors : (eightDirections twoSectors 8).WidestSector realLibm := by
  refine (Search.widestSector_iff realLibm _ fun k hk => angle_ne_sentinel twoSectors hk).mpr ?_
  intro r _ p hp p' hp' hlt _
  rw [closedRuns_eightDirections twoSectors 8 [(0, 1), (2, 4)] (by decide)] at hp hp'
  simp only [Set.mem_ofPred_eq, List.mem_cons, List.not_mem_nil, or_false] at hp hp'
  rcases hp with rfl | rfl
  · rcases hp' with rfl | rfl
    · exact absurd hlt (lt_irrefl _)
    · rw [(width_eightDirections twoSectors 8 (by decide) (by decide)).2,
        (width_eightDirections twoSectors 8 (by decide) (by decide)).2, nearEighths_lt_iff]
      decide
  · rcases hp' with rfl | rfl
    · exact absurd hlt (by decide)
    · exact absurd hlt (lt_irrefl _)

/-- Free cells to the east, to the north, and to the west and south-west. -/
def threeSectors : ℕ → UInt8 := fun i => if i ∈ [4, 5, 7, 3, 0] then 0 else 254

/-- The runs east, north, and west with south-west. -/
lemma closedRuns_threeSectors :
    closedRuns ((eightDirections threeSectors 8).safe realLibm)
        (eightDirections threeSectors 8).count
      = {r | r ∈ [(0, 1), (2, 3), (4, 6)]} :=
  closedRuns_eightDirections threeSectors 8 [(0, 1), (2, 3), (4, 6)] (by decide)

lemma closedRuns_seen_threeSectors :
    closedRuns ((eightDirections threeSectors 8).seen realLibm)
        (eightDirections threeSectors 8).count
      = {r | r ∈ [(0, 1), (2, 3), (4, 6)]} :=
  (Search.closedRuns_seen fun _ hk => angle_ne_sentinel threeSectors hk).trans
    closedRuns_threeSectors

lemma firstWidest_threeSectors :
    FirstWidest (eightDirections threeSectors 8).width {r | r ∈ [(0, 1), (2, 3), (4, 6)]}
      (4, 6) := by
  have hlt : ∀ q ∈ [(0, 1), (2, 3), (4, 6)], q.1 < 4 →
      (eightDirections threeSectors 8).width q < (eightDirections threeSectors 8).width (4, 6) := by
    intro q hq hq4
    simp only [List.mem_cons, List.not_mem_nil, or_false] at hq
    rw [(width_eightDirections threeSectors 8 (show (4, 6).2 ≤ 8 by decide) (by decide)).1]
    rcases hq with rfl | rfl | rfl
    · rw [(width_eightDirections threeSectors 8 (by decide) (by decide)).1, nearEighths_lt_iff]
      decide
    · rw [(width_eightDirections threeSectors 8 (by decide) (by decide)).1, nearEighths_lt_iff]
      decide
    · exact absurd hq4 (lt_irrefl _)
  refine ⟨by simp, fun q hq => ?_, hlt⟩
  by_cases hq4 : q.1 < 4
  · exact (hlt q hq hq4).le
  · simp only [Set.mem_ofPred_eq, List.mem_cons, List.not_mem_nil, or_false] at hq
    rcases hq with rfl | rfl | rfl
    · exact absurd (by decide) hq4
    · exact absurd (by decide) hq4
    · exact le_rfl

/-- **A wider sector is missed.**  The sector to the north is not wider than that to the east, so
that to the west and south-west is not recorded. -/
theorem wider_later :
    ¬ ∀ q : Search ℝ, (∀ k < q.count, q.angle k ≠ -1) → q.WidestSector realLibm := by
  intro hwidest
  have hmiddle := hwidest (eightDirections threeSectors 8)
    (fun k hk => angle_ne_sentinel threeSectors hk) (4, 6)
    (by rw [closedRuns_threeSectors]; exact firstWidest_threeSectors)
  have hmem : (4, 6) ∈ closedRuns ((eightDirections threeSectors 8).seen realLibm)
      (eightDirections threeSectors 8).count := by
    rw [closedRuns_seen_threeSectors]
    exact firstWidest_threeSectors.mem
  have hclimb := Search.middle_injOn _ (Search.climb_mem_closedRuns realLibm _ hmem) hmem
    ((Search.best_eq_middle realLibm _ hmem).symm.trans hmiddle)
  rw [climb_eq_iff (fun _ => mem_runs) runs_sorted (Search.floatWidth_lt _) hmem,
    closedRuns_seen_threeSectors] at hclimb
  have hgrow := hclimb.grow (0, 1) (by simp) (2, 3) (by simp) (by decide) (by decide)
  rw [(width_eightDirections threeSectors 8 (by decide) (by decide)).2,
    (width_eightDirections threeSectors 8 (by decide) (by decide)).2, nearEighths_lt_iff] at hgrow
  exact absurd hgrow (by decide)

/-! ### A sector at the end -/

/-- A direction in a safe sector is found. -/
theorem safeDirection_threeSectors : (eightDirections threeSectors 8).SafeDirection realLibm := by
  refine (Search.safeDirection_iff realLibm _).mpr ⟨fun r hr _ => ?_, fun hempty => ?_⟩
  · rintro ⟨k, hk, -, -, hkr, -⟩
    exact angle_ne_sentinel threeSectors (hkr.trans hr.2) hk
  · rw [closedRuns_seen_threeSectors] at hempty
    have hmem : (4, 6) ∈ {r | r ∈ [(0, 1), (2, 3), (4, 6)]} := firstWidest_threeSectors.mem
    rw [hempty] at hmem
    exact absurd hmem (Set.notMem_empty _)

/-- A free cell to the west only. -/
def onlyWest : ℕ → UInt8 := fun i => if i ∈ [4, 3] then 0 else 254

/-- West is the last of eight directions from the south-west on. -/
lemma eq_seven_of_safe {k : ℕ} (hk : k < 8)
    (hsafe : (eightDirections onlyWest 5).safe realLibm k = true) : k = 7 := by
  have hflag : eighthSafe onlyWest 5 k = true :=
    (safe_eightDirections onlyWest 5 hk).symm.trans hsafe
  have hall : ∀ k < 8, eighthSafe onlyWest 5 k = true → k = 7 := by decide
  exact hall k hk hflag

/-- **An unsafe direction is returned.**  West, the last direction, is the only safe one; the angle
returned is zero, which is east. -/
theorem only_west_safe : ¬ ∀ q : Search ℝ, q.SafeDirection realLibm := by
  intro hsafe
  have hcount := count_eightDirections onlyWest 5
  have hnone : runs ((eightDirections onlyWest 5).seen realLibm)
      (eightDirections onlyWest 5).count = [] := by
    refine List.eq_nil_iff_forall_not_mem.mpr fun r hr => ?_
    have hmem := mem_runs.mp hr
    have hstart := hmem.1.lt
    have hlt := hmem.2
    rw [hcount] at hlt
    have hup := (Search.seen_of_ne (Search.start_ne hmem)).symm.trans
      (hmem.1.all _ le_rfl hstart)
    have hseven := eq_seven_of_safe (by omega) hup
    omega
  have hwest : (eightDirections onlyWest 5).safe realLibm 7 = true :=
    (safe_eightDirections onlyWest 5 (by decide)).trans (by decide)
  obtain ⟨i, j, hrun, hzero, -⟩ :=
    hsafe (eightDirections onlyWest 5) ⟨7, by rw [hcount]; decide, hwest⟩
  have hlt := hrun.lt
  have hle := hrun.le
  rw [hcount] at hle
  obtain rfl := eq_seven_of_safe (by omega) (hrun.all i le_rfl hlt)
  rw [Search.best_eq, if_pos hnone, angle_eightDirections onlyWest 5 (by decide), nearEighths]
    at hzero
  norm_num at hzero

end SentryNav.Nav2Plugins.BackUpFreeSpace
