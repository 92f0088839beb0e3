import Mathlib.Data.ENat.Lattice
import Mathlib.Data.Finset.Lattice.Fold
import Mathlib.Logic.Function.Iterate

/-!
# Distance transforms in place

Cells have a level, zero on the cells that hold something and one on the others.  A sweep goes over
the cells and raises each, if it is not zero and none of its neighbours is lower.  It writes to the
levels that it reads, so a cell is compared with some neighbours that have been raised already in
this sweep, and with some that have not.

This does not matter: after any number of sweeps a cell has its distance to the nearest cell that
holds something, cut off at the number of sweeps and one (`sweep_iterate`).  What is needed of the
distance is `IsDistance`; the least distance to one of some cells has it (`isDistance_inf`).
-/

namespace DistanceTransform

variable {ι : Type*}

/-- The distance of the cells to those that it is zero on, in steps to neighbours. -/
structure IsDistance (near : ι → List ι) (dist : ι → ℕ∞) : Prop where
  step : ∀ c, ∀ c' ∈ near c, dist c ≤ dist c' + 1
  closer : ∀ c, dist c ≠ 0 → dist c ≠ ⊤ → ∃ c' ∈ near c, dist c' < dist c

/-- The least distance to one of some cells. -/
noncomputable def infDist (d : ι → ι → ℕ) (goals : Finset ι) (c : ι) : ℕ∞ :=
  goals.inf fun c' => (d c c' : ℕ∞)

lemma infDist_eq_zero {d : ι → ι → ℕ} {goals : Finset ι} {c : ι} (hc : c ∈ goals)
    (hself : d c c = 0) : infDist d goals c = 0 := by
  have hle : infDist d goals c ≤ (d c c : ℕ∞) := Finset.inf_le hc
  rw [hself, Nat.cast_zero] at hle
  exact nonpos_iff_eq_zero.mp hle

lemma one_le_infDist {d : ι → ι → ℕ} {goals : Finset ι} {c : ι} (h : ∀ c' ∈ goals, d c c' ≠ 0) :
    1 ≤ infDist d goals c := by
  refine Finset.le_inf fun c' hc' => ?_
  exact_mod_cast Nat.one_le_iff_ne_zero.mpr (h c' hc')

/-- **The least distance is a distance**, if that between two cells is. -/
theorem isDistance_inf {near : ι → List ι} {d : ι → ι → ℕ} (goals : Finset ι)
    (hstep : ∀ c, ∀ c' ∈ near c, ∀ goal, d c goal ≤ d c' goal + 1)
    (hcloser : ∀ c goal, d c goal ≠ 0 → ∃ c' ∈ near c, d c' goal < d c goal) :
    IsDistance near (infDist d goals) where
  step c c' hc' := by
    rcases goals.eq_empty_or_nonempty with rfl | hgoals
    · simp [infDist]
    · obtain ⟨goal, hgoal, heq⟩ := goals.exists_mem_eq_inf hgoals fun c'' => (d c' c'' : ℕ∞)
      calc infDist d goals c ≤ (d c goal : ℕ∞) := Finset.inf_le hgoal
        _ ≤ (d c' goal : ℕ∞) + 1 := by exact_mod_cast hstep c c' hc' goal
        _ = infDist d goals c' + 1 := by rw [infDist, heq]
  closer c hpos hfinite := by
    rcases goals.eq_empty_or_nonempty with rfl | hgoals
    · exact absurd Finset.inf_empty hfinite
    · obtain ⟨goal, hgoal, heq⟩ := goals.exists_mem_eq_inf hgoals fun c'' => (d c c'' : ℕ∞)
      have hgoalPos : d c goal ≠ 0 := by
        intro hzero
        rw [infDist, heq, hzero] at hpos
        exact hpos rfl
      obtain ⟨c', hc', hlt⟩ := hcloser c goal hgoalPos
      refine ⟨c', hc', ?_⟩
      calc infDist d goals c' ≤ (d c' goal : ℕ∞) := Finset.inf_le hgoal
        _ < (d c goal : ℕ∞) := Nat.cast_lt.mpr hlt
        _ = infDist d goals c := heq.symm

/-! ## Sweeps -/

variable [DecidableEq ι]

/-- Raise a cell that is not zero, if no neighbour is lower. -/
def raise (near : ι → List ι) (level : ι → ℕ) (c : ι) : ι → ℕ :=
  if 1 ≤ level c ∧ ∀ c' ∈ near c, ¬ level c' < level c then
    Function.update level c (level c + 1)
  else level

/-- A sweep over some cells. -/
def sweep (near : ι → List ι) (cells : List ι) (level : ι → ℕ) : ι → ℕ :=
  cells.foldl (raise near) level

variable {near : ι → List ι} {dist : ι → ℕ∞} {level : ι → ℕ} {k : ℕ}

/-- The levels in a sweep: each is the distance, cut off at a number or at the next. -/
def Between (dist : ι → ℕ∞) (k : ℕ) (level : ι → ℕ) : Prop :=
  ∀ c, min (k : ℕ∞) (dist c) ≤ level c ∧ (level c : ℕ∞) ≤ min ((k + 1 : ℕ) : ℕ∞) (dist c)

lemma raise_of_ne {c c' : ι} (h : c' ≠ c) : raise near level c c' = level c' := by
  rw [raise]
  split
  · exact Function.update_of_ne h _ _
  · rfl

/-- **A cell that is met in a sweep**: if its level was cut off at a number, it is at the next,
whichever neighbours have been met before. -/
lemma raise_self (hdist : IsDistance near dist) (hk : 1 ≤ k) (hbetween : Between dist k level)
    {c : ι} (hc : (level c : ℕ∞) = min (k : ℕ∞) (dist c)) :
    (raise near level c c : ℕ∞) = min ((k + 1 : ℕ) : ℕ∞) (dist c) := by
  rw [raise]
  rcases le_or_gt (dist c) k with hnear | hfar
  · -- the level is the distance, and nothing or a neighbour keeps it there
    rw [min_eq_right hnear] at hc
    have hkept : ¬ (1 ≤ level c ∧ ∀ c' ∈ near c, ¬ level c' < level c) := by
      rintro ⟨hpos, hlowest⟩
      have hzero : dist c ≠ 0 := by
        rw [← hc]
        exact Nat.cast_ne_zero.mpr (Nat.one_le_iff_ne_zero.mp hpos)
      have hfinite : dist c ≠ ⊤ := hc ▸ ENat.natCast_ne_top _
      obtain ⟨c', hc', hlt⟩ := hdist.closer c hzero hfinite
      refine hlowest c' hc' (Nat.cast_lt (α := ℕ∞) |>.mp ?_)
      calc (level c' : ℕ∞) ≤ dist c' := (hbetween c').2.trans (min_le_right _ _)
        _ < dist c := hlt
        _ = level c := hc.symm
    have hle : dist c ≤ (k + 1 : ℕ) := hnear.trans (Nat.cast_le.mpr k.le_succ)
    rw [if_neg hkept, min_eq_right hle, hc]
  · -- all neighbours are far away as well, and none is lower
    rw [min_eq_left hfar.le, Nat.cast_inj] at hc
    have hraised : 1 ≤ level c ∧ ∀ c' ∈ near c, ¬ level c' < level c := by
      refine ⟨hc ▸ hk, fun c' hc' hlt => ?_⟩
      have hfar' : (k : ℕ∞) ≤ dist c' :=
        (ENat.natCast_lt_add_one_iff).mp (hfar.trans_le (hdist.step c c' hc'))
      have hlow := (hbetween c').1
      rw [min_eq_left hfar', Nat.cast_le, ← hc] at hlow
      exact hlt.not_ge hlow
    have hle : ((k + 1 : ℕ) : ℕ∞) ≤ dist c := by
      rw [Nat.cast_add_one]
      exact Order.add_one_le_of_lt hfar
    rw [if_pos hraised, Function.update_self, hc, min_eq_left hle]

/-- **A sweep** takes the cells that it goes over from one cut to the next, and leaves the
others. -/
lemma sweep_spec (hdist : IsDistance near dist) (hk : 1 ≤ k) {cells : List ι}
    (hcells : cells.Nodup) (hbetween : Between dist k level)
    (hlevel : ∀ c ∈ cells, (level c : ℕ∞) = min (k : ℕ∞) (dist c)) :
    (∀ c ∈ cells, (sweep near cells level c : ℕ∞) = min ((k + 1 : ℕ) : ℕ∞) (dist c)) ∧
      ∀ c ∉ cells, sweep near cells level c = level c := by
  induction cells generalizing level with
  | nil => exact ⟨nofun, fun _ _ => rfl⟩
  | cons c cells ih =>
      obtain ⟨hnot, hnodup⟩ := List.nodup_cons.mp hcells
      have hself := raise_self hdist hk hbetween (hlevel c List.mem_cons_self)
      have hbetween' : Between dist k (raise near level c) := by
        intro c'
        by_cases hc' : c' = c
        · subst hc'
          rw [hself]
          exact ⟨min_le_min_right _ (Nat.cast_le.mpr k.le_succ), le_rfl⟩
        · rw [raise_of_ne hc']
          exact hbetween c'
      have hlevel' : ∀ c' ∈ cells, (raise near level c c' : ℕ∞) = min (k : ℕ∞) (dist c') := by
        intro c' hc'
        rw [raise_of_ne (ne_of_mem_of_not_mem hc' hnot)]
        exact hlevel c' (List.mem_cons_of_mem c hc')
      obtain ⟨hmet, hkept⟩ := ih hnodup hbetween' hlevel'
      rw [sweep, List.foldl_cons, ← sweep]
      constructor
      · intro c' hc'
        rcases List.mem_cons.mp hc' with rfl | hc'
        · rw [hkept c' hnot, hself]
        · exact hmet c' hc'
      · intro c' hc'
        rw [List.mem_cons, not_or] at hc'
        rw [hkept c' hc'.2, raise_of_ne hc'.1]

/-- **The distance transform**: after some sweeps over all cells each level is the distance, cut off
at their number and one. -/
theorem sweep_iterate (hdist : IsDistance near dist) {cells : List ι} (hcells : cells.Nodup)
    (hall : ∀ c, c ∈ cells) (hlevel : ∀ c, (level c : ℕ∞) = min 1 (dist c)) (n : ℕ) (c : ι) :
    (((sweep near cells)^[n] level) c : ℕ∞) = min ((n + 1 : ℕ) : ℕ∞) (dist c) := by
  induction n generalizing c with
  | zero => simpa using hlevel c
  | succ n ih =>
      have hbetween : Between dist (n + 1) ((sweep near cells)^[n] level) := by
        intro c'
        rw [ih]
        exact ⟨le_rfl, min_le_min_right _ (Nat.cast_le.mpr (Nat.le_succ _))⟩
      rw [Function.iterate_succ_apply']
      exact (sweep_spec hdist (Nat.succ_pos n) hcells hbetween fun c' _ => ih c').1 c (hall c)

end DistanceTransform
