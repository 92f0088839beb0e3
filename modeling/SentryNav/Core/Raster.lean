import SentryNav.Core.Loop
import Mathlib.Algebra.Order.Floor.Ring
import Mathlib.Data.Rat.Cast.OfScientific
import Mathlib.Tactic.Linarith
import Mathlib.Tactic.NormNum
import Mathlib.Tactic.Positivity
import Mathlib.Tactic.Ring

/-!
# Rasters

Cells of one size in a row, and windows that slide over them.

* **Which cell a coordinate falls in.**  Programs often take the nearest cell by adding half a cell
  and truncating, with a correction for negative numbers, since truncation goes towards zero.  `bin`
  is this computation; the coordinate is within half a cell of the cell's centre
  (`abs_sub_bin_le`).
* **Approaching.**  A loop that goes one cell nearer to something per pass, as long as it is more
  than a cell away, stops as soon as it is not (`while_approach`).  `approach` counts the passes, in
  either direction (`approach_eq`).
* **Numbers.**  A square window whose places are numbered row by row: a number determines the column
  and the row (`Inside.ediv_emod`, `inside_ediv_emod`).
* **Windows.**  `slide` is what a window over a row, or over a plane, shows after it has moved, if
  nothing was known beyond its edges.  Moving on in one direction is moving once (`slide_slide`).
-/

namespace Raster

section Bin

variable {K : Type*} [Field K] [LinearOrder K] [FloorRing K]

/-- Conversion of a number to an integer, towards zero. -/
def trunc (v : K) : ℤ := if v < 0 then ⌈v⌉ else ⌊v⌋

lemma trunc_of_nonneg {v : K} (h : 0 ≤ v) :
    trunc v = ⌊v⌋ :=
  if_neg (not_lt.mpr h)

lemma trunc_eq_zero_iff [IsStrictOrderedRing K] {v : K} : trunc v = 0 ↔ |v| < 1 := by
  rw [trunc, abs_lt]
  split
  · next hneg =>
      rw [Int.ceil_eq_zero_iff, Set.mem_Ioc]
      exact ⟨fun h => ⟨h.1, hneg.trans one_pos⟩, fun h => ⟨h.1, hneg.le⟩⟩
  · next hpos =>
      rw [Int.floor_eq_zero_iff, Set.mem_Ico]
      have hle := not_lt.mp hpos
      exact ⟨fun h => ⟨neg_one_lt_zero.trans_le hle, h.2⟩, fun h => ⟨hle, h.2⟩⟩

/-- The number of the cell that is nearest to a coordinate, cells being numbered from that around
zero. -/
def bin (size d : K) : ℤ :=
  let index := trunc ((d + size / 2.0) / size)
  if d + size / 2.0 < 0 then index - 1 else index

/-- A coordinate is within half a cell of the centre of its cell. -/
theorem abs_sub_bin_le [IsStrictOrderedRing K] {size : K} (hsize : 0 < size) (d : K) :
    |d - bin size d * size| ≤ size / 2 := by
  have htwo : (2.0 : K) = 2 := by norm_num
  have hdiv : (d + size / 2) / size * size = d + size / 2 := div_mul_cancel₀ _ hsize.ne'
  rw [bin, trunc, htwo, abs_le]
  by_cases hneg : d + size / 2 < 0
  · have hquot : (d + size / 2) / size < 0 := div_neg_of_neg_of_pos hneg hsize
    have hlower := mul_le_mul_of_nonneg_right (Int.le_ceil ((d + size / 2) / size)) hsize.le
    have hupper := mul_lt_mul_of_pos_right (Int.ceil_lt_add_one ((d + size / 2) / size)) hsize
    simp only [if_pos hneg, if_pos hquot, Int.cast_sub, Int.cast_one]
    constructor <;> linarith
  · have hquot : ¬ (d + size / 2) / size < 0 :=
      not_lt.mpr (div_nonneg (not_lt.mp hneg) hsize.le)
    have hlower := mul_le_mul_of_nonneg_right (Int.floor_le ((d + size / 2) / size)) hsize.le
    have hupper := mul_lt_mul_of_pos_right (Int.lt_floor_add_one ((d + size / 2) / size)) hsize
    simp only [if_neg hneg, if_neg hquot]
    constructor <;> linarith

end Bin

/-! ## Approaching -/

section Approach

variable {K : Type*} [Field K] [LinearOrder K] [IsStrictOrderedRing K] [FloorRing K] {size : K}
  {σ : Type*} {cond : σ → Prop} [DecidablePred cond] {step : σ → σ}

omit [LinearOrder K] [IsStrictOrderedRing K] [FloorRing K] in
lemma distance_iterate (distance : σ → K)
    (hstep : ∀ s, distance (step s) = distance s - size) (s : σ) (n : ℕ) :
    distance (step^[n] s) = distance s - n * size := by
  induction n with
  | zero => simp
  | succ n ih =>
      rw [Function.iterate_succ_apply', hstep, ih]
      push_cast
      ring

/-- **A loop that approaches stops**, within a cell, and not beyond. -/
theorem while_approach (distance : σ → K) (hsize : 0 < size)
    (hcond : ∀ s, cond s ↔ size < distance s)
    (hstep : ∀ s, distance (step s) = distance s - size) {fuel : ℕ} {s : σ}
    (hfuel : ⌈|distance s| / size⌉₊ < fuel) :
    ∃ n : ℕ, Loop.loop (Loop.whileBody cond step) fuel s = some (step^[n] s) ∧
      distance s - n * size ≤ size ∧ (n ≠ 0 → 0 < distance s - n * size) := by
  have hprogress : ∀ s, cond s → ⌈|distance (step s)| / size⌉₊ < ⌈|distance s| / size⌉₊ := by
    intro s hs
    rw [hcond] at hs
    have hnow : |distance s| = distance s := abs_of_pos (hsize.trans hs)
    have hnext : |distance s - size| = distance s - size := abs_of_pos (sub_pos.mpr hs)
    have hquot : 0 < distance s / size := div_pos (hsize.trans hs) hsize
    have hceil : 0 < ⌈distance s / size⌉₊ := Nat.ceil_pos.mpr hquot
    rw [hstep, hnow, hnext, sub_div, div_self hsize.ne', Nat.ceil_sub_one]
    omega
  obtain ⟨n, hloop, hend, hheld⟩ :=
    Loop.while_total (fun s => ⌈|distance s| / size⌉₊) hprogress fuel s hfuel
  refine ⟨n, hloop, ?_, ?_⟩
  · rw [← distance_iterate distance hstep]
    exact not_lt.mp fun hfar => hend ((hcond _).mpr hfar)
  · intro hn
    obtain ⟨k, rfl⟩ := Nat.exists_eq_succ_of_ne_zero hn
    have hlast := (hcond _).mp (hheld k (Nat.lt_succ_self k))
    rw [distance_iterate distance hstep] at hlast
    push_cast
    linarith

/-- The cells to go until no more than a cell away. -/
def approach (size d : K) : ℤ :=
  if d < -size then -⌈-d / size - 1⌉ else if size < d then ⌈d / size - 1⌉ else 0

lemma approach_of_near {d : K} (h : |d| ≤ size) : approach size d = 0 := by
  obtain ⟨hlower, hupper⟩ := abs_le.mp h
  rw [approach, if_neg (not_lt.mpr hlower), if_neg (not_lt.mpr hupper)]

lemma ceil_eq_of_approached (hsize : 0 < size) {d : K} {n : ℕ} (hfar : size < d)
    (hnear : d - n * size ≤ size) (hnot : n ≠ 0 → 0 < d - n * size) : ⌈d / size - 1⌉ = n := by
  have hn : n ≠ 0 := by
    rintro rfl
    simp only [Nat.cast_zero, zero_mul, sub_zero] at hnear
    exact absurd hfar (not_lt.mpr hnear)
  have hpos := hnot hn
  rw [Int.ceil_eq_iff]
  constructor
  · rw [sub_lt_sub_iff_right, lt_div_iff₀ hsize]
    push_cast
    linarith
  · rw [sub_le_iff_le_add, div_le_iff₀ hsize]
    push_cast
    linarith

/-- The two loops, to the one side and to the other, go as many cells as `approach` says. -/
theorem approach_eq (hsize : 0 < size) {d : K} {n m : ℕ}
    (hnear : -d - n * size ≤ size) (hnot : n ≠ 0 → 0 < -d - n * size)
    (hnear' : d + n * size - m * size ≤ size) (hnot' : m ≠ 0 → 0 < d + n * size - m * size) :
    (m : ℤ) - n = approach size d ∧ (n = 0 ∨ m = 0) := by
  rw [approach]
  by_cases hn : n = 0
  · subst hn
    simp only [Nat.cast_zero, zero_mul, sub_zero, add_zero] at *
    refine ⟨?_, Or.inl trivial⟩
    rw [if_neg (not_lt.mpr (neg_le.mp hnear))]
    split_ifs with hfar
    · exact (ceil_eq_of_approached hsize hfar hnear' hnot').symm
    · rw [Nat.cast_eq_zero]
      by_contra hm
      have hone : (1 : K) ≤ m := Nat.one_le_cast.mpr (Nat.one_le_iff_ne_zero.mpr hm)
      have := hnot' hm
      nlinarith
  · have hpos := hnot hn
    have hone : (1 : K) ≤ n := Nat.one_le_cast.mpr (Nat.one_le_iff_ne_zero.mpr hn)
    have hm : m = 0 := by
      by_contra hm
      have hpos' := hnot' hm
      have : (0 : K) ≤ m * size := by positivity
      linarith
    subst hm
    have hfar : size < -d := by nlinarith
    rw [if_pos (lt_neg.mp hfar), ceil_eq_of_approached hsize hfar hnear hnot]
    exact ⟨by simp, Or.inr rfl⟩

omit [FloorRing K] in
/-- After the two loops it is no more than a cell away. -/
lemma abs_le_of_approached (hsize : 0 < size) {d : K} {n m : ℕ} (hnear : -d - n * size ≤ size)
    (hnear' : d + n * size - m * size ≤ size) (hnot' : m ≠ 0 → 0 < d + n * size - m * size) :
    |d + n * size - m * size| ≤ size := by
  refine abs_le.mpr ⟨?_, hnear'⟩
  by_cases hm : m = 0
  · subst hm
    simp only [Nat.cast_zero, zero_mul, sub_zero]
    linarith
  · have hpos := hnot' hm
    linarith

end Approach

/-! ## Windows -/

section Slide

variable {β : Type*}

/-- The places of a window with a number of columns and as many rows. -/
def Inside (width : ℕ) (ix iy : ℤ) : Prop := 0 ≤ ix ∧ ix < width ∧ 0 ≤ iy ∧ iy < width

instance (width : ℕ) (ix iy : ℤ) : Decidable (Inside width ix iy) :=
  inferInstanceAs (Decidable (_ ∧ _))

lemma Inside.toNat_lt {width : ℕ} {ix iy : ℤ} (h : Inside width ix iy) :
    ix.toNat < width ∧ iy.toNat < width := by
  simp only [Inside] at h
  omega

lemma inside_cast {width : ℕ} (a b : Fin width) : Inside width a b := by
  simp only [Inside]
  omega

/-- The indices of a place in a window. -/
lemma Inside.exists_fin {width : ℕ} {ix iy : ℤ} (h : Inside width ix iy) :
    ∃ a b : Fin width, ix = a ∧ iy = b := by
  refine ⟨⟨ix.toNat, h.toNat_lt.1⟩, ⟨iy.toNat, h.toNat_lt.2⟩, ?_, ?_⟩
  · exact (Int.toNat_of_nonneg h.1).symm
  · exact (Int.toNat_of_nonneg h.2.2.1).symm

/-- Places that are numbered row by row have a number for each column and row. -/
lemma Inside.ediv_emod {width : ℕ} {ix iy : ℤ} (h : Inside width ix iy) :
    (width * ix + iy) / width = ix ∧ (width * ix + iy) % width = iy := by
  obtain ⟨-, -, hnonneg, hlt⟩ := h
  have hwidth : (width : ℤ) ≠ 0 := (hnonneg.trans_lt hlt).ne'
  constructor
  · rw [add_comm, Int.add_mul_ediv_left _ _ hwidth, Int.ediv_eq_zero_of_lt hnonneg hlt, zero_add]
  · rw [add_comm, Int.add_mul_emod_self_left, Int.emod_eq_of_lt hnonneg hlt]

/-- And for each number there is a column and a row. -/
lemma inside_ediv_emod {width : ℕ} {i : ℤ} (hi : 0 ≤ i) (hlt : i < width * width) :
    Inside width (i / width) (i % width) := by
  have hwidth : (0 : ℤ) < width := by
    rcases Nat.eq_zero_or_pos width with rfl | hpos
    · exact absurd (hi.trans_lt hlt) (by simp)
    · exact Int.natCast_pos.mpr hpos
  exact ⟨Int.ediv_nonneg hi hwidth.le, Int.ediv_lt_of_lt_mul hwidth hlt,
    Int.emod_nonneg i hwidth.ne', Int.emod_lt_of_pos i hwidth⟩

/-- What is seen is inside the window. -/
def Framed (width : ℕ) (empty : β) (view : ℤ → ℤ → β) : Prop :=
  ∀ ix iy, ¬ Inside width ix iy → view ix iy = empty

/-- What is seen after the window has moved. -/
def slide (width : ℕ) (empty : β) (kx ky : ℤ) (view : ℤ → ℤ → β) (ix iy : ℤ) : β :=
  if Inside width ix iy then view (ix + kx) (iy + ky) else empty

/-- Two movements have one direction, or none. -/
def SameWay (k l : ℤ) : Prop := 0 ≤ k ∧ 0 ≤ l ∨ k ≤ 0 ∧ l ≤ 0

lemma sameWay_zero (k : ℤ) : SameWay k 0 := by
  simp only [SameWay]
  omega

lemma zero_sameWay (k : ℤ) : SameWay 0 k := by
  simp only [SameWay]
  omega

lemma sameWay_mul (n : ℕ) (k : ℤ) : SameWay k (n * k) := by
  rcases le_total 0 k with hk | hk
  · exact Or.inl ⟨hk, mul_nonneg n.cast_nonneg hk⟩
  · exact Or.inr ⟨hk, mul_nonpos_of_nonneg_of_nonpos n.cast_nonneg hk⟩

variable {width : ℕ} {empty : β} {view : ℤ → ℤ → β} {kx ky lx ly : ℤ}

lemma slide_zero (h : Framed width empty view) : slide width empty 0 0 view = view := by
  funext ix iy
  rw [slide]
  split_ifs with hinside
  · simp
  · exact (h ix iy hinside).symm

/-- **Moving on is moving once**: what was lost at an edge on the way would be lost anyway. -/
theorem slide_slide (h : Framed width empty view) (hx : SameWay kx lx) (hy : SameWay ky ly) :
    slide width empty kx ky (slide width empty lx ly view)
      = slide width empty (kx + lx) (ky + ly) view := by
  funext ix iy
  simp only [slide]
  split_ifs with hinside hnext
  · rw [add_assoc, add_assoc]
  · symm
    refine h _ _ fun hfar => hnext ?_
    simp only [Inside, SameWay] at *
    omega
  · rfl

end Slide

end Raster
