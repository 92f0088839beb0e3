import Mathlib.Algebra.Order.Floor.Ring
import Mathlib.Algebra.Order.Field.Power
import Mathlib.Data.Int.Log
import Mathlib.Order.WithBot
import Mathlib.Tactic.Linarith
import Mathlib.Tactic.NormNum
import Mathlib.Tactic.Positivity
import Mathlib.Tactic.Ring

/-!
# Binary floating-point formats

Numbers with so many binary digits, and rounding to them.

* **Formats.**  A `Format` is a number of digits and a least exponent, with `binary32` and
  `binary64` as the usual ones; it has no greatest number, so overflow is not part of it
  (`toFloat32` adds it, for what is too large).  A number `IsFloat` in a format if its digits fit.
* **Rounding.**  `halfEven` is the nearest integer, with ties to the even one; `Format.round` does
  that to the digits.  It gives a float (`isFloat_round`), leaves floats as they are
  (`IsFloat.round_eq`), keeps the order (`round_mono`) and the sign (`round_neg`), and is off by
  half a unit of the last digit at most (`abs_round_sub_le`, `abs_round_sub_le_mul`).
* **What programs rely on.**  The difference of two floats is not rounded to zero
  (`round_sub_pos`), nor at all if neither is more than twice the other (`IsFloat.sub`), and half of
  their sum is between them (`le_round_midpoint`, `round_midpoint_le`).  A number that is compared
  before it is rounded and stored still leaves the smaller one (`store_eq_min`).
-/

namespace FloatFormat

variable {K : Type*} [Field K] [LinearOrder K] [IsStrictOrderedRing K] [FloorRing K]

/-! ## The nearest integer -/

section HalfEven

variable {x y : K}

/-- The nearest integer, or the even one of two. -/
def halfEven (x : K) : ℤ :=
  if Int.fract x < 1 / 2 then ⌊x⌋
  else if 1 / 2 < Int.fract x then ⌊x⌋ + 1
  else if Even ⌊x⌋ then ⌊x⌋ else ⌊x⌋ + 1

omit [IsStrictOrderedRing K] in
lemma floor_le_halfEven (x : K) : ⌊x⌋ ≤ halfEven x := by
  unfold halfEven
  split_ifs <;> omega

omit [IsStrictOrderedRing K] in
lemma halfEven_le (x : K) : halfEven x ≤ ⌊x⌋ + 1 := by
  unfold halfEven
  split_ifs <;> omega

lemma halfEven_intCast (n : ℤ) : halfEven (n : K) = n := by
  rw [halfEven, Int.fract_intCast, if_pos (by norm_num), Int.floor_intCast]

/-- The nearest integer is nearer than half. -/
lemma abs_halfEven_sub_le (x : K) : |(halfEven x : K) - x| ≤ 1 / 2 := by
  have hsplit := Int.floor_add_fract x
  have hnonneg := Int.fract_nonneg x
  have hlt := Int.fract_lt_one x
  rw [halfEven, abs_le]
  split_ifs <;> push_cast <;> constructor <;> linarith

lemma halfEven_mono (h : x ≤ y) : halfEven x ≤ halfEven y := by
  rcases (Int.floor_le_floor h).lt_or_eq with hlt | heq
  · exact (halfEven_le x).trans (Int.add_one_le_of_lt hlt |>.trans (floor_le_halfEven y))
  · -- in the same unit, the fractional parts are in the same order
    have hx := Int.floor_add_fract x
    have hy := Int.floor_add_fract y
    have hfract : Int.fract x ≤ Int.fract y := by
      rw [heq] at hx
      linarith
    rw [halfEven, halfEven, heq]
    split_ifs <;> first | omega | linarith

lemma halfEven_neg (x : K) : halfEven (-x) = -halfEven x := by
  rcases eq_or_ne (Int.fract x) 0 with hzero | hne
  · have hx : x = (⌊x⌋ : K) := by
      have hsplit := Int.floor_add_fract x
      rw [hzero, add_zero] at hsplit
      exact hsplit.symm
    rw [hx, ← Int.cast_neg, halfEven_intCast, halfEven_intCast]
  · have hfract := Int.fract_neg hne
    have hfloor : ⌊-x⌋ = -⌊x⌋ - 1 := by
      have hsplit := Int.floor_add_fract x
      have hsplit' := Int.floor_add_fract (-x)
      rw [hfract] at hsplit'
      have hcast : (⌊-x⌋ : K) = ((-⌊x⌋ - 1 : ℤ) : K) := by
        push_cast
        linarith
      exact_mod_cast hcast
    have hparity : Even (-⌊x⌋ - 1) ↔ ¬ Even ⌊x⌋ := by
      rw [Int.even_sub_one, even_neg]
    simp only [halfEven, hfract, hfloor, hparity]
    split_ifs <;> first | omega | linarith

end HalfEven

/-! ## Formats -/

/-- So many binary digits, and the least exponent of the last one. -/
structure Format where
  precision : ℕ
  minExponent : ℤ
  precision_pos : 0 < precision

/-- `float`, but for overflow. -/
def binary32 : Format := ⟨24, -149, by decide⟩

/-- `double`, but for overflow. -/
def binary64 : Format := ⟨53, -1074, by decide⟩

namespace Format

/-! ### Floats -/

section IsFloat

variable {K : Type*} [Field K] {f : Format} {x y : K}

/-- The least positive number. -/
def least (f : Format) : K := 2 ^ f.minExponent

/-- A number whose digits fit. -/
def IsFloat (f : Format) (x : K) : Prop :=
  ∃ m e : ℤ, |m| ≤ 2 ^ f.precision ∧ f.minExponent ≤ e ∧ x = m * 2 ^ e

lemma isFloat_zero (f : Format) : f.IsFloat (0 : K) :=
  ⟨0, f.minExponent, by positivity, le_rfl, by simp⟩

/-- A power of two is a float. -/
lemma isFloat_two_zpow {e : ℤ} (he : f.minExponent ≤ e) : f.IsFloat ((2 : K) ^ e) :=
  ⟨1, e, by rw [abs_one]; exact one_le_pow₀ one_le_two, he, by simp⟩

/-- An integer of few digits is a float. -/
lemma isFloat_intCast {n : ℤ} (hn : |n| ≤ 2 ^ f.precision) (he : f.minExponent ≤ 0) :
    f.IsFloat (n : K) :=
  ⟨n, 0, hn, he, by simp⟩

lemma IsFloat.neg (h : f.IsFloat x) : f.IsFloat (-x) := by
  obtain ⟨m, e, hm, he, rfl⟩ := h
  exact ⟨-m, e, by rwa [abs_neg], he, by push_cast; ring⟩

variable [NeZero (2 : K)]

/-- Twice a float is one. -/
lemma IsFloat.add_self (h : f.IsFloat x) : f.IsFloat (x + x) := by
  obtain ⟨m, e, hm, he, rfl⟩ := h
  exact ⟨m, e + 1, hm, by omega, by rw [zpow_add_one₀ two_ne_zero]; ring⟩

/-- With one digit more for powers of two, a float has fewer digits than fit. -/
lemma IsFloat.exists_lt (h : f.IsFloat x) :
    ∃ m e : ℤ, |m| < 2 ^ f.precision ∧ f.minExponent ≤ e ∧ x = m * 2 ^ e := by
  obtain ⟨m, e, hm, he, rfl⟩ := h
  rcases hm.lt_or_eq with hlt | heq
  · exact ⟨m, e, hlt, he, rfl⟩
  · have hdouble : (2 : ℤ) ^ f.precision = 2 * 2 ^ (f.precision - 1) := by
      rw [← pow_succ', Nat.sub_add_cancel f.precision_pos]
    have hpos : (0 : ℤ) < 2 ^ (f.precision - 1) := by positivity
    rcases abs_eq (by positivity) |>.mp heq with rfl | rfl
    · refine ⟨2 ^ (f.precision - 1), e + 1, by rw [abs_of_pos hpos]; omega, by omega, ?_⟩
      rw [hdouble, zpow_add_one₀ two_ne_zero]
      push_cast
      ring
    · refine ⟨-2 ^ (f.precision - 1), e + 1, by rw [abs_neg, abs_of_pos hpos]; omega, by omega, ?_⟩
      rw [hdouble, zpow_add_one₀ two_ne_zero]
      push_cast
      ring

/-- Multiples of the least unit. -/
lemma IsFloat.exists_mul (h : f.IsFloat x) : ∃ n : ℤ, x = n * 2 ^ f.minExponent := by
  obtain ⟨m, e, -, he, rfl⟩ := h
  refine ⟨m * 2 ^ (e - f.minExponent).toNat, ?_⟩
  push_cast
  rw [mul_assoc, ← zpow_natCast, ← zpow_add₀ two_ne_zero, Int.toNat_of_nonneg (by omega),
    Int.sub_add_cancel]

end IsFloat

/-! ### Rounding -/

variable {f : Format} {x y a b : K}

/-- The exponent of the last digit. -/
def exponent (f : Format) (x : K) : ℤ :=
  max (Int.log 2 |x| - (f.precision - 1)) f.minExponent

/-- Rounding to the nearest float. -/
def round (f : Format) (x : K) : K :=
  halfEven (x / 2 ^ f.exponent x) * 2 ^ f.exponent x

omit [FloorRing K] in
lemma two_zpow_pos (e : ℤ) : (0 : K) < 2 ^ e := zpow_pos two_pos e

omit [IsStrictOrderedRing K] in
lemma minExponent_le_exponent (f : Format) (x : K) : f.minExponent ≤ f.exponent x :=
  le_max_right _ _

omit [IsStrictOrderedRing K] in
lemma exponent_neg (f : Format) (x : K) : f.exponent (-x) = f.exponent x := by
  rw [exponent, exponent, abs_neg]

/-- Before the last digit is rounded there are no more digits than fit. -/
lemma abs_lt_two_zpow (f : Format) (x : K) : |x| < 2 ^ (f.precision + f.exponent x) := by
  have hlog : |x| < ((2 : ℕ) : K) ^ (Int.log 2 |x| + 1) :=
    Int.lt_zpow_succ_log_self (by norm_num) |x|
  have hle : Int.log 2 |x| + 1 ≤ f.precision + f.exponent x := by
    have := le_max_left (Int.log 2 |x| - (f.precision - 1)) f.minExponent
    rw [← exponent] at this
    omega
  rw [Nat.cast_two] at hlog
  exact hlog.trans_le (zpow_le_zpow_right₀ one_le_two hle)

/-- Above the least exponent, the first digit is not zero. -/
lemma two_zpow_le_abs (hx : x ≠ 0) (h : f.minExponent < f.exponent x) :
    2 ^ (f.precision - 1 + f.exponent x) ≤ |x| := by
  have hlog : ((2 : ℕ) : K) ^ Int.log 2 |x| ≤ |x| :=
    Int.zpow_log_le_self (by norm_num) (abs_pos.mpr hx)
  have hexp : (f.precision - 1 + f.exponent x : ℤ) = Int.log 2 |x| := by
    rw [exponent] at h ⊢
    omega
  rwa [hexp, ← Nat.cast_two]

/-- A number of few digits has no digits after the last one. -/
lemma exponent_le_of_abs_lt {e : ℤ} (hx : x ≠ 0) (he : f.minExponent ≤ e)
    (h : |x| < 2 ^ (f.precision + e)) : f.exponent x ≤ e := by
  have hlog : Int.log 2 |x| < f.precision + e := by
    rw [← Int.lt_zpow_iff_log_lt (by norm_num) (abs_pos.mpr hx), Nat.cast_two]
    exact h
  rw [exponent]
  omega

omit [IsStrictOrderedRing K] in
lemma exponent_mono (hx : 0 < x) (h : x ≤ y) [IsStrictOrderedRing K] :
    f.exponent x ≤ f.exponent y := by
  have hlog : Int.log 2 |x| ≤ Int.log 2 |y| := by
    rw [abs_of_pos hx, abs_of_pos (hx.trans_le h)]
    exact Int.log_mono_right hx h
  rw [exponent, exponent]
  omega

/-- **Floats stay as they are.** -/
theorem IsFloat.round_eq (h : f.IsFloat x) : f.round x = x := by
  rcases eq_or_ne x 0 with rfl | hne
  · have hzero : halfEven (0 : K) = 0 := by
      have := halfEven_intCast (K := K) 0
      rwa [Int.cast_zero] at this
    rw [round, zero_div, hzero, Int.cast_zero, zero_mul]
  · obtain ⟨m, e, hm, he, hx⟩ := h.exists_lt
    have hexp : f.exponent x ≤ e := by
      refine exponent_le_of_abs_lt hne he ?_
      rw [hx, abs_mul, abs_of_pos (two_zpow_pos (K := K) e), zpow_add₀ two_ne_zero, zpow_natCast]
      exact mul_lt_mul_of_pos_right (by exact_mod_cast hm) (two_zpow_pos e)
    generalize hd : f.exponent x = d at hexp
    have hdigits : x / 2 ^ d = (m * 2 ^ (e - d).toNat : ℤ) := by
      rw [div_eq_iff (two_zpow_pos _).ne', hx]
      push_cast
      rw [mul_assoc, ← zpow_natCast, ← zpow_add₀ two_ne_zero, Int.toNat_of_nonneg (by omega),
        Int.sub_add_cancel]
    rw [round, hd, hdigits, halfEven_intCast, ← hdigits, div_mul_cancel₀ _ (two_zpow_pos _).ne']

/-- **What is rounded is a float.** -/
theorem isFloat_round (f : Format) (x : K) : f.IsFloat (f.round x) := by
  refine ⟨_, _, ?_, f.minExponent_le_exponent x, rfl⟩
  have hlt := f.abs_lt_two_zpow x
  have hpos : (0 : K) < 2 ^ f.exponent x := two_zpow_pos _
  rw [zpow_add₀ two_ne_zero, zpow_natCast] at hlt
  have hdigits : |x / 2 ^ f.exponent x| < ((2 ^ f.precision : ℤ) : K) := by
    rw [abs_div, abs_of_pos hpos, div_lt_iff₀ hpos]
    exact_mod_cast hlt
  obtain ⟨hlower, hupper⟩ := abs_lt.mp hdigits
  rw [abs_le]
  constructor
  · have := halfEven_mono hlower.le
    rwa [← Int.cast_neg, halfEven_intCast] at this
  · have := halfEven_mono hupper.le
    rwa [halfEven_intCast] at this

lemma round_round (f : Format) (x : K) : f.round (f.round x) = f.round x :=
  (f.isFloat_round x).round_eq

lemma round_zero (f : Format) : f.round (0 : K) = 0 := (f.isFloat_zero).round_eq

lemma round_neg (f : Format) (x : K) : f.round (-x) = -f.round x := by
  rw [round, round, exponent_neg, neg_div, halfEven_neg]
  push_cast
  ring

lemma round_nonneg (hx : 0 ≤ x) : 0 ≤ f.round x := by
  have hdigits : (0 : K) ≤ x / 2 ^ f.exponent x := by positivity
  have hhalf := (Int.floor_nonneg.mpr hdigits).trans (floor_le_halfEven _)
  exact mul_nonneg (by exact_mod_cast hhalf) (by positivity)

lemma round_le_of_le_digits {n : ℤ} (h : x ≤ n * 2 ^ f.exponent x) :
    f.round x ≤ n * 2 ^ f.exponent x := by
  have hdigits := halfEven_mono ((div_le_iff₀ (two_zpow_pos _)).mpr h)
  rw [halfEven_intCast] at hdigits
  exact mul_le_mul_of_nonneg_right (by exact_mod_cast hdigits) (two_zpow_pos _).le

lemma le_round_of_digits_le {n : ℤ} (h : n * 2 ^ f.exponent x ≤ x) :
    n * 2 ^ f.exponent x ≤ f.round x := by
  have hdigits := halfEven_mono ((le_div_iff₀ (two_zpow_pos _)).mpr h)
  rw [halfEven_intCast] at hdigits
  exact mul_le_mul_of_nonneg_right (by exact_mod_cast hdigits) (two_zpow_pos _).le

lemma round_mono_of_pos (hx : 0 < x) (h : x ≤ y) : f.round x ≤ f.round y := by
  have hy := hx.trans_le h
  rcases (f.exponent_mono hx h).lt_or_eq with hlt | heq
  · -- where the digits of `y` begin is between the two
    have hmin := (f.minExponent_le_exponent x).trans_lt hlt
    have hcast : ((2 ^ (f.precision - 1) : ℤ) : K) * 2 ^ f.exponent y
        = 2 ^ (f.precision - 1 + f.exponent y : ℤ) := by
      have hpred : (f.precision - 1 : ℤ) = (f.precision - 1 : ℕ) := by
        have := f.precision_pos
        omega
      rw [zpow_add₀ two_ne_zero, hpred, zpow_natCast, Int.cast_pow, Int.cast_ofNat]
    have hcast' : ((2 ^ f.precision : ℤ) : K) * 2 ^ f.exponent x
        = 2 ^ (f.precision + f.exponent x : ℤ) := by
      rw [zpow_add₀ two_ne_zero, zpow_natCast, Int.cast_pow, Int.cast_ofNat]
    have hupper : f.round x ≤ 2 ^ (f.precision + f.exponent x : ℤ) := by
      rw [← hcast']
      refine round_le_of_le_digits ?_
      rw [hcast']
      exact (le_abs_self x).trans (f.abs_lt_two_zpow x).le
    have hlower : 2 ^ (f.precision - 1 + f.exponent y : ℤ) ≤ f.round y := by
      rw [← hcast]
      refine le_round_of_digits_le ?_
      rw [hcast]
      exact (two_zpow_le_abs hy.ne' hmin).trans_eq (abs_of_pos hy)
    calc f.round x ≤ 2 ^ (f.precision + f.exponent x : ℤ) := hupper
      _ ≤ 2 ^ (f.precision - 1 + f.exponent y : ℤ) :=
        zpow_le_zpow_right₀ one_le_two (by omega)
      _ ≤ f.round y := hlower
  · rw [round, round, heq]
    gcongr
    exact halfEven_mono (by gcongr)

/-- **Rounding keeps the order.** -/
theorem round_mono (f : Format) : Monotone (f.round : K → K) := by
  intro x y h
  rcases lt_or_ge 0 x with hx | hx
  · exact round_mono_of_pos hx h
  · rcases lt_or_ge y 0 with hy | hy
    · have := round_mono_of_pos (f := f) (neg_pos.mpr hy) (neg_le_neg h)
      rwa [round_neg, round_neg, neg_le_neg_iff] at this
    · have hlower := round_nonneg (f := f) (neg_nonneg.mpr hx)
      rw [round_neg] at hlower
      exact (nonpos_of_neg_nonneg hlower).trans (round_nonneg hy)

/-- A number between two floats is rounded to one between them. -/
lemma IsFloat.le_round (ha : f.IsFloat a) (h : a ≤ x) : a ≤ f.round x :=
  ha.round_eq.symm.trans_le (f.round_mono h)

lemma IsFloat.round_le (ha : f.IsFloat a) (h : x ≤ a) : f.round x ≤ a :=
  (f.round_mono h).trans_eq ha.round_eq

/-- The last digit that is kept is off by half a unit at most. -/
theorem abs_round_sub_le (f : Format) (x : K) : |f.round x - x| ≤ 2 ^ f.exponent x / 2 := by
  have hpos : (0 : K) < 2 ^ f.exponent x := two_zpow_pos _
  have hsplit : f.round x - x
      = (halfEven (x / 2 ^ f.exponent x) - x / 2 ^ f.exponent x) * 2 ^ f.exponent x := by
    rw [round, sub_mul, div_mul_cancel₀ _ hpos.ne']
  rw [hsplit, abs_mul, abs_of_pos hpos]
  exact (mul_le_mul_of_nonneg_right (abs_halfEven_sub_le _) hpos.le).trans_eq
    (one_div_mul_eq_div _ _)

/-- Small numbers are rounded by little. -/
lemma abs_round_sub_le_of_abs_le {k : ℤ} (h : |x| ≤ 2 ^ k) (hk : f.minExponent ≤ k - f.precision) :
    |f.round x - x| ≤ 2 ^ (k - f.precision) / 2 := by
  rcases h.lt_or_eq with hlt | heq
  · rcases eq_or_ne x 0 with rfl | hne
    · rw [round_zero, sub_zero, abs_zero]
      exact div_nonneg (two_zpow_pos _).le two_pos.le
    · have hexp : f.exponent x ≤ k - f.precision := by
        refine exponent_le_of_abs_lt hne hk ?_
        rwa [add_sub_cancel]
      refine (f.abs_round_sub_le x).trans ?_
      exact div_le_div_of_nonneg_right (zpow_le_zpow_right₀ one_le_two hexp) two_pos.le
  · have hfloat : f.IsFloat x := by
      have hpower : f.IsFloat ((2 : K) ^ k) := isFloat_two_zpow (by omega)
      rcases abs_eq (two_zpow_pos k).le |>.mp heq with rfl | rfl
      · exact hpower
      · exact hpower.neg
    rw [hfloat.round_eq, sub_self, abs_zero]
    exact div_nonneg (two_zpow_pos _).le two_pos.le

/-- Rounding is off by so small a part, or by half of the least unit. -/
theorem abs_round_sub_le_mul (f : Format) (x : K) :
    |f.round x - x| ≤ |x| / 2 ^ f.precision + 2 ^ f.minExponent / 2 := by
  have hmin : (0 : K) < 2 ^ f.minExponent := two_zpow_pos _
  rcases eq_or_ne x 0 with rfl | hne
  · rw [round_zero, sub_zero, abs_zero]
    positivity
  refine (f.abs_round_sub_le x).trans ?_
  rcases (f.minExponent_le_exponent x).lt_or_eq with hlt | heq
  · have hprecision : (0 : K) < 2 ^ f.precision := by positivity
    have hunit : 2 ^ f.exponent x / 2 ≤ |x| / 2 ^ f.precision := by
      have hdigits := two_zpow_le_abs hne hlt
      have hsplit : (2 : K) ^ (f.precision - 1 + f.exponent x : ℤ)
          = 2 ^ f.exponent x / 2 * 2 ^ f.precision := by
        rw [zpow_add₀ two_ne_zero, zpow_sub_one₀ two_ne_zero, zpow_natCast]
        ring
      rwa [le_div_iff₀ hprecision, ← hsplit]
    exact hunit.trans (le_add_of_nonneg_right (by positivity))
  · rw [← heq]
    exact le_add_of_nonneg_left (by positivity)

/-! ### Differences and midpoints -/

/-- Between two floats there is at least the least unit. -/
lemma IsFloat.add_le (ha : f.IsFloat a) (hb : f.IsFloat b) (h : a < b) :
    a + 2 ^ f.minExponent ≤ b := by
  obtain ⟨m, rfl⟩ := ha.exists_mul
  obtain ⟨n, rfl⟩ := hb.exists_mul
  have hlt : (m : K) < n := lt_of_mul_lt_mul_right h (two_zpow_pos _).le
  have hle : (m : K) + 1 ≤ n := by exact_mod_cast hlt
  calc (m : K) * 2 ^ f.minExponent + 2 ^ f.minExponent = (m + 1) * 2 ^ f.minExponent := by ring
    _ ≤ n * 2 ^ f.minExponent := mul_le_mul_of_nonneg_right hle (two_zpow_pos _).le

/-- The difference of two floats is not rounded to zero. -/
theorem IsFloat.round_sub_pos (ha : f.IsFloat a) (hb : f.IsFloat b) (h : a < b) :
    0 < f.round (b - a) :=
  (two_zpow_pos f.minExponent).trans_le
    ((isFloat_two_zpow le_rfl).le_round (le_sub_iff_add_le'.mpr (ha.add_le hb h)))

/-- The difference of two floats of which neither is more than twice the other is a float. -/
theorem IsFloat.sub (ha : f.IsFloat a) (hb : f.IsFloat b) (hab : a ≤ 2 * b) (hba : b ≤ 2 * a) :
    f.IsFloat (a - b) := by
  obtain ⟨m, e, hm, he, rfl⟩ := ha
  obtain ⟨n, d, hn, hd, rfl⟩ := hb
  -- both have digits up to the smaller of the two exponents
  wlog hle : e ≤ d generalizing m n e d with hswap
  · have hneg := (hswap n d hn hd m e hm he hba hab (le_of_not_ge hle)).neg
    rwa [neg_sub] at hneg
  obtain ⟨k, rfl⟩ := Int.le.dest hle
  have hpos : (0 : K) < 2 ^ e := two_zpow_pos e
  have hdigits : (n : K) * 2 ^ (e + k) = ((n * 2 ^ k : ℤ) : K) * 2 ^ e := by
    rw [zpow_add₀ two_ne_zero, zpow_natCast]
    push_cast
    ring
  rw [hdigits] at hab hba ⊢
  generalize n * 2 ^ k = n' at hab hba ⊢
  have hab' : m ≤ 2 * n' := by
    rw [← mul_assoc] at hab
    exact_mod_cast le_of_mul_le_mul_right hab hpos
  have hba' : n' ≤ 2 * m := by
    rw [← mul_assoc] at hba
    exact_mod_cast le_of_mul_le_mul_right hba hpos
  obtain ⟨hlower, hupper⟩ := abs_le.mp hm
  exact ⟨m - n', e, abs_le.mpr ⟨by omega, by omega⟩, he, by push_cast; ring⟩

/-- Half of the sum of two floats, rounded twice, is not below the smaller one. -/
theorem IsFloat.le_round_midpoint (ha : f.IsFloat a) (h : a ≤ b) :
    a ≤ f.round (f.round (a + b) / 2) := by
  have hsum : a + a ≤ f.round (a + b) := ha.add_self.le_round (add_le_add_right h a)
  exact ha.le_round ((le_div_iff₀ two_pos).mpr (by rwa [mul_two]))

/-- It is not above the greater one. -/
theorem IsFloat.round_midpoint_le (hb : f.IsFloat b) (h : a ≤ b) :
    f.round (f.round (a + b) / 2) ≤ b := by
  have hsum : f.round (a + b) ≤ b + b := hb.add_self.round_le (add_le_add_left h b)
  exact hb.round_le ((div_le_iff₀ two_pos).mpr (by rwa [mul_two]))

end Format

/-! ## The two usual conversions -/

section Conversions

variable {K : Type*} [Field K] [LinearOrder K] [FloorRing K]

/-- Conversion to a number of single precision. -/
abbrev float32 (x : K) : K := binary32.round x

/-- Conversion to a number of double precision. -/
abbrev float64 (x : K) : K := binary64.round x

/-- Conversion to a number of single precision, where what is too large becomes infinite. -/
def toFloat32 (x : K) : WithTop K := if float32 x < 2 ^ 128 then (float32 x : K) else ⊤

lemma float32_zero [IsStrictOrderedRing K] : float32 (0 : K) = 0 := Format.round_zero _

variable [IsStrictOrderedRing K] {x : K}

/-- Conversion to single precision keeps 24 binary digits. -/
lemma abs_float32_sub_le (k : ℕ) (h : |x| ≤ 2 ^ k) : |float32 x - x| ≤ 2 ^ k / 2 ^ 25 := by
  have hround : |binary32.round x - x| ≤ 2 ^ ((k : ℤ) - (24 : ℕ)) / 2 :=
    Format.abs_round_sub_le_of_abs_le (by rwa [zpow_natCast]) (by simp [binary32]; omega)
  rwa [zpow_sub₀ two_ne_zero, zpow_natCast, zpow_natCast, div_div, ← pow_succ] at hround

/-- Conversion to double precision keeps 53 binary digits. -/
lemma abs_float64_sub_le (k : ℕ) (h : |x| ≤ 2 ^ k) : |float64 x - x| ≤ 2 ^ k / 2 ^ 54 := by
  have hround : |binary64.round x - x| ≤ 2 ^ ((k : ℤ) - (53 : ℕ)) / 2 :=
    Format.abs_round_sub_le_of_abs_le (by rwa [zpow_natCast]) (by simp [binary64]; omega)
  rwa [zpow_sub₀ two_ne_zero, zpow_natCast, zpow_natCast, div_div, ← pow_succ] at hround

/-- Rounding does not go beyond a power of two. -/
lemma Format.round_le_two_pow {f : Format} (hf : f.minExponent ≤ 0) (k : ℕ) (h : x ≤ 2 ^ k) :
    f.round x ≤ 2 ^ k := by
  have hfloat : f.IsFloat ((2 : K) ^ (k : ℤ)) := isFloat_two_zpow (hf.trans k.cast_nonneg)
  rw [zpow_natCast] at hfloat
  exact hfloat.round_le h

lemma Format.abs_round_le_two_pow {f : Format} (hf : f.minExponent ≤ 0) (k : ℕ)
    (h : |x| ≤ 2 ^ k) : |f.round x| ≤ 2 ^ k := by
  obtain ⟨hlower, hupper⟩ := abs_le'.mp h
  refine abs_le'.mpr ⟨round_le_two_pow hf k hlower, ?_⟩
  rw [← round_neg]
  exact round_le_two_pow hf k hupper

/-- A number that is converted and divided by one of single precision keeps 51 binary digits. -/
lemma abs_float64_div_sub_le {y : K} (hx : 0 ≤ x) (hy : binary32.IsFloat y) (hpos : 0 < y) :
    |float64 (float64 x / y) - x / y| ≤ x / y / 2 ^ 51 + 1 / 2 ^ 250 := by
  -- the divisor is not so small that the least units matter
  have hleast : (2 : K) ^ binary32.minExponent ≤ y := by
    have hadd := (Format.isFloat_zero binary32).add_le hy hpos
    rwa [zero_add] at hadd
  have hunit : (2 : K) ^ binary64.minExponent / 2 ≤ 1 / 2 ^ 252 := by
    refine (half_le_self (Format.two_zpow_pos _).le).trans ?_
    rw [one_div, ← zpow_natCast, ← zpow_neg]
    exact zpow_le_zpow_right₀ one_le_two (by decide)
  have hunit' : (2 : K) ^ binary64.minExponent / 2 / y ≤ 1 / 2 ^ 252 := by
    rw [div_le_iff₀ hpos, one_div, ← zpow_natCast, ← zpow_neg]
    refine le_trans ?_ (mul_le_mul_of_nonneg_left hleast (Format.two_zpow_pos _).le)
    refine (half_le_self (Format.two_zpow_pos _).le).trans ?_
    rw [← zpow_add₀ two_ne_zero]
    exact zpow_le_zpow_right₀ one_le_two (by decide)
  have hquot : 0 ≤ float64 x / y := div_nonneg (Format.round_nonneg hx) hpos.le
  have hround : |float64 (float64 x / y) - float64 x / y|
      ≤ float64 x / y / 2 ^ 53 + 2 ^ binary64.minExponent / 2 := by
    have hnear := binary64.abs_round_sub_le_mul (float64 x / y)
    rwa [abs_of_nonneg hquot] at hnear
  have hscaled : |float64 x / y - x / y| ≤ x / y / 2 ^ 53 + 1 / 2 ^ 252 := by
    have hnear := binary64.abs_round_sub_le_mul x
    rw [abs_of_nonneg hx] at hnear
    rw [← sub_div, abs_div, abs_of_pos hpos]
    calc |float64 x - x| / y ≤ (x / 2 ^ 53 + 2 ^ binary64.minExponent / 2) / y :=
          div_le_div_of_nonneg_right hnear hpos.le
      _ = x / y / 2 ^ 53 + 2 ^ binary64.minExponent / 2 / y := by rw [add_div, div_right_comm]
      _ ≤ x / y / 2 ^ 53 + 1 / 2 ^ 252 := by gcongr
  have hexact : 0 ≤ x / y := div_nonneg hx hpos.le
  rw [abs_le] at hscaled hround ⊢
  constructor <;> linarith

lemma toFloat32_mono : Monotone (toFloat32 : K → WithTop K) := by
  intro x y h
  have hround : float32 x ≤ float32 y := Format.round_mono _ h
  simp only [toFloat32]
  split_ifs with hx hy hy
  · exact WithTop.coe_le_coe.mpr hround
  · exact le_top
  · exact absurd (hround.trans_lt hy) hx
  · exact le_rfl

/-- What was converted is not changed by a second conversion. -/
lemma toFloat32_of_eq_coe {y : K} (h : toFloat32 x = y) : toFloat32 y = y := by
  rw [toFloat32] at h
  split_ifs at h with hx
  · have hround : float32 (float32 x) = float32 x := Format.round_round binary32 x
    rw [← WithTop.coe_inj.mp h, toFloat32, hround, if_pos hx]
  · cases h

lemma toFloat32_two_pow : toFloat32 ((2 : K) ^ 128) = ⊤ := by
  have hround : float32 ((2 : K) ^ (128 : ℤ)) = 2 ^ (128 : ℤ) :=
    (Format.isFloat_two_zpow (by decide)).round_eq
  rw [zpow_ofNat] at hround
  rw [toFloat32, hround, if_neg (lt_irrefl _)]

/-- A number that is compared before the conversion and stored after it: the smaller one stays. -/
lemma store_eq_min (x : K) {held : WithTop K}
    (hheld : held ∈ Set.range (toFloat32 : K → WithTop K)) :
    (if (x : WithTop K) < held then toFloat32 x else held) = min held (toFloat32 x) := by
  obtain ⟨y, rfl⟩ := hheld
  cases hy : (toFloat32 y) with
  | top => rw [if_pos (WithTop.coe_lt_top x), min_eq_right le_top]
  | coe z =>
      have hz := toFloat32_of_eq_coe hy
      split_ifs with hless
      · have hle : toFloat32 x ≤ toFloat32 z := toFloat32_mono (WithTop.coe_lt_coe.mp hless).le
        rw [min_eq_right (hle.trans_eq hz)]
      · have hle : toFloat32 z ≤ toFloat32 x :=
          toFloat32_mono (WithTop.coe_le_coe.mp (not_lt.mp hless))
        rw [min_eq_left (hz.symm.trans_le hle)]

end Conversions

end FloatFormat
