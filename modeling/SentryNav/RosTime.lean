import SentryNav.Core.FloatFormat

/-!
# Stamps and seconds

A stamp counts nanoseconds.  Programs turn it into `double` seconds, and some of them back into a
stamp; before 2038 this is off by less than a microsecond.
-/

namespace SentryNav

open FloatFormat

variable {K : Type*} [Field K] [LinearOrder K] [FloorRing K]

/-- `rclcpp::Time::seconds`. -/
def seconds (stamp : ℤ) : K := float64 (float64 (stamp : K) / 1000000000.0)

/-- `rclcpp::Time(static_cast<uint64_t>(time * 1e9))`, for a time that is not negative. -/
def stampOfSeconds (time : K) : ℤ := ⌊float64 (time * 1000000000.0)⌋

variable [IsStrictOrderedRing K]

lemma isFloat_seconds (stamp : ℤ) : binary64.IsFloat (seconds stamp : K) :=
  Format.isFloat_round _ _

/-- Seconds are between 0 and 2³², and off by less than half a microsecond. -/
lemma seconds_near {stamp : ℤ} (hpos : 0 ≤ stamp) (h : stamp < 2 ^ 31 * 1000000000) :
    |(seconds stamp : K) - stamp / 1000000000| ≤ 2 / 5000000 ∧ (0 : K) ≤ seconds stamp ∧
      (seconds stamp : K) ≤ 2 ^ 32 := by
  have hpos' : (0 : K) ≤ stamp := Int.cast_nonneg hpos
  have hstamp : (stamp : K) ≤ 2 ^ 61 := by exact_mod_cast (by omega : stamp ≤ 2 ^ 61)
  have hcast : |float64 (stamp : K) - stamp| ≤ 2 ^ 61 / 2 ^ 54 :=
    abs_float64_sub_le 61 ((abs_of_nonneg hpos').trans_le hstamp)
  have hle : float64 (stamp : K) ≤ 2 ^ 61 := Format.round_le_two_pow (by decide) 61 hstamp
  have hnonneg : 0 ≤ float64 (stamp : K) := Format.round_nonneg hpos'
  have hquot : float64 (stamp : K) / 1000000000.0 ≤ 2 ^ 32 := by
    rw [div_le_iff₀ (by norm_num)]
    norm_num at hle ⊢
    linarith
  have hquot' : 0 ≤ float64 (stamp : K) / 1000000000.0 := div_nonneg hnonneg (by norm_num)
  have hround : |(seconds stamp : K) - float64 (stamp : K) / 1000000000.0| ≤ 2 ^ 32 / 2 ^ 54 :=
    abs_float64_sub_le 32 ((abs_of_nonneg hquot').trans_le hquot)
  refine ⟨?_, Format.round_nonneg hquot', Format.round_le_two_pow (by decide) 32 hquot⟩
  rw [abs_le] at hcast hround ⊢
  norm_num at hcast hround ⊢
  constructor <;> linarith

/-- **There and back**, a stamp is off by less than a microsecond. -/
theorem stampOfSeconds_near {stamp : ℤ} (hpos : 0 ≤ stamp) (h : stamp < 2 ^ 31 * 1000000000) :
    |stampOfSeconds (seconds stamp : K) - stamp| < 1000 := by
  obtain ⟨hnear, hnonneg, hle⟩ := seconds_near (K := K) hpos h
  have hprod : (seconds stamp : K) * 1000000000.0 ≤ 2 ^ 62 := by
    norm_num at hle ⊢
    linarith
  have hprod' : 0 ≤ (seconds stamp : K) * 1000000000.0 := mul_nonneg hnonneg (by norm_num)
  have hround := abs_float64_sub_le 62 ((abs_of_nonneg hprod').trans_le hprod)
  have hfloor := Int.floor_le (float64 ((seconds stamp : K) * 1000000000.0))
  have hfloor' := Int.lt_floor_add_one (float64 ((seconds stamp : K) * 1000000000.0))
  have hbound : |(stampOfSeconds (seconds stamp : K) : K) - stamp| < 1000 := by
    rw [← stampOfSeconds] at hfloor hfloor'
    rw [abs_le] at hnear hround
    rw [abs_lt]
    norm_num at hnear hround hfloor hfloor' ⊢
    constructor <;> linarith
  exact_mod_cast hbound

/-- What becomes of a stamp that a program keeps as a time. -/
lemma stampOfSeconds_spec {time : K} {stamp : ℤ} (h : time = seconds stamp) :
    stampOfSeconds time = stampOfSeconds (seconds stamp : K) ∧
      (0 ≤ stamp → stamp < 2 ^ 31 * 1000000000 → |stampOfSeconds time - stamp| < 1000) :=
  ⟨congrArg stampOfSeconds h, h ▸ stampOfSeconds_near⟩

end SentryNav
