import Mathlib.Algebra.Order.Group.Defs
import Mathlib.Algebra.Order.Monoid.Unbundled.MinMax
import Mathlib.Order.MinMax
import Mathlib.Tactic.Common

/-!
# Limiters

The pieces that controllers put behind a computed quantity to keep it in bounds, over any ordered
numbers.

* `clamp` keeps a value between two bounds.
* `slew` moves from the last value towards a target, by no more than a rate.
* `cap` takes the lower of a demand and a limit, where the limit is not taken below a floor.
* `heldSum` adds up steps and holds the sum between two bounds after each.

Each comes with the bounds it guarantees, so that a chain of limiters is bounded by citing them one
after another; and more is never made of less (`slew_mono`, `cap_mono_limit`).
-/

namespace Limiter

variable {K : Type*}

section Order

variable [LinearOrder K]

/-- `std::clamp(v, lo, hi)`. -/
def clamp (v lo hi : K) : K := if v < lo then lo else if hi < v then hi else v

lemma clamp_ge {v lo hi : K} (h : lo ≤ hi) : lo ≤ clamp v lo hi := by
  rw [clamp]
  split
  · exact le_refl lo
  · next hlo =>
      split
      · exact h
      · exact not_lt.mp hlo

lemma clamp_le {v lo hi : K} (h : lo ≤ hi) : clamp v lo hi ≤ hi := by
  rw [clamp]
  split
  · exact h
  · split
    · exact le_refl hi
    · next hhi => exact not_lt.mp hhi

lemma clamp_eq {lo hi : K} (h : lo ≤ hi) (v : K) : clamp v lo hi = max lo (min v hi) := by
  rw [clamp]
  split
  · next hlo => exact (max_eq_left ((min_le_left v hi).trans hlo.le)).symm
  · next hlo =>
      have hle := not_lt.mp hlo
      split
      · next hhi => rw [min_eq_right hhi.le, max_eq_right h]
      · next hhi => rw [min_eq_left (not_lt.mp hhi), max_eq_right hle]

/-- A demand under a limit that is not taken below a floor. -/
def cap (demand limit floor : K) : K := min demand (max limit floor)

variable (demand limit floor : K)

lemma cap_le_demand : cap demand limit floor ≤ demand := min_le_left _ _

lemma cap_le_limit : cap demand limit floor ≤ max limit floor := min_le_right _ _

lemma le_cap_floor : min demand floor ≤ cap demand limit floor :=
  min_le_min_left demand (le_max_right limit floor)

lemma le_cap_limit : min demand limit ≤ cap demand limit floor :=
  min_le_min_left demand (le_max_left limit floor)

/-- A demand below the floor is not touched. -/
lemma cap_of_le {demand floor : K} (h : demand ≤ floor) : cap demand limit floor = demand :=
  min_eq_left (h.trans (le_max_right limit floor))

/-- A demand below the limit is not touched. -/
lemma cap_of_le_limit {demand limit : K} (h : demand ≤ limit) : cap demand limit floor = demand :=
  min_eq_left (h.trans (le_max_left limit floor))

lemma cap_mono_limit {limit limit' : K} (h : limit ≤ limit') :
    cap demand limit floor ≤ cap demand limit' floor :=
  min_le_min_left demand (max_le_max_right floor h)

end Order

section Group

variable [AddCommGroup K] [LinearOrder K] [IsOrderedAddMonoid K]

/-- From the last value towards a target, by no more than `rate`. -/
def slew (last target rate : K) : K := last + clamp (target - last) (-rate) rate

variable {rate : K} (h : 0 ≤ rate) (last target : K)
include h

lemma slew_ge : last - rate ≤ slew last target rate := by
  rw [slew, sub_eq_add_neg]
  exact add_le_add_right (clamp_ge ((neg_nonpos.mpr h).trans h)) last

lemma slew_le : slew last target rate ≤ last + rate :=
  add_le_add_right (clamp_le ((neg_nonpos.mpr h).trans h)) last

lemma slew_eq : slew last target rate = max (last - rate) (min target (last + rate)) := by
  have hbounds : -rate ≤ rate := (neg_nonpos.mpr h).trans h
  rw [slew, clamp_eq hbounds, ← max_add_add_left, ← min_add_add_left, add_sub_cancel,
    ← sub_eq_add_neg]

/-- Going to a higher target from a higher value leads higher. -/
lemma slew_mono {last last' target target' : K} (hlast : last ≤ last')
    (htarget : target ≤ target') : slew last target rate ≤ slew last' target' rate := by
  rw [slew_eq h, slew_eq h]
  exact max_le_max (sub_le_sub_right hlast rate)
    (min_le_min htarget (add_le_add_left hlast rate))

omit h

/-- The sum of some steps, newest first, held between two bounds after each. -/
def heldSum (lo hi : K) : List K → K
  | [] => 0
  | step :: past => clamp (heldSum lo hi past + step) lo hi

omit [IsOrderedAddMonoid K] in
/-- It is between the bounds. -/
lemma heldSum_bounds {lo hi : K} (hlo : lo ≤ 0) (hhi : 0 ≤ hi) (steps : List K) :
    lo ≤ heldSum lo hi steps ∧ heldSum lo hi steps ≤ hi := by
  cases steps with
  | nil => exact ⟨hlo, hhi⟩
  | cons step past => exact ⟨clamp_ge (hlo.trans hhi), clamp_le (hlo.trans hhi)⟩

end Group

end Limiter
