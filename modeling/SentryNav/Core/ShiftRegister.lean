import Mathlib.Algebra.BigOperators.Group.Finset.Basic
import Mathlib.Algebra.Field.ZMod
import Mathlib.Algebra.Module.LinearMap.End
import Mathlib.Algebra.Ring.Parity
import Mathlib.Tactic.Abel

/-!
# Linear shift registers, and the errors they detect

A register is fed bits: each is added to its contents at the *tap*, and then the contents go through
one *step*, a linear map.  By linearity the contents in the end are a sum over the bits fed, each
having gone through as many steps as were left (`feed_eq`), and two strings leave the same contents
just when the places where they differ sum up to zero (`feed_eq_feed_iff`).

Of which places can this be?  A `Detector` is a register with what is needed to answer that: a
parity that no step changes, steps that lose nothing, and contents from which the steps lead to the
tap, one after another.

* `sum_ne_zero_of_odd`: not of an odd number of places.
* `sum_ne_zero_of_pair`: not of two, if it takes the tap longer than their distance to come back.
* `sum_ne_zero_of_burst`: not of places that lie within the width of the register.
-/

namespace ShiftRegister

open Finset

variable {V : Type*} [AddCommGroup V] [Module (ZMod 2) V]

/-- A register: what one step does to its contents, and where bits enter. -/
structure Register (V : Type*) [AddCommGroup V] [Module (ZMod 2) V] where
  step : V →ₗ[ZMod 2] V
  tap : V

/-- Feed the first bits to a register that holds `r`. -/
def feed (R : Register V) (bits : ℕ → ZMod 2) (r : V) : ℕ → V
  | 0 => r
  | n + 1 => R.step (feed R bits r n + bits n • R.tap)

variable {R : Register V} {bits bits' : ℕ → ZMod 2} {r : V} {n : ℕ}

/-- What a bit at a place contributes in the end. -/
def echo (R : Register V) (n p : ℕ) : V := (R.step ^ (n - p)) R.tap

lemma step_echo (R : Register V) {p : ℕ} (hp : p ≤ n) :
    R.step (echo R n p) = echo R (n + 1) p := by
  rw [echo, echo, Nat.succ_sub hp, pow_succ', Module.End.mul_apply]

/-- **The contents in the end** are those at first, all steps later, and what the bits
contribute. -/
theorem feed_eq (R : Register V) (bits : ℕ → ZMod 2) (r : V) (n : ℕ) :
    feed R bits r n = (R.step ^ n) r + ∑ p ∈ range n, bits p • echo R n p := by
  induction n with
  | zero => simp [feed]
  | succ n ih =>
      have hold : ∀ p ∈ range n, R.step (bits p • echo R n p) = bits p • echo R (n + 1) p := by
        intro p hp
        rw [map_smul, step_echo R (mem_range.mp hp).le]
      have hnew : R.step R.tap = echo R (n + 1) n := by simp [echo]
      rw [feed, ih, map_add, map_add, map_sum, sum_congr rfl hold, map_smul, hnew,
        sum_range_succ, pow_succ', Module.End.mul_apply, add_assoc]

/-- Feeding on. -/
lemma feed_add (R : Register V) (bits : ℕ → ZMod 2) (r : V) (n k : ℕ) :
    feed R bits r (n + k) = feed R (fun p => bits (n + p)) (feed R bits r n) k := by
  induction k with
  | zero => rfl
  | succ k ih => rw [← Nat.add_assoc, feed, feed, ih]

/-- Only the bits fed matter. -/
lemma feed_congr (h : ∀ p < n, bits p = bits' p) : feed R bits r n = feed R bits' r n := by
  induction n with
  | zero => rfl
  | succ n ih => rw [feed, feed, ih fun p hp => h p (Nat.lt_succ_of_lt hp), h n n.lt_succ_self]

/-- The places where two strings differ. -/
def differing (bits bits' : ℕ → ZMod 2) (n : ℕ) : Finset ℕ :=
  (range n).filter fun p => bits p ≠ bits' p

lemma mem_differing {p : ℕ} : p ∈ differing bits bits' n ↔ p < n ∧ bits p ≠ bits' p := by
  rw [differing, mem_filter, mem_range]

/-- **Two strings leave the same contents** just when what the places contribute in which they
differ sums up to zero. -/
theorem feed_eq_feed_iff :
    feed R bits r n = feed R bits' r n ↔ ∑ p ∈ differing bits bits' n, echo R n p = 0 := by
  have hbit : ∀ x y : ZMod 2, x - y = if x ≠ y then 1 else 0 := by decide
  have hdiff : feed R bits r n - feed R bits' r n
      = ∑ p ∈ differing bits bits' n, echo R n p := by
    rw [feed_eq, feed_eq, add_sub_add_left_eq_sub, ← sum_sub_distrib, differing, sum_filter]
    refine sum_congr rfl fun p _ => ?_
    rw [← sub_smul, hbit, ite_smul, one_smul, zero_smul]
  rw [← hdiff, sub_eq_zero]

/-! ## Detecting errors -/

/-- A register that detects errors. -/
structure Detector (V : Type*) [AddCommGroup V] [Module (ZMod 2) V] extends Register V where
  parity : V →ₗ[ZMod 2] ZMod 2
  parity_step : ∀ v, parity (step v) = parity v
  parity_tap : parity tap = 1
  step_injective : Function.Injective step
  /-- How many bits the register has. -/
  width : ℕ
  /-- The contents that so many steps lead to the tap. -/
  before : ℕ → V
  step_before : ∀ i < width, (step ^ i) (before i) = tap
  before_ne_zero : ∀ s : Finset ℕ, s.Nonempty → (∀ i ∈ s, i < width) → ∑ i ∈ s, before i ≠ 0

variable (R : Detector V) {D : Finset ℕ}

/-- Bits may enter one at a time or, up to the width, all at once. -/
theorem feed_at_once (bits : ℕ → ZMod 2) (r : V) {n : ℕ} (hn : n ≤ R.width) :
    (R.step ^ n) (r + ∑ p ∈ range n, bits p • R.before p) = feed R.toRegister bits r n := by
  have hecho : ∀ p ∈ range n,
      bits p • (R.step ^ n) (R.before p) = bits p • echo R.toRegister n p := by
    intro p hp
    have hlt := mem_range.mp hp
    have hsplit : n = (n - p) + p := by omega
    rw [echo, ← R.step_before p (by omega), ← Module.End.mul_apply, ← pow_add, ← hsplit]
  rw [map_add, map_sum, feed_eq]
  simp only [map_smul]
  rw [sum_congr rfl hecho]

lemma parity_echo (n p : ℕ) : R.parity (echo R.toRegister n p) = 1 := by
  rw [echo]
  induction n - p with
  | zero => rw [pow_zero, Module.End.one_apply, R.parity_tap]
  | succ k ih => rw [pow_succ', Module.End.mul_apply, R.parity_step, ih]

/-- An odd number of places. -/
theorem sum_ne_zero_of_odd (hodd : Odd D.card) : ∑ p ∈ D, echo R.toRegister n p ≠ 0 := by
  intro hzero
  have hparity := congrArg R.parity hzero
  rw [map_sum, sum_congr rfl fun p _ => parity_echo R n p, sum_const, map_zero, nsmul_one,
    ZMod.natCast_eq_zero_iff_even] at hparity
  exact Nat.not_even_iff_odd.mpr hodd hparity

lemma pow_injective (k : ℕ) : Function.Injective (R.step ^ k) := by
  rw [Module.End.coe_pow]
  exact R.step_injective.iterate k

/-- Two places at a distance in which the tap does not come back. -/
theorem sum_ne_zero_of_pair (hperiod : ∀ d, 0 < d → d < n → (R.step ^ d) R.tap ≠ R.tap) {p q : ℕ}
    (hpq : p < q) (hq : q < n) : ∑ p ∈ {p, q}, echo R.toRegister n p ≠ 0 := by
  have hchar : ∀ v w : V, v + w = 0 → v = w := by
    intro v w h
    have htwo : w + w = 0 := by
      rw [← two_smul (ZMod 2) w, show (2 : ZMod 2) = 0 from rfl, zero_smul]
    exact add_right_cancel (h.trans htwo.symm)
  intro hzero
  rw [sum_pair hpq.ne] at hzero
  have hmore : n - p = (n - q) + (q - p) := by omega
  have heq := hchar _ _ hzero
  rw [echo, echo, hmore, pow_add, Module.End.mul_apply] at heq
  exact hperiod (q - p) (by omega) (by omega) (pow_injective R (n - q) heq)

/-- Places within the width of the register. -/
theorem sum_ne_zero_of_burst {p : ℕ} (hne : D.Nonempty)
    (hD : ∀ q ∈ D, p ≤ q ∧ q < p + R.width ∧ q < n) : ∑ q ∈ D, echo R.toRegister n q ≠ 0 := by
  have hecho : ∀ q ∈ D, echo R.toRegister n q = (R.step ^ (n - p)) (R.before (q - p)) := by
    intro q hq
    obtain ⟨hpq, hwidth, hn⟩ := hD q hq
    have hsplit : n - p = (n - q) + (q - p) := by omega
    rw [echo, hsplit, pow_add, Module.End.mul_apply, R.step_before (q - p) (by omega)]
  have hinj : Set.InjOn (fun q => q - p) D := by
    intro q hq q' hq' heq
    have := (hD q hq).1
    have := (hD q' hq').1
    dsimp only at heq
    omega
  rw [sum_congr rfl hecho, ← map_sum, ← sum_image (f := R.before) hinj]
  intro hzero
  refine R.before_ne_zero (D.image fun q => q - p) (hne.image _) (fun i hi => ?_)
    (pow_injective R _ (hzero.trans (map_zero _).symm))
  obtain ⟨q, hq, rfl⟩ := mem_image.mp hi
  have := hD q hq
  omega

/-- **What a detector detects**: strings that differ in at most three places, or in an odd number of
them, or within the width of the register, if they are not too long for the tap. -/
theorem feed_ne_feed {bits bits' : ℕ → ZMod 2} {r : V}
    (hperiod : ∀ d, 0 < d → d < n → (R.step ^ d) R.tap ≠ R.tap)
    (hne : (differing bits bits' n).Nonempty)
    (herr : (differing bits bits' n).card ≤ 3 ∨ Odd (differing bits bits' n).card ∨
      ∃ p, ∀ q ∈ differing bits bits' n, p ≤ q ∧ q < p + R.width) :
    feed R.toRegister bits r n ≠ feed R.toRegister bits' r n := by
  rw [Ne, feed_eq_feed_iff]
  rcases herr with hfew | hodd | ⟨p, hburst⟩
  · have hpos := hne.card_pos
    by_cases htwo : (differing bits bits' n).card = 2
    · obtain ⟨p, q, hpq, hD⟩ := card_eq_two.mp htwo
      have hp : p < n := (mem_differing.mp (hD ▸ mem_insert_self p {q})).1
      have hq : q < n := (mem_differing.mp (hD ▸ mem_insert_of_mem (mem_singleton_self q))).1
      rw [hD]
      rcases Nat.lt_or_gt_of_ne hpq with hlt | hgt
      · exact sum_ne_zero_of_pair R hperiod hlt hq
      · rw [pair_comm]
        exact sum_ne_zero_of_pair R hperiod hgt hp
    · refine sum_ne_zero_of_odd R ?_
      rw [Nat.odd_iff]
      omega
  · exact sum_ne_zero_of_odd R hodd
  · refine sum_ne_zero_of_burst R (p := p) hne fun q hq => ?_
    exact ⟨(hburst q hq).1, (hburst q hq).2, (mem_differing.mp hq).1⟩

end ShiftRegister
