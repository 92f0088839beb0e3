import Mathlib.Data.List.Sort

/-!
# `std::lower_bound`

The search halves a range until nothing is left of it.  It asks that the range is divided: first
come the elements that are less, then those that are not.  Then what it returns is where the second
part begins, also if elements are repeated (`halving_spec`); for a sorted list this is the first
element that is not less (`lowerBound_eq_findIdx`).
-/

namespace LowerBound

/-- The loop: `len` places from `first` on are left to search. -/
def halving (less : ℕ → Bool) (first len : ℕ) : ℕ :=
  if len = 0 then first
  else
    if less (first + len / 2) then halving less (first + len / 2 + 1) (len - len / 2 - 1)
    else halving less first (len / 2)
termination_by len
decreasing_by all_goals omega

/-- **Where the search ends**: what comes before is less, and nothing from there on is. -/
theorem halving_spec {less : ℕ → Bool}
    (hdivided : ∀ i j, i ≤ j → less j = true → less i = true) (first len : ℕ) :
    first ≤ halving less first len ∧ halving less first len ≤ first + len ∧
      (∀ i, first ≤ i → i < halving less first len → less i = true) ∧
      (∀ i, halving less first len ≤ i → i < first + len → less i = false) := by
  fun_induction halving less first len with
  | case1 first =>
      exact ⟨le_rfl, le_rfl, fun i hfirst hlt => absurd hlt (by omega),
        fun i hfirst hlt => absurd hlt (by omega)⟩
  | case2 first len hlen hless ih =>
      obtain ⟨hlow, hhigh, hbefore, hafter⟩ := ih
      refine ⟨by omega, by omega, fun i hfirst hlt => ?_, fun i hle hlt => hafter i hle (by omega)⟩
      rcases Nat.lt_or_ge i (first + len / 2 + 1) with hi | hi
      · exact hdivided i (first + len / 2) (by omega) hless
      · exact hbefore i hi hlt
  | case3 first len hlen hnot ih =>
      obtain ⟨hlow, hhigh, hbefore, hafter⟩ := ih
      refine ⟨hlow, by omega, hbefore, fun i hle hlt => ?_⟩
      rcases Nat.lt_or_ge i (first + len / 2) with hi | hi
      · exact hafter i hle hi
      · exact Bool.eq_false_iff.mpr fun hless => hnot (hdivided (first + len / 2) i hi hless)

variable {α : Type*} [LinearOrder α]

/-- `std::lower_bound` in a list, as an index. -/
def lowerBound (l : List α) (v : α) : ℕ := halving (fun i => l[i]?.any (· < v)) 0 l.length

/-- **In a sorted list it finds the first element that is not less.** -/
theorem lowerBound_eq_findIdx {l : List α} (hsorted : l.SortedLE) (v : α) :
    lowerBound l v = l.findIdx fun x => ¬ x < v := by
  have hdivided : ∀ i j : ℕ, i ≤ j → l[j]?.any (· < v) = true → l[i]?.any (· < v) = true := by
    intro i j hij hj
    obtain ⟨x, hx, hless⟩ := (Option.any_eq_true _ _).mp hj
    obtain ⟨hjlt, rfl⟩ := List.getElem?_eq_some_iff.mp hx
    have hle : l[i] ≤ l[j] := hsorted.getElem_le_getElem_of_le hij
    rw [List.getElem?_eq_getElem (hij.trans_lt hjlt), Option.any_some]
    exact decide_eq_true (hle.trans_lt (of_decide_eq_true hless))
  obtain ⟨-, hhigh, hbefore, hafter⟩ := halving_spec hdivided 0 l.length
  rw [Nat.zero_add] at hhigh hafter
  refine le_antisymm (not_lt.mp fun hlt => ?_) (not_lt.mp fun hlt => ?_)
  · have hfound := List.findIdx_getElem (w := hlt.trans_le hhigh)
    have hless := hbefore _ (Nat.zero_le _) hlt
    rw [List.getElem?_eq_getElem (hlt.trans_le hhigh), Option.any_some] at hless
    exact of_decide_eq_true hfound (of_decide_eq_true hless)
  · have hin := hlt.trans_le List.findIdx_le_length
    have hless : l[lowerBound l v] < v := by simpa using List.not_of_lt_findIdx hlt
    have hnot := hafter _ le_rfl hin
    rw [← lowerBound, List.getElem?_eq_getElem hin, Option.any_some] at hnot
    exact of_decide_eq_false hnot hless

end LowerBound
