import SentryNav.Core.Limiter
import Mathlib.Algebra.Order.Field.Basic
import Mathlib.Data.List.Sort

/-!
# Places on a polyline

A polyline is measured by marks: the first point has the mark zero, and each further point that of
the one before and the length between.  To find the place with a given arc length, one looks for the
first mark that is not less, and divides the segment that ends there.

* `locate` is this search; `locate_between` says which segment it finds, also if points are
  repeated.
* `between_lt`: places further along by arc length are on later segments, or later on the same one.
* `mark_locate`: the place that is found has the arc length that was asked for, or that of the end
  which is nearer if the polyline does not go so far.
-/

namespace Polyline

open Limiter

variable {K : Type*} [Field K] [LinearOrder K]

/-- The marks of the points, from the lengths of the segments. -/
def marks (lengths : List K) : List K := lengths.scanl (· + ·) 0

/-- The mark of the last point. -/
def total (marks : List K) : K := marks.getLast?.getD 0

/-- A place on a polyline: one of its ends, or on a segment, counted from zero, at a ratio. -/
inductive Place (K : Type*)
  | start
  | stop
  | between (k : ℕ) (ratio : K)

/-- The arc length from the first point to a place. -/
def Place.mark (marks : List K) : Place K → K
  | .start => 0
  | .stop => total marks
  | .between k ratio =>
      marks[k]?.getD 0 + ratio * (marks[k + 1]?.getD 0 - marks[k]?.getD 0)

/-- The place with an arc length. -/
def locate (marks : List K) (target : K) : Place K :=
  if target ≤ 0 then .start
  else if total marks ≤ target then .stop
  else
    let index := marks.findIdx fun d => ¬ d < target
    if index = 0 then .start
    else
      let before := marks[index - 1]?.getD 0
      let after := marks[index]?.getD 0
      .between (index - 1) ((target - before) / (after - before))

/-! ## Marks -/

section Marks

variable [IsOrderedAddMonoid K] {lengths : List K} (h : ∀ l ∈ lengths, 0 ≤ l)
include h

lemma le_of_mem_scanl {first x : K} (hx : x ∈ lengths.scanl (· + ·) first) : first ≤ x := by
  induction lengths generalizing first with
  | nil =>
      rw [List.scanl_nil, List.mem_singleton] at hx
      exact hx.ge
  | cons l lengths ih =>
      rw [List.scanl_cons, List.mem_cons] at hx
      rcases hx with rfl | hx
      · exact le_rfl
      · have hnext := ih (fun l' hl' => h l' (List.mem_cons_of_mem l hl')) hx
        exact (le_add_of_nonneg_right (h l List.mem_cons_self)).trans hnext

lemma scanl_le_last {first x : K} (hx : x ∈ lengths.scanl (· + ·) first) :
    x ≤ lengths.foldl (· + ·) first := by
  induction lengths generalizing first with
  | nil =>
      rw [List.scanl_nil, List.mem_singleton] at hx
      exact hx.le
  | cons l lengths ih =>
      have hrest : ∀ l' ∈ lengths, 0 ≤ l' := fun l' hl' => h l' (List.mem_cons_of_mem l hl')
      rw [List.scanl_cons, List.mem_cons] at hx
      rcases hx with rfl | hx
      · have hlast : (l :: lengths).foldl (· + ·) x ∈ (l :: lengths).scanl (· + ·) x :=
          List.mem_of_getLast? List.getLast?_scanl
        exact le_of_mem_scanl h hlast
      · exact ih hrest hx

/-- The marks go from zero to the mark of the last point. -/
lemma marks_bounds {x : K} (hx : x ∈ marks lengths) : 0 ≤ x ∧ x ≤ total (marks lengths) := by
  refine ⟨le_of_mem_scanl h hx, ?_⟩
  rw [total, marks, List.getLast?_scanl]
  exact scanl_le_last h hx

lemma scanl_sorted (first : K) : (lengths.scanl (· + ·) first).Pairwise (· ≤ ·) := by
  induction lengths generalizing first with
  | nil => exact List.pairwise_singleton _ _
  | cons l lengths ih =>
      have hrest : ∀ l' ∈ lengths, 0 ≤ l' := fun l' hl' => h l' (List.mem_cons_of_mem l hl')
      rw [List.scanl_cons, List.pairwise_cons]
      refine ⟨fun x hx => ?_, ih hrest _⟩
      exact (le_add_of_nonneg_right (h l List.mem_cons_self)).trans (le_of_mem_scanl hrest hx)

/-- The marks do not go back. -/
lemma marks_sorted : (marks lengths).SortedLE := (scanl_sorted h 0).sortedLE

end Marks

/-! ## Places in order -/

section Order

variable [IsStrictOrderedRing K] {marks : List K} (hsorted : marks.SortedLE)
include hsorted

/-- **Further along by arc length is further along the segments**: on a later one, or on the same
one at a larger ratio.  Segments without a length have no places. -/
theorem between_lt {k k' : ℕ} {before after before' after' ratio ratio' : K}
    (hbefore : marks[k]? = some before) (hafter : marks[k + 1]? = some after)
    (hbefore' : marks[k']? = some before') (hafter' : marks[k' + 1]? = some after')
    (hlength : before < after) (hratio : 0 < ratio) (hratio' : ratio' ≤ 1)
    (hlt : (Place.between k ratio).mark marks < (Place.between k' ratio').mark marks) :
    k < k' ∨ k = k' ∧ ratio < ratio' := by
  have hmono : ∀ {i j : ℕ} {d e : K}, i ≤ j → marks[i]? = some d → marks[j]? = some e → d ≤ e := by
    intro i j d e hij hd he
    obtain ⟨hi, rfl⟩ := List.getElem?_eq_some_iff.mp hd
    obtain ⟨hj, rfl⟩ := List.getElem?_eq_some_iff.mp he
    exact hsorted.getElem_le_getElem_of_le hij
  simp only [Place.mark, hbefore, hafter, hbefore', hafter', Option.getD_some] at hlt
  rcases lt_trichotomy k k' with hk | rfl | hk
  · exact .inl hk
  · rw [hbefore] at hbefore'
    rw [hafter] at hafter'
    obtain rfl := Option.some_inj.mp hbefore'
    obtain rfl := Option.some_inj.mp hafter'
    exact .inr ⟨rfl, lt_of_mul_lt_mul_right (lt_of_add_lt_add_left hlt) (sub_pos.mpr hlength).le⟩
  · -- the other place is not behind the beginning of this segment
    have hend : before' + ratio' * (after' - before') ≤ before := by
      have hpart : ratio' * (after' - before') ≤ after' - before' :=
        mul_le_of_le_one_left (sub_nonneg.mpr (hmono k'.le_succ hbefore' hafter')) hratio'
      exact (add_le_add_right hpart before').trans
        ((add_sub_cancel before' after').trans_le (hmono hk hafter' hbefore))
    have hstart : before < before + ratio * (after - before) :=
      lt_add_of_pos_right before (mul_pos hratio (sub_pos.mpr hlength))
    exact absurd (hlt.trans_le hend) hstart.not_gt

end Order

/-! ## The place with an arc length -/

section Locate

variable {marks : List K} {target : K}

/-- **The segment that is found**, for a target inside: it begins before the target, and it does not
end before it. -/
theorem locate_between (hhead : marks.head? = some 0) (hpos : 0 < target)
    (htotal : target < total marks) :
    ∃ k before after, marks[k]? = some before ∧ marks[k + 1]? = some after ∧ before < target ∧
      target ≤ after ∧ locate marks target = .between k ((target - before) / (after - before)) := by
  have hne : marks ≠ [] := List.ne_nil_of_mem (List.mem_of_head? hhead)
  have hlast : total marks = marks.getLast hne := by
    rw [total, List.getLast?_eq_some_getLast hne, Option.getD_some]
  have hreach : ∃ d ∈ marks, decide (¬ d < target) = true :=
    ⟨marks.getLast hne, List.getLast_mem hne, decide_eq_true (hlast ▸ htotal.not_gt)⟩
  obtain ⟨index, hindex⟩ : ∃ index, marks.findIdx (fun d => ¬ d < target) = index := ⟨_, rfl⟩
  have hlt : index < marks.length := hindex ▸ List.findIdx_lt_length_of_exists hreach
  have hafter : target ≤ marks[index] := by
    subst hindex
    exact not_lt.mp (of_decide_eq_true (List.findIdx_getElem (w := hlt)))
  cases index with
  | zero =>
      -- the first mark is zero
      rw [List.head?_eq_getElem?, List.getElem?_eq_getElem hlt, Option.some_inj] at hhead
      exact absurd (hhead ▸ hafter) hpos.not_ge
  | succ k =>
      have hk : k < marks.length := (Nat.lt_succ_self k).trans hlt
      have hearlier : k < marks.findIdx fun d => ¬ d < target := hindex ▸ Nat.lt_succ_self k
      have hbefore : marks[k] < target := by simpa using List.not_of_lt_findIdx hearlier
      refine ⟨k, marks[k], marks[k + 1], List.getElem?_eq_getElem hk, List.getElem?_eq_getElem hlt,
        hbefore, hafter, ?_⟩
      rw [locate, if_neg hpos.not_ge, if_neg htotal.not_ge, hindex, if_neg k.succ_ne_zero]
      simp only [Nat.add_sub_cancel, List.getElem?_eq_getElem hk, List.getElem?_eq_getElem hlt,
        Option.getD_some]

/-- **The place that is found has the arc length that was asked for**, within the polyline. -/
theorem mark_locate (hhead : marks.head? = some 0) (htotal : 0 ≤ total marks) :
    (locate marks target).mark marks = clamp target 0 (total marks) := by
  rw [clamp_eq htotal]
  rcases le_or_gt target 0 with hstart | hpos
  · rw [locate, if_pos hstart, max_eq_left ((min_le_left _ _).trans hstart)]
    rfl
  · rcases le_or_gt (total marks) target with hstop | hinside
    · rw [locate, if_neg hpos.not_ge, if_pos hstop, min_eq_right hstop, max_eq_right htotal]
      rfl
    · obtain ⟨k, before, after, hbefore, hafter, hlt, hle, hlocate⟩ :=
        locate_between hhead hpos hinside
      have hlength : after - before ≠ 0 := sub_ne_zero.mpr (hlt.trans_le hle).ne'
      rw [hlocate, Place.mark, hbefore, hafter, Option.getD_some, Option.getD_some,
        div_mul_cancel₀ _ hlength, add_sub_cancel, min_eq_left hinside.le, max_eq_right hpos.le]

end Locate

end Polyline
