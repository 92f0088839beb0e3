import Mathlib.Data.List.Perm.Basic
import Mathlib.Order.Bounds.Basic
import Mathlib.Order.Lattice
import Mathlib.Order.MinMax

/-!
# The least value of each bin

An array with a value for each bin, and a loop that lowers the value of a bin for each item that
falls into the bin with a smaller one.  Afterwards each bin has the least of its first value and the
values of its items (`lowerAll_least`), whatever their order; an item beyond the array is the only
thing that can go wrong (`lowerAll_eq_none_iff`).
-/

namespace Bins

variable {α : Type*} [LinearOrder α]

/-- The value of a bin is lowered, if there is such a bin. -/
def lower (bins : List α) (index : ℤ) (x : α) : Option (List α) :=
  if h : 0 ≤ index ∧ index.toNat < bins.length then
    some (if x < bins.get ⟨index.toNat, h.2⟩ then bins.set index.toNat x else bins)
  else none

/-- The loop. -/
def lowerAll (bins : List α) (items : List (ℤ × α)) : Option (List α) :=
  items.foldlM (fun bins item => lower bins item.1 item.2) bins

variable {bins bins' : List α} {index : ℤ} {x : α}

lemma lower_eq_none_iff :
    lower bins index x = none ↔ ¬ (0 ≤ index ∧ index.toNat < bins.length) := by
  rw [lower]
  split_ifs with h <;> simp [h]

/-- The value becomes the smaller one. -/
lemma lower_eq_set (bins : List α) (index : ℤ) (x : α) :
    lower bins index x =
      if h : 0 ≤ index ∧ index.toNat < bins.length then
        some (bins.set index.toNat (min (bins.get ⟨index.toNat, h.2⟩) x))
      else none := by
  rw [lower]
  split_ifs with hinside hless
  · rw [min_eq_right hless.le]
  · rw [min_eq_left (not_lt.mp hless), List.get_eq_getElem, List.set_getElem_self]
  · rfl

lemma mem_of_mem_lower (h : lower bins index x = some bins') {y : α} (hy : y ∈ bins') :
    y ∈ bins ∨ y = x := by
  simp only [lower] at h
  split_ifs at h with hinside hless
  · obtain rfl := Option.some.inj h
    exact List.mem_or_eq_of_mem_set hy
  · exact .inl (Option.some.inj h ▸ hy)

lemma length_lower (h : lower bins index x = some bins') : bins'.length = bins.length := by
  simp only [lower] at h
  split_ifs at h with hinside hless
  · rw [← Option.some.inj h, List.length_set]
  · rw [← Option.some.inj h]

/-- Only the bin of the item changes, and to the smaller value. -/
lemma getElem_lower (h : lower bins index x = some bins') (i : ℕ) (hi : i < bins.length)
    (hi' : i < bins'.length) : bins'[i] = if index = i then min bins[i] x else bins[i] := by
  rw [lower_eq_set] at h
  split_ifs at h with hinside
  obtain rfl := Option.some.inj h
  rw [List.getElem_set]
  by_cases hindex : index = i
  · subst hindex
    simp
  · have hne : index.toNat ≠ i := fun heq => hindex (heq ▸ (Int.toNat_of_nonneg hinside.1).symm)
    rw [if_neg hne, if_neg hindex]

/-- The loop fails exactly if some item falls beyond the array. -/
theorem lowerAll_eq_none_iff (bins : List α) (items : List (ℤ × α)) :
    lowerAll bins items = none ↔
      ∃ item ∈ items, ¬ (0 ≤ item.1 ∧ item.1.toNat < bins.length) := by
  induction items generalizing bins with
  | nil => simp [lowerAll]
  | cons item items ih =>
      rw [lowerAll, List.foldlM_cons]
      cases hlower : lower bins item.1 item.2 with
      | none =>
          have houtside := lower_eq_none_iff.mp hlower
          exact iff_of_true rfl ⟨item, List.mem_cons_self, houtside⟩
      | some bins' =>
          have hinside : 0 ≤ item.1 ∧ item.1.toNat < bins.length := by
            by_contra houtside
            rw [lower_eq_none_iff.mpr houtside] at hlower
            cases hlower
          have hrest := ih bins'
          rw [lowerAll, length_lower hlower] at hrest
          rw [Option.bind_eq_bind, Option.bind_some, hrest, List.exists_mem_cons_iff,
            or_iff_right (not_not.mpr hinside)]

lemma lowerAll_cons {item : ℤ × α} {items : List (ℤ × α)} {last : List α}
    (h : lowerAll bins (item :: items) = some last) :
    ∃ bins', lower bins item.1 item.2 = some bins' ∧ lowerAll bins' items = some last := by
  rw [lowerAll, List.foldlM_cons] at h
  exact Option.bind_eq_some_iff.mp h

lemma length_lowerAll {items : List (ℤ × α)} (h : lowerAll bins items = some bins') :
    bins'.length = bins.length := by
  induction items generalizing bins with
  | nil => rw [← Option.some.inj h]
  | cons item items ih =>
      obtain ⟨bins₁, hlower, hrest⟩ := lowerAll_cons h
      rw [ih hrest, length_lower hlower]

/-- **Each bin has the least value** of those it started with and was given. -/
theorem lowerAll_least {items : List (ℤ × α)} (h : lowerAll bins items = some bins') (i : ℕ)
    (hi : i < bins.length) (hi' : i < bins'.length) :
    IsLeast {x | x = bins[i] ∨ ((i : ℤ), x) ∈ items} bins'[i] := by
  induction items generalizing bins with
  | nil =>
      obtain rfl := Option.some.inj h
      simp [IsLeast, lowerBounds]
  | cons item items ih =>
      obtain ⟨bins₁, hlower, hrest⟩ := lowerAll_cons h
      have hi₁ : i < bins₁.length := length_lower hlower ▸ hi
      obtain ⟨hmem, hleast⟩ := ih hrest hi₁
      rw [getElem_lower hlower i hi hi₁] at hmem hleast
      constructor
      · rcases hmem with hmem | hmem
        · split_ifs at hmem with hindex
          · rcases min_choice bins[i] item.2 with hmin | hmin
            · exact .inl (hmem.trans hmin)
            · refine .inr ?_
              rw [hmem.trans hmin, ← hindex]
              exact List.mem_cons_self
          · exact .inl hmem
        · exact .inr (List.mem_cons_of_mem _ hmem)
      · rintro y (rfl | hy)
        · refine (hleast (.inl rfl)).trans ?_
          split_ifs
          · exact min_le_left ..
          · exact le_rfl
        · rcases List.mem_cons.mp hy with rfl | hy
          · exact (hleast (.inl rfl)).trans (by simp)
          · exact hleast (.inr hy)

/-- It does not matter in which order the items come. -/
theorem lowerAll_perm {items items' : List (ℤ × α)} (hperm : items.Perm items') (bins : List α) :
    lowerAll bins items = lowerAll bins items' := by
  cases h : lowerAll bins items with
  | none =>
      rw [lowerAll_eq_none_iff] at h
      refine Eq.symm ((lowerAll_eq_none_iff ..).mpr ?_)
      obtain ⟨item, hitem, houtside⟩ := h
      exact ⟨item, hperm.subset hitem, houtside⟩
  | some last =>
      cases h' : lowerAll bins items' with
      | none =>
          obtain ⟨item, hitem, houtside⟩ := (lowerAll_eq_none_iff ..).mp h'
          rw [(lowerAll_eq_none_iff ..).mpr ⟨item, hperm.symm.subset hitem, houtside⟩] at h
          cases h
      | some last' =>
          refine congrArg some (List.ext_getElem ?_ fun i hi hi' => ?_)
          · rw [length_lowerAll h, length_lowerAll h']
          · have hbins : i < bins.length := length_lowerAll h ▸ hi
            have hleast := lowerAll_least h i hbins hi
            simp only [hperm.mem_iff] at hleast
            exact hleast.unique (lowerAll_least h' i hbins hi')

end Bins
