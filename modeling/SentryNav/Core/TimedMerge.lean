import Mathlib.Data.List.Induction
import Mathlib.Data.List.TakeWhile
import Mathlib.Order.Lattice

/-!
# Putting two timed streams together

Two streams, each in the order of its times, become one: before each thing of the second stream come
the things of the first that are earlier.  What is not earlier than the last of the second stream is
left over.  `merge_append` is that a stream can be put together while the first still arrives, as
long as nothing arrives too late.
-/

namespace TimedMerge

variable {α β K : Type*} [LinearOrder K] (timeA : α → K) (timeB : β → K)

/-- Whether something of the first stream is earlier than a time. -/
def earlier (t : K) (a : α) : Bool := timeA a < t

/-- The next thing of the second stream comes, behind all that is earlier. -/
def tell (s : List (α ⊕ β) × List α) (b : β) : List (α ⊕ β) × List α :=
  (s.1 ++ ((s.2.takeWhile (earlier timeA (timeB b))).map .inl ++ [.inr b]),
    s.2.dropWhile (earlier timeA (timeB b)))

/-- The two streams as one, and what is left of the first. -/
def merge (as : List α) (bs : List β) : List (α ⊕ β) × List α :=
  bs.foldl (tell timeA timeB) ([], as)

variable {timeA timeB}

/-- The time of a thing of either stream. -/
def time (timeA : α → K) (timeB : β → K) : α ⊕ β → K := Sum.elim timeA timeB

/-- A thing comes before another: not later, and earlier if it is of the first stream and the other
of the second. -/
def Before (timeA : α → K) (timeB : β → K) : α ⊕ β → α ⊕ β → Prop
  | .inl a, .inr b => timeA a < timeB b
  | x, y => time timeA timeB x ≤ time timeA timeB y

@[simp] lemma merge_nil (as : List α) : merge timeA timeB as [] = ([], as) := rfl

lemma merge_concat (as : List α) (bs : List β) (b : β) :
    merge timeA timeB as (bs ++ [b]) = tell timeA timeB (merge timeA timeB as bs) b := by
  rw [merge, List.foldl_append]
  rfl

/-! ## Arrivals -/

lemma takeWhile_append_of_not_earlier {t : K} {more : List α} (as : List α)
    (h : ∀ a ∈ more, t ≤ timeA a) :
    (as ++ more).takeWhile (earlier timeA t) = as.takeWhile (earlier timeA t) ∧
      (as ++ more).dropWhile (earlier timeA t) = as.dropWhile (earlier timeA t) ++ more := by
  induction as with
  | nil =>
      cases more with
      | nil => simp
      | cons a more =>
          have hnot : earlier timeA t a = false :=
            decide_eq_false (not_lt.mpr (h a List.mem_cons_self))
          simp [hnot]
  | cons a as ih =>
      cases ha : earlier timeA t a with
      | false => simp [ha]
      | true => simp [ha, ih]

/-- What arrives later makes no difference, if it is not too late. -/
lemma merge_append {as more : List α} {bs : List β} (h : ∀ b ∈ bs, ∀ a ∈ more, timeB b ≤ timeA a) :
    merge timeA timeB (as ++ more) bs
      = ((merge timeA timeB as bs).1, (merge timeA timeB as bs).2 ++ more) := by
  induction bs using List.reverseRecOn with
  | nil => rfl
  | append_singleton bs b ih =>
      have hbs : ∀ b' ∈ bs, ∀ a ∈ more, timeB b' ≤ timeA a := fun b' hb' =>
        h b' (List.mem_append_left _ hb')
      have hb := takeWhile_append_of_not_earlier (merge timeA timeB as bs).2
        (h b (List.mem_append_right _ List.mem_cons_self))
      rw [merge_concat, merge_concat, ih hbs, tell, hb.1, hb.2]
      rfl

/-! ## Nothing is lost -/

lemma merge_left (as : List α) (bs : List β) :
    (merge timeA timeB as bs).1.filterMap Sum.getLeft? ++ (merge timeA timeB as bs).2 = as := by
  induction bs using List.reverseRecOn with
  | nil => rfl
  | append_singleton bs b ih =>
      have hleft : ∀ l : List α, (l.map (Sum.inl : α → α ⊕ β)).filterMap Sum.getLeft? = l := by
        intro l
        rw [List.filterMap_map]
        exact List.filterMap_some
      rw [merge_concat, tell, List.filterMap_append, List.filterMap_append, hleft]
      simp only [List.filterMap_cons, Sum.getLeft?_inr, List.filterMap_nil, List.append_nil]
      rw [List.append_assoc, List.takeWhile_append_dropWhile, ih]

lemma merge_right (as : List α) (bs : List β) :
    (merge timeA timeB as bs).1.filterMap Sum.getRight? = bs := by
  induction bs using List.reverseRecOn with
  | nil => rfl
  | append_singleton bs b ih =>
      have hright : ∀ l : List α, (l.map (Sum.inl : α → α ⊕ β)).filterMap Sum.getRight? = [] := by
        intro l
        rw [List.filterMap_map]
        exact List.filterMap_eq_nil_iff.mpr fun _ _ => rfl
      rw [merge_concat, tell, List.filterMap_append, List.filterMap_append, hright, ih]
      rfl

/-- What has been put together comes from the two streams. -/
lemma mem_of_mem_merge {as : List α} {bs : List β} {x : α ⊕ β}
    (h : x ∈ (merge timeA timeB as bs).1) : Sum.elim (· ∈ as) (· ∈ bs) x := by
  have hleft : (merge timeA timeB as bs).1.filterMap Sum.getLeft? ++ (merge timeA timeB as bs).2
      = as := merge_left as bs
  have hright : (merge timeA timeB as bs).1.filterMap Sum.getRight? = bs := merge_right as bs
  cases x with
  | inl a => exact hleft ▸ List.mem_append_left _ (List.mem_filterMap.mpr ⟨_, h, rfl⟩)
  | inr b => exact hright ▸ List.mem_filterMap.mpr ⟨_, h, rfl⟩

/-! ## Order -/

/-- What is left over of the first stream is not earlier than anything of the second. -/
lemma merge_rest {as : List α} {bs : List β} (has : as.Pairwise fun a a' => timeA a ≤ timeA a') :
    ∀ b ∈ bs, ∀ a ∈ (merge timeA timeB as bs).2, timeB b ≤ timeA a := by
  induction bs using List.reverseRecOn with
  | nil => simp
  | append_singleton bs b ih =>
      have hsuffix : (merge timeA timeB as bs).2 <:+ as := ⟨_, merge_left as bs⟩
      have hrest : ((merge timeA timeB as bs).2.dropWhile (earlier timeA (timeB b))) <:+
          (merge timeA timeB as bs).2 := List.dropWhile_suffix _
      rw [merge_concat]
      intro b' hb' a ha
      rcases List.mem_append.mp hb' with hb' | hb'
      · exact ih b' hb' a (hrest.subset ha)
      · obtain rfl := List.mem_singleton.mp hb'
        have hsorted := has.sublist (hrest.trans hsuffix).sublist
        change a ∈ (merge timeA timeB as bs).2.dropWhile (earlier timeA (timeB b')) at ha
        cases hl : (merge timeA timeB as bs).2.dropWhile (earlier timeA (timeB b')) with
        | nil => simp [hl] at ha
        | cons first l =>
            have hfirst : timeB b' ≤ timeA first := by
              have hnot := List.head?_dropWhile_not (earlier timeA (timeB b'))
                (merge timeA timeB as bs).2
              rw [hl] at hnot
              simpa [earlier] using hnot
            rw [hl] at ha hsorted
            rcases List.mem_cons.mp ha with rfl | ha
            · exact hfirst
            · exact hfirst.trans ((List.pairwise_cons.mp hsorted).1 a ha)

/-- What has been put in place from the first stream is earlier than something of the second. -/
lemma merge_early {as : List α} {bs : List β} {a : α} (ha : .inl a ∈ (merge timeA timeB as bs).1) :
    ∃ b ∈ bs, timeA a < timeB b := by
  induction bs using List.reverseRecOn with
  | nil => simp at ha
  | append_singleton bs b ih =>
      rw [merge_concat] at ha
      rcases List.mem_append.mp ha with ha | ha
      · obtain ⟨b', hb', hlt⟩ := ih ha
        exact ⟨b', List.mem_append_left _ hb', hlt⟩
      · have hmem : a ∈ (merge timeA timeB as bs).2.takeWhile (earlier timeA (timeB b)) := by
          simpa using ha
        have hlt := List.mem_takeWhile_imp hmem
        exact ⟨b, List.mem_append_right _ List.mem_cons_self, of_decide_eq_true hlt⟩

/-- **The streams are put together in the order of their times.** -/
theorem merge_sorted {as : List α} {bs : List β} (has : as.Pairwise fun a a' => timeA a ≤ timeA a')
    (hbs : bs.Pairwise fun b b' => timeB b ≤ timeB b') :
    (merge timeA timeB as bs).1.Pairwise (Before timeA timeB) := by
  induction bs using List.reverseRecOn with
  | nil => exact List.Pairwise.nil
  | append_singleton bs b ih =>
      obtain ⟨hbs, -, hlast⟩ := List.pairwise_append.mp hbs
      have hleft : (merge timeA timeB as bs).1.filterMap Sum.getLeft? ++ (merge timeA timeB as bs).2
          = as := merge_left as bs
      have hright : (merge timeA timeB as bs).1.filterMap Sum.getRight? = bs := merge_right as bs
      have hrest : ∀ b ∈ bs, ∀ a ∈ (merge timeA timeB as bs).2, timeB b ≤ timeA a :=
        merge_rest has
      have hearly : ∀ a, .inl a ∈ (merge timeA timeB as bs).1 → ∃ b ∈ bs, timeA a < timeB b :=
        fun a ha => merge_early ha
      rw [merge_concat]
      generalize merge timeA timeB as bs = m at hleft hright hrest hearly ih ⊢
      obtain ⟨-, hmore, hacross⟩ := List.pairwise_append.mp (hleft ▸ has)
      have htaken : (m.2.takeWhile (earlier timeA (timeB b))).Sublist m.2 :=
        List.takeWhile_sublist _
      have hb : ∀ b' ∈ bs, timeB b' ≤ timeB b := fun b' hb' => hlast b' hb' b List.mem_cons_self
      refine List.pairwise_append.mpr ⟨ih hbs, List.pairwise_append.mpr ⟨?_, ?_, ?_⟩, ?_⟩
      · rw [List.pairwise_map]
        exact hmore.sublist htaken
      · exact List.pairwise_singleton _ _
      · intro x hx y hy
        obtain ⟨a, ha, rfl⟩ := List.mem_map.mp hx
        obtain rfl := List.mem_singleton.mp hy
        have hlt := List.mem_takeWhile_imp ha
        show timeA a < timeB b
        exact of_decide_eq_true hlt
      · intro x hx y hy
        rcases List.mem_append.mp hy with hy | hy
        · obtain ⟨a, ha, rfl⟩ := List.mem_map.mp hy
          have ha := htaken.subset ha
          cases x with
          | inl a' =>
              exact hacross a' (List.mem_filterMap.mpr ⟨_, hx, rfl⟩) a ha
          | inr b' =>
              exact hrest b' (hright ▸ List.mem_filterMap.mpr ⟨_, hx, rfl⟩) a ha
        · obtain rfl := List.mem_singleton.mp hy
          cases x with
          | inl a =>
              obtain ⟨b', hb', hlt⟩ := hearly a hx
              exact hlt.trans_le (hb b' hb')
          | inr b' =>
              exact hb b' (hright ▸ List.mem_filterMap.mpr ⟨_, hx, rfl⟩)

end TimedMerge
