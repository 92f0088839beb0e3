import Mathlib.Data.List.Sort
import Mathlib.Algebra.Order.Group.Multiset
import Mathlib.Data.Multiset.Filter

/-!
# Choosing what is nearest

Of some things, a number of those with the least distance are wanted.  If they come in groups, each
group can be cut down to this number first: `isNearest_flatten` is that nothing is lost.  A group is
cut with `std::nth_element`, which is a parameter with its law.
-/

namespace Nearest

variable {α β K : Type*} [LinearOrder K]

/-- What is chosen is nearest: a number of the things, or all if there are no more, and none of the
rest is nearer than any of them. -/
def IsNearest (k : ℕ) (dist : α → K) (chosen all : Multiset α) : Prop :=
  chosen.card = min k all.card ∧
    ∃ rest, all = chosen + rest ∧ ∀ a ∈ chosen, ∀ b ∈ rest, dist a ≤ dist b

variable {k : ℕ} {dist : α → K} {chosen all part whole other : Multiset α}

lemma IsNearest.le (h : IsNearest k dist chosen all) : chosen ≤ all := by
  obtain ⟨-, rest, rfl, -⟩ := h
  exact Multiset.le_add_right chosen rest

lemma isNearest_self (h : all.card ≤ k) : IsNearest k dist all all :=
  ⟨(Nat.min_eq_right h).symm, 0, (add_zero all).symm,
    fun _ _ _ hb => absurd hb (Multiset.notMem_zero _)⟩

/-- A thing that is not chosen is not nearer than any that is, and so many are. -/
lemma IsNearest.le_of_notMem (h : IsNearest k dist chosen all) {b : α} (hb : b ∈ all)
    (hnot : b ∉ chosen) : chosen.card = k ∧ ∀ a ∈ chosen, dist a ≤ dist b := by
  obtain ⟨hcard, rest, rfl, hle⟩ := h
  have hrest : b ∈ rest := (Multiset.mem_add.mp hb).resolve_left hnot
  have hpos := Multiset.card_pos_iff_exists_mem.mpr ⟨b, hrest⟩
  rw [Multiset.card_add] at hcard
  exact ⟨by omega, fun a ha => hle a ha b hrest⟩

/-- The first of what is nearest is the nearest of all. -/
lemma IsNearest.first_le (h : IsNearest k dist chosen all) {a : α} (ha : a ∈ chosen)
    (hfirst : ∀ b ∈ chosen, dist a ≤ dist b) : ∀ b ∈ all, dist a ≤ dist b := by
  obtain ⟨-, rest, rfl, hle⟩ := h
  intro b hb
  rcases Multiset.mem_add.mp hb with hb | hb
  · exact hfirst b hb
  · exact hle a ha b hb

/-- What is nearest can be seen on any copy of the things. -/
lemma IsNearest.map {dist' : β → K} {f : α → β} (h : IsNearest k dist chosen all)
    (hf : ∀ a ∈ all, dist' (f a) = dist a) :
    IsNearest k dist' (chosen.map f) (all.map f) := by
  obtain ⟨hcard, rest, rfl, hle⟩ := h
  refine ⟨by rw [Multiset.card_map, Multiset.card_map, hcard], rest.map f,
    Multiset.map_add f chosen rest, ?_⟩
  intro a' ha' b' hb'
  obtain ⟨a, ha, rfl⟩ := Multiset.mem_map.mp ha'
  obtain ⟨b, hb, rfl⟩ := Multiset.mem_map.mp hb'
  rw [hf a (Multiset.mem_add.mpr (.inl ha)), hf b (Multiset.mem_add.mpr (.inr hb))]
  exact hle a ha b hb

/-- **A part can be cut down first**: what is nearest among the nearest of a part and all others is
nearest. -/
theorem IsNearest.of_part (hpart : IsNearest k dist part whole)
    (h : IsNearest k dist chosen (part + other)) : IsNearest k dist chosen (whole + other) := by
  obtain ⟨hcut, gone, rfl, hgone⟩ := hpart
  obtain ⟨hcard, rest, hsplit, hle⟩ := h
  have hcards := congrArg Multiset.card hsplit
  rw [Multiset.card_add, Multiset.card_add] at hcards
  rw [Multiset.card_add] at hcut hcard
  refine ⟨?_, rest + gone, ?_, ?_⟩
  · rw [Multiset.card_add, Multiset.card_add]
    omega
  · rw [← add_assoc, ← hsplit, add_assoc, add_assoc, add_comm gone other]
  · intro a ha b hb
    rcases Multiset.mem_add.mp hb with hb | hb
    · exact hle a ha b hb
    · -- the part has as many things as are chosen, none of them farther than this one
      by_contra hfar
      rw [not_le] at hfar
      have hgonepos := Multiset.card_pos_iff_exists_mem.mpr ⟨b, hb⟩
      have hpartnear : part.filter (fun x => dist x ≤ dist b) = part :=
        Multiset.filter_eq_self.mpr fun x hx => hgone x hx b hb
      have hrestfar : rest.filter (fun x => dist x ≤ dist b) = 0 :=
        Multiset.filter_eq_nil.mpr fun x hx hnear => (hfar.trans_le (hle a ha x hx)).not_ge hnear
      have hnear := congrArg (fun s => (s.filter fun x => dist x ≤ dist b).card) hsplit
      simp only [Multiset.filter_add, hpartnear, hrestfar, add_zero, Multiset.card_add] at hnear
      have hlt : (chosen.filter fun x => dist x ≤ dist b).card < chosen.card := by
        refine Multiset.card_lt_card ((Multiset.filter_le _ _).lt_of_ne fun heq => ?_)
        exact hfar.not_ge (Multiset.filter_eq_self.mp heq a ha)
      omega

/-- **Each group can be cut down first.** -/
theorem isNearest_flatten {groups : List (Multiset α × Multiset α)}
    (hgroups : ∀ g ∈ groups, IsNearest k dist g.1 g.2)
    (h : IsNearest k dist chosen ((groups.map Prod.fst).sum + other)) :
    IsNearest k dist chosen ((groups.map Prod.snd).sum + other) := by
  induction groups generalizing other with
  | nil => exact h
  | cons g groups ih =>
      obtain ⟨hg, hrest⟩ := List.forall_mem_cons.mp hgroups
      rw [List.map_cons, List.sum_cons, add_assoc] at h ⊢
      have hpart := hg.of_part h
      rw [← add_assoc, add_comm g.2, add_assoc] at hpart ⊢
      exact ih hrest hpart

/-! ## `std::nth_element` -/

/-- `std::nth_element`, by distance: the things are rearranged so that none before the `n`-th is
farther than it, and none behind it nearer. -/
structure NthElement (dist : α → K) where
  run : ℕ → List α → List α
  perm : ∀ n l, (run n l).Perm l
  sorted : ∀ n l, ∀ a ∈ (run n l).take (n + 1), ∀ b ∈ (run n l).drop n, dist a ≤ dist b

/-- Cut a list down to its nearest things. -/
def cut (nth : NthElement dist) (k : ℕ) (l : List α) : List α :=
  if l.length ≤ k then l else (nth.run (k - 1) l).take k

lemma mem_of_mem_cut {nth : NthElement dist} {l : List α} {a : α} (h : a ∈ cut nth k l) :
    a ∈ l := by
  rw [cut] at h
  split_ifs at h
  · exact h
  · exact (nth.perm _ l).mem_iff.mp (List.mem_of_mem_take h)

lemma cut_isNearest (nth : NthElement dist) (hk : 0 < k) (l : List α) :
    IsNearest k dist (cut nth k l : Multiset α) (l : Multiset α) := by
  rw [cut]
  split_ifs with h
  · exact isNearest_self h
  · have hperm := nth.perm (k - 1) l
    refine ⟨?_, ((nth.run (k - 1) l).drop k : Multiset α), ?_, ?_⟩
    · rw [Multiset.coe_card, Multiset.coe_card, List.length_take, hperm.length_eq]
    · rw [Multiset.coe_add, List.take_append_drop]
      exact (Multiset.coe_eq_coe.mpr hperm).symm
    · intro a ha b hb
      have htake : k - 1 + 1 = k := by omega
      refine nth.sorted (k - 1) l a (by rwa [htake]) b ?_
      have hdrop : (nth.run (k - 1) l).drop k = ((nth.run (k - 1) l).drop (k - 1)).drop 1 := by
        rw [List.drop_drop, htake]
      exact List.mem_of_mem_drop (hdrop ▸ hb)

/-- **Lists can be cut before they are put together.** -/
theorem cut_flatMap_isNearest (nth : NthElement dist) (hk : 0 < k) (lists : List β)
    (f : β → List α) :
    IsNearest k dist (cut nth k (lists.flatMap fun b => cut nth k (f b)) : Multiset α)
      (lists.flatMap f : Multiset α) := by
  have hsum : ∀ g : β → List α,
      (lists.map fun b => (g b : Multiset α)).sum = (lists.flatMap g : Multiset α) := by
    intro g
    induction lists with
    | nil => rfl
    | cons b lists ih => rw [List.map_cons, List.sum_cons, ih, List.flatMap_cons, Multiset.coe_add]
  have hcut := cut_isNearest nth hk (lists.flatMap fun b => cut nth k (f b))
  have hgroups : ∀ g ∈ lists.map fun b => ((cut nth k (f b) : Multiset α), (f b : Multiset α)),
      IsNearest k dist g.1 g.2 := by
    intro g hg
    obtain ⟨b, -, rfl⟩ := List.mem_map.mp hg
    exact cut_isNearest nth hk (f b)
  rw [← hsum, ← add_zero (List.sum _)] at hcut ⊢
  have hall := @isNearest_flatten α K _ k dist (cut nth k (lists.flatMap fun b => cut nth k (f b)))
    0 _ hgroups
  rw [List.map_map, List.map_map] at hall
  exact hall hcut

/-- With the first place in order, the first thing is the nearest. -/
lemma head_run_zero_le (nth : NthElement dist) {l : List α} {a : α}
    (ha : (nth.run 0 l).head? = some a) : ∀ b ∈ l, dist a ≤ dist b := by
  intro b hb
  refine nth.sorted 0 l a ?_ b ?_
  · obtain ⟨rest, hrest⟩ := List.head?_eq_some_iff.mp ha
    rw [hrest]
    exact List.mem_cons_self
  · exact (nth.perm 0 l).mem_iff.mpr hb

/-- Sorting does it. -/
def NthElement.sort (dist : α → K) : NthElement dist where
  run _ l := l.insertionSort fun a b => dist a ≤ dist b
  perm _ l := List.perm_insertionSort _ l
  sorted n l a ha b hb := by
    have hsorted : (l.insertionSort fun a b => dist a ≤ dist b).Pairwise fun a b =>
        dist a ≤ dist b := by
      have : Std.Total fun a b : α => dist a ≤ dist b := ⟨fun a b => le_total (dist a) (dist b)⟩
      have : IsTrans α fun a b => dist a ≤ dist b := ⟨fun _ _ _ hab hbc => hab.trans hbc⟩
      exact List.pairwise_insertionSort _ l
    obtain ⟨i, hi, rfl⟩ := List.mem_take_iff_getElem.mp ha
    obtain ⟨j, hj, rfl⟩ := List.mem_drop_iff_getElem.mp hb
    rcases Nat.lt_or_ge i (n + j) with hlt | hge
    · exact List.pairwise_iff_getElem.mp hsorted i (n + j) _ _ hlt
    · have hij : i = n + j := by omega
      subst hij
      exact le_rfl

end Nearest
