import SentryNav.Core.Scan
import Mathlib.Data.List.Infix

/-!
# Streams put together from pieces

What a scanner makes of a stream that was written piece by piece, or that arrives in two parts.

* `interleave` writes values one after another with gaps between them; a scanner that passes over
  the gaps and reads each value back finds exactly the values (`hits_interleave`).
* When more of the stream arrives, the hits of a greedy scanner on the first part stay as they
  are **unless** a value straddles the cut, starting where no hit was and in front of one
  (`greedy_prefix_iff`).
* A scanner can be cut off between two pieces exactly when no verdict given in the first runs
  past its end (`settles`); then the pieces are scanned independently (`tokens_append`), and
  otherwise the scanner never looks at the start of the second piece (`not_settled_skips`).
-/

namespace Scan

variable {α β : Type*} {look : List α → Verdict β} {R : Reader α β}

/-! ## Values with gaps between them -/

/-- A stream with a gap in front and one behind each of the values. -/
def interleave (enc : β → List α) (gap : List α) (items : List (β × List α)) : List α :=
  gap ++ items.flatMap fun item => enc item.1 ++ item.2

lemma interleave_nil (enc : β → List α) (gap : List α) : interleave enc gap [] = gap := by
  simp [interleave]

lemma interleave_cons (enc : β → List α) (gap gap' : List α) (b : β) (items : List (β × List α)) :
    interleave enc gap ((b, gap') :: items) = gap ++ (enc b ++ interleave enc gap' items) := by
  simp [interleave]

/-- A symbol a scanner passes over, whatever follows it. -/
def Passes (look : List α → Verdict β) (x : α) : Prop := ∀ xs, look (x :: xs) = ⟨none, 0⟩

/-- A scanner reads a written value back, whatever follows it. -/
def ReadsBack (look : List α → Verdict β) (enc : β → List α) (b : β) : Prop :=
  enc b ≠ [] ∧ ∀ xs, (look (enc b ++ xs)).value = some b ∧
    (look (enc b ++ xs)).width = (enc b).length

lemma hits_gap : ∀ {gap : List α} {pos : ℕ} {xs : List α}, (∀ x ∈ gap, Passes look x) →
    hits look pos (gap ++ xs) = hits look (pos + gap.length) xs
  | [], _, _, _ => rfl
  | x :: gap, pos, xs, h => by
      have hx := h x List.mem_cons_self (gap ++ xs)
      rw [List.cons_append, hits_of_none (by rw [hx]), hx]
      show hits look (pos + 1) (gap ++ xs) = _
      rw [hits_gap fun y hy => h y (List.mem_cons_of_mem _ hy), List.length_cons,
        Nat.add_right_comm, Nat.add_assoc]

lemma hits_value {enc : β → List α} {b : β} (hb : ReadsBack look enc b) (pos : ℕ) (xs : List α) :
    hits look pos (enc b ++ xs)
      = ⟨pos, (enc b).length, b⟩ :: hits look (pos + (enc b).length) xs := by
  obtain ⟨hne, hlook⟩ := hb
  obtain ⟨hv, hw⟩ := hlook xs
  obtain ⟨y, ys, hy⟩ := List.exists_cons_of_ne_nil hne
  rw [hy, List.cons_append] at hv hw
  have hdrop : (y :: (ys ++ xs)).drop (y :: ys).length = xs := by
    rw [← List.cons_append, List.drop_left]
  rw [hy, List.cons_append, hits_of_some hv, hw, hdrop]

/-- **A written stream is read back.**  The scanner is at rest at each boundary: it passes over a
gap symbol by symbol and takes up a value as a whole. -/
theorem hits_interleave {enc : β → List α} :
    ∀ {items : List (β × List α)} {gap : List α} (pos : ℕ), (∀ x ∈ gap, Passes look x) →
      (∀ item ∈ items, ReadsBack look enc item.1 ∧ ∀ x ∈ item.2, Passes look x) →
      (hits look pos (interleave enc gap items)).map Hit.value = items.map Prod.fst
  | [], gap, pos, hgap, _ => by
      have hnone : hits look pos (gap ++ []) = [] := by rw [hits_gap hgap, hits_nil]
      rw [List.append_nil] at hnone
      rw [interleave_nil, hnone, List.map_nil, List.map_nil]
  | (b, gap') :: items, gap, pos, hgap, hitems => by
      obtain ⟨hb, hgap'⟩ := hitems (b, gap') List.mem_cons_self
      rw [interleave_cons, hits_gap hgap, hits_value hb, List.map_cons, List.map_cons,
        hits_interleave _ hgap' fun item hi => hitems item (List.mem_cons_of_mem _ hi)]

/-- Where values lie that are written one after another from `pos` on. -/
def placed (enc : β → List α) : (pos : ℕ) → List β → List (Hit β)
  | _, [] => []
  | pos, b :: items => ⟨pos, (enc b).length, b⟩ :: placed enc (pos + (enc b).length) items

lemma placed_stop_le {enc : β → List α} {items : List β} {pos : ℕ} :
    ∀ h ∈ placed enc pos items, h.stop ≤ pos + (items.flatMap enc).length := by
  induction items generalizing pos with
  | nil => exact fun h hh => absurd hh List.not_mem_nil
  | cons b items ih =>
      intro h hh
      rw [List.flatMap_cons, List.length_append, ← Nat.add_assoc]
      rcases List.mem_cons.mp hh with rfl | hh
      · exact Nat.le_add_right _ _
      · exact ih h hh

lemma placed_value (enc : β → List α) : ∀ (pos : ℕ) (items : List β),
    (placed enc pos items).map Hit.value = items
  | _, [] => rfl
  | pos, b :: items => congrArg (b :: ·) (placed_value enc (pos + (enc b).length) items)

/-- A scanner finds values that are written one after another, and goes on behind them. -/
theorem hits_flatMap {enc : β → List α} {items : List β} (h : ∀ b ∈ items, ReadsBack look enc b)
    (pos : ℕ) (xs : List α) :
    hits look pos (items.flatMap enc ++ xs)
      = placed enc pos items ++ hits look (pos + (items.flatMap enc).length) xs := by
  induction items generalizing pos with
  | nil => rfl
  | cons b items ih =>
      rw [List.flatMap_cons, List.append_assoc, hits_value (h b List.mem_cons_self),
        ih fun c hc => h c (List.mem_cons_of_mem _ hc), placed, List.cons_append,
        List.length_append, Nat.add_assoc]

/-- Scanning symbols that stand for others. -/
lemma tokens_map {γ : Type*} (g : γ → α) : ∀ (skip pos : ℕ) (xs : List γ),
    tokens look skip pos (xs.map g) = tokens (fun ys => look (ys.map g)) skip pos xs
  | skip, pos, [] => by rw [List.map_nil, tokens_nil, tokens_nil]
  | skip + 1, pos, _ :: xs => tokens_map g skip (pos + 1) xs
  | 0, pos, x :: xs => congrArg (_ :: ·) (tokens_map g _ (pos + 1) xs)

lemma hits_map {γ : Type*} (g : γ → α) (pos : ℕ) (xs : List γ) :
    hits look pos (xs.map g) = hits (fun ys => look (ys.map g)) pos xs := by
  rw [hits, tokens_map, hits]

/-! ## More of the stream arrives -/

/-- No value straddles the cut between `xs` and `ys` in front of a hit, except inside another. -/
def CutIsFinal (R : Reader α β) (pos : ℕ) (xs ys : List α) : Prop :=
  ∀ q b w, q < xs.length → R.read ((xs ++ ys).drop q) = some (b, w) → xs.length < q + w →
    (∀ h ∈ hits (greedy R) pos xs, ¬ (h.start ≤ pos + q ∧ pos + q < h.stop)) →
    ∀ h ∈ hits (greedy R) pos xs, h.start < pos + q

lemma cutIsFinal_some {pos : ℕ} {x : α} {xs ys : List α} {b : β} {w : ℕ}
    (hr : R.read (x :: xs) = some (b, w)) :
    CutIsFinal R pos (x :: xs) ys ↔ CutIsFinal R (pos + w) ((x :: xs).drop w) ys := by
  have hfits := R.fits hr
  have hdrop : ∀ q, (((x :: xs).drop w) ++ ys).drop q = ((x :: xs) ++ ys).drop (w + q) := by
    intro q
    rw [← List.drop_append_of_le_length hfits, List.drop_drop]
  simp only [CutIsFinal, hits_greedy_some hr, List.forall_mem_cons, Hit.stop, hdrop,
    List.length_drop]
  constructor
  · intro h q b' w' hq hread hcut hout
    have := h (w + q) b' w' (by omega) hread (by omega)
      ⟨by omega, fun k hk => by have := hout k hk; omega⟩
    exact fun k hk => by have := this.2 k hk; omega
  · intro h q b' w' hq hread hcut hout
    -- a position of the hit itself is excluded, so `q` lies behind it
    have hqw : w ≤ q := by have := hout.1; omega
    refine ⟨by have := R.pos hr; omega, fun k hk => ?_⟩
    have := h (q - w) b' w' (by omega) (by rwa [Nat.add_sub_cancel' hqw]) (by omega)
      (fun k hk => by have := hout.2 k hk; omega) k hk
    omega

lemma cutIsFinal_none {pos : ℕ} {x : α} {xs ys : List α} (hr : R.read (x :: xs) = none)
    (hr' : R.read (x :: xs ++ ys) = none) :
    CutIsFinal R pos (x :: xs) ys ↔ CutIsFinal R (pos + 1) xs ys := by
  simp only [CutIsFinal, hits_greedy_none hr, List.length_cons]
  constructor
  · intro h q b w hq hread hcut hout k hk
    have := h (q + 1) b w (by omega) hread (by omega)
      (fun k hk => by have := hout k hk; omega) k hk
    omega
  · intro h q b w hq hread hcut hout k hk
    cases q with
    | zero => rw [List.drop_zero, hr'] at hread; exact absurd hread (by simp)
    | succ q =>
        have := h q b w (by omega) hread (by omega) (fun k hk => by have := hout k hk; omega) k hk
        omega

/-- **What a greedy scanner reports of a first part is final exactly when the cut is.**  The
induction follows the scanner on the first part.  The two scans part only where the whole stream
has a value that runs past the cut; there the longer one has a hit, so the shorter one must have
none left. -/
theorem greedy_prefix_iff (pos : ℕ) (xs ys : List α) :
    hits (greedy R) pos xs <+: hits (greedy R) pos (xs ++ ys) ↔ CutIsFinal R pos xs ys := by
  induction pos, xs using scan_induction (greedy R) with
  | nil pos => simp [CutIsFinal]
  | cons pos x xs ih =>
      cases hr : R.read (x :: xs) with
      | some r =>
          obtain ⟨b, w⟩ := r
          have hfits := R.fits hr
          have hr' : R.read (x :: (xs ++ ys)) = some (b, w) := R.append ys hr
          rw [(greedy_of_some hr).2] at ih
          rw [cutIsFinal_some hr, ← ih, hits_greedy_some hr, List.cons_append,
            hits_greedy_some hr', List.cons_prefix_cons, ← List.cons_append,
            List.drop_append_of_le_length hfits]
          simp
      | none =>
          rw [greedy_of_none hr] at ih
          replace ih : hits (greedy R) (pos + 1) xs <+: hits (greedy R) (pos + 1) (xs ++ ys) ↔
            CutIsFinal R (pos + 1) xs ys := ih
          cases hr' : R.read (x :: (xs ++ ys)) with
          | none =>
              rw [cutIsFinal_none hr hr', ← ih, hits_greedy_none hr, List.cons_append,
                hits_greedy_none hr']
          | some r =>
              obtain ⟨b, w⟩ := r
              have hcut : (x :: xs).length < w := by
                by_contra hle
                rw [R.restrict hr' (by omega)] at hr
                exact absurd hr (by simp)
              have hge : ∀ h ∈ hits (greedy R) (pos + 1) xs, pos + 1 ≤ h.start :=
                fun h hh => (hits_sound (greedy_faithful R) hh).1
              rw [hits_greedy_none hr, List.cons_append, hits_greedy_some hr']
              constructor
              · rintro hpre q b' w' _ _ _ _ h hh
                rw [hits_greedy_none hr] at hh
                obtain ⟨k, ks, hk⟩ := List.exists_cons_of_ne_nil (List.ne_nil_of_mem hh)
                rw [hk, List.cons_prefix_cons] at hpre
                have := hge k (by rw [hk]; exact List.mem_cons_self)
                rw [hpre.1] at this
                exact absurd this (by simp)
              · intro hfinal
                have hnil : hits (greedy R) (pos + 1) xs = [] := by
                  refine List.eq_nil_iff_forall_not_mem.mpr fun h hh => ?_
                  have hlt := hfinal 0 b w (by simp) hr' (by omega)
                    (fun k hk => by
                      rw [hits_greedy_none hr] at hk
                      have := hge k hk
                      omega) h (by rwa [hits_greedy_none hr])
                  have := hge h hh
                  omega
                rw [hnil]
                exact List.nil_prefix

/-! ## Cutting a stream between two pieces -/

/-- A verdict that stays inside a piece does not depend on what follows the piece. -/
def Local (look : List α → Verdict β) : Prop :=
  ∀ xs ys, (look xs).width ≤ xs.length ∨ (look (xs ++ ys)).width ≤ xs.length →
    look (xs ++ ys) = look xs

/-- Whether a scanner is at rest at the end of a piece: no verdict runs past it. -/
def settles (look : List α → Verdict β) : (skip : ℕ) → List α → Bool
  | skip, [] => skip == 0
  | skip + 1, _ :: xs => settles look skip xs
  | 0, x :: xs => settles look (look (x :: xs)).extra xs

lemma settles_skip : ∀ (skip : ℕ) (xs : List α),
    settles look skip xs = true ↔ skip ≤ xs.length ∧ settles look 0 (xs.drop skip) = true
  | 0, xs => by simp
  | skip + 1, [] => by simp [settles]
  | skip + 1, _ :: xs => by
      rw [settles, settles_skip skip xs, List.drop_succ_cons, List.length_cons,
        Nat.add_le_add_iff_right]

lemma settles_cons (x : α) (xs : List α) :
    settles look 0 (x :: xs) = true ↔
      (look (x :: xs)).width ≤ (x :: xs).length ∧
        settles look 0 ((x :: xs).drop (look (x :: xs)).width) = true := by
  rw [settles, settles_skip, Verdict.width, List.drop_succ_cons, List.length_cons,
    Nat.add_le_add_iff_right]

/-- A first verdict that stays inside the first of two pieces. -/
lemma tokens_cons_append (hlocal : Local look) (pos : ℕ) {x : α} {xs : List α}
    (hle : (look (x :: xs)).width ≤ (x :: xs).length) (ys : List α) :
    tokens look 0 pos (x :: (xs ++ ys))
      = ⟨pos, look (x :: xs)⟩ :: tokens look 0 (pos + (look (x :: xs)).width)
          ((x :: xs).drop (look (x :: xs)).width ++ ys) := by
  have hlook : look (x :: (xs ++ ys)) = look (x :: xs) := hlocal _ ys (.inl hle)
  rw [tokens_cons, hlook, ← List.cons_append, List.drop_append_of_le_length hle]

/-- **A scanner at rest between two pieces scans them independently.** -/
theorem tokens_append (hlocal : Local look) (pos : ℕ) (xs ys : List α)
    (hs : settles look 0 xs = true) :
    tokens look 0 pos (xs ++ ys)
      = tokens look 0 pos xs ++ tokens look 0 (pos + xs.length) ys := by
  induction pos, xs using scan_induction look with
  | nil pos => rfl
  | cons pos x xs ih =>
      obtain ⟨hle, hrest⟩ := (settles_cons x xs).mp hs
      rw [List.cons_append, tokens_cons_append hlocal pos hle, tokens_cons, ih hrest,
        List.cons_append, List.length_drop, Nat.add_assoc, Nat.add_sub_cancel' hle]

/-- A scanner that is in the middle of something at the end of a piece never looks at the start
of the next. -/
theorem not_settled_skips (hlocal : Local look) (pos : ℕ) (xs ys : List α)
    (hs : settles look 0 xs = false) :
    ∀ t ∈ tokens look 0 pos (xs ++ ys), t.start ≠ pos + xs.length := by
  induction pos, xs using scan_induction look with
  | nil pos => simp [settles] at hs
  | cons pos x xs ih =>
      intro t ht
      rw [List.cons_append] at ht
      by_cases hle : (look (x :: xs)).width ≤ (x :: xs).length
      · have hrest : settles look 0 ((x :: xs).drop (look (x :: xs)).width) = false := by
          rw [← Bool.not_eq_true] at hs ⊢
          exact fun h => hs ((settles_cons x xs).mpr ⟨hle, h⟩)
        rw [tokens_cons_append hlocal pos hle, List.mem_cons] at ht
        rcases ht with rfl | ht
        · simp
        · have := ih hrest t ht
          rwa [List.length_drop, Nat.add_assoc, Nat.add_sub_cancel' hle] at this
      · have hcross : ¬ (look (x :: (xs ++ ys))).width ≤ (x :: xs).length := by
          intro h
          have hlook : look (x :: (xs ++ ys)) = look (x :: xs) := hlocal (x :: xs) ys (.inr h)
          exact hle (hlook ▸ h)
        rw [tokens_cons, List.mem_cons] at ht
        rcases ht with rfl | ht
        · simp
        · have := start_ge t ht
          omega

theorem hits_append (hlocal : Local look) (pos : ℕ) (xs ys : List α)
    (hs : settles look 0 xs = true) :
    hits look pos (xs ++ ys) = hits look pos xs ++ hits look (pos + xs.length) ys := by
  rw [hits, tokens_append hlocal pos xs ys hs, List.filterMap_append, hits, hits]

end Scan
