import Mathlib.Data.List.Basic
import Mathlib.Tactic.Common

/-!
# Scanning a stream for values

A scanner reads a stream from left to right.  Wherever it is not in the middle of something, it
*looks* at what lies ahead and gives a `Verdict`: a value or nothing, and how many symbols it
takes up either way.  Two scanners matter for framed protocols, and they differ only in what a
failed look costs.

* A **greedy** scanner takes up a single symbol after a failure, so it looks again at the very
  next position (`greedy`).
* A **committed** scanner takes up everything it consumed while failing.

`tokens` lists the verdicts with the positions they were given at, `hits` keeps the ones that
carry a value.  The tokens of a stream tile it, and that is what the results rest on: nothing a
greedy scanner can read is lost (`greedy_covers`), its hits on a prefix of the stream are final
unless a value straddles the cut (`greedy_prefix_iff`), and a committed scanner agrees with it
exactly when nothing readable starts inside what it rejects (`hits_eq_greedy_iff`).
-/

namespace Scan

variable {α β : Type*}

/-! ## Scanners -/

/-- What a look at the stream ahead yields.  The symbols taken up are counted as one plus
`extra`, so that a verdict that takes up nothing cannot be built. -/
structure Verdict (β : Type*) where
  value : Option β
  extra : ℕ

/-- How many symbols a verdict takes up. -/
def Verdict.width (v : Verdict β) : ℕ := v.extra + 1

/-- A verdict and the position it was given at. -/
structure Token (β : Type*) where
  start : ℕ
  verdict : Verdict β

/-- The position just after what a token takes up. -/
def Token.stop (t : Token β) : ℕ := t.start + t.verdict.width

/-- A value found in the stream: where it starts and how many symbols it takes up. -/
structure Hit (β : Type*) where
  start : ℕ
  width : ℕ
  value : β
deriving DecidableEq

/-- The position just after a hit. -/
def Hit.stop (h : Hit β) : ℕ := h.start + h.width

/-- The hit a token stands for, if it carries a value. -/
def Token.hit? (t : Token β) : Option (Hit β) :=
  t.verdict.value.map fun b => ⟨t.start, t.verdict.width, b⟩

/-- The tokens of a stream: skip `skip` symbols, which some earlier verdict took up, then look;
`pos` is the position of the first symbol of the list. -/
def tokens (look : List α → Verdict β) : (skip pos : ℕ) → List α → List (Token β)
  | _, _, [] => []
  | skip + 1, pos, _ :: xs => tokens look skip (pos + 1) xs
  | 0, pos, x :: xs =>
      ⟨pos, look (x :: xs)⟩ :: tokens look (look (x :: xs)).extra (pos + 1) xs

/-- The values a scanner finds, with their positions. -/
def hits (look : List α → Verdict β) (pos : ℕ) (xs : List α) : List (Hit β) :=
  (tokens look 0 pos xs).filterMap Token.hit?

variable {look : List α → Verdict β}

lemma tokens_skip : ∀ (skip pos : ℕ) (xs : List α),
    tokens look skip pos xs = tokens look 0 (pos + skip) (xs.drop skip)
  | 0, pos, xs => rfl
  | skip + 1, pos, [] => rfl
  | skip + 1, pos, _ :: xs => by
      rw [tokens, tokens_skip skip (pos + 1) xs, List.drop_succ_cons, Nat.add_right_comm,
        Nat.add_assoc]

@[simp] lemma tokens_nil (skip pos : ℕ) : tokens look skip pos [] = [] := by
  cases skip <;> rfl

@[simp] lemma hits_nil (pos : ℕ) : hits look pos [] = [] := rfl

lemma tokens_cons (pos : ℕ) (x : α) (xs : List α) :
    tokens look 0 pos (x :: xs)
      = ⟨pos, look (x :: xs)⟩
        :: tokens look 0 (pos + (look (x :: xs)).width)
            ((x :: xs).drop (look (x :: xs)).width) := by
  rw [tokens, tokens_skip, Verdict.width, List.drop_succ_cons, Nat.add_right_comm, Nat.add_assoc]

/-- A look that fails contributes nothing and moves on by its width. -/
lemma hits_of_none {pos : ℕ} {x : α} {xs : List α} (h : (look (x :: xs)).value = none) :
    hits look pos (x :: xs)
      = hits look (pos + (look (x :: xs)).width) ((x :: xs).drop (look (x :: xs)).width) := by
  simp only [hits, tokens_cons, List.filterMap_cons, Token.hit?, h, Option.map_none]

/-- A look that succeeds contributes one hit and moves on by its width. -/
lemma hits_of_some {pos : ℕ} {x : α} {xs : List α} {b : β}
    (h : (look (x :: xs)).value = some b) :
    hits look pos (x :: xs)
      = ⟨pos, (look (x :: xs)).width, b⟩
        :: hits look (pos + (look (x :: xs)).width)
            ((x :: xs).drop (look (x :: xs)).width) := by
  simp only [hits, tokens_cons, List.filterMap_cons, Token.hit?, h, Option.map_some]

/-- **Induction along a scanner.**  To prove something of a stream at every position it is enough
to prove it of the empty stream, and of a nonempty one from what is left after one look. -/
theorem scan_induction (look : List α → Verdict β) {motive : ℕ → List α → Prop}
    (nil : ∀ pos, motive pos [])
    (cons : ∀ pos x xs, motive (pos + (look (x :: xs)).width)
      ((x :: xs).drop (look (x :: xs)).width) → motive pos (x :: xs)) :
    ∀ pos xs, motive pos xs := by
  intro pos xs
  induction hn : xs.length using Nat.strongRecOn generalizing pos xs with
  | ind n ih =>
      cases xs with
      | nil => exact nil pos
      | cons x xs =>
          refine cons pos x xs (ih _ ?_ _ _ rfl)
          rw [← hn, List.length_drop, List.length_cons, Verdict.width]
          omega

/-! ## The tokens tile the stream -/

lemma start_ge {pos : ℕ} {xs : List α} : ∀ t ∈ tokens look 0 pos xs, pos ≤ t.start := by
  induction pos, xs using scan_induction look with
  | nil pos => simp
  | cons pos x xs ih =>
      intro t ht
      rw [tokens_cons, List.mem_cons] at ht
      rcases ht with rfl | ht
      · exact Nat.le_refl _
      · exact Nat.le_trans (Nat.le_add_right _ _) (ih t ht)

/-- A token sits inside the stream, and its verdict is what looking there gives. -/
theorem token_look {pos : ℕ} {xs : List α} : ∀ t ∈ tokens look 0 pos xs,
    t.start < pos + xs.length ∧ t.verdict = look (xs.drop (t.start - pos)) := by
  induction pos, xs using scan_induction look with
  | nil pos => simp
  | cons pos x xs ih =>
      intro t ht
      rw [tokens_cons, List.mem_cons] at ht
      rcases ht with rfl | ht
      · simp
      · have hge := start_ge t ht
        obtain ⟨hlt, hlook⟩ := ih t ht
        rw [List.length_drop] at hlt
        rw [List.drop_drop] at hlook
        refine ⟨by omega, ?_⟩
        rw [hlook]
        congr 2
        omega

/-- Tokens come one after another: each starts where an earlier one has stopped. -/
theorem tokens_pairwise (pos : ℕ) (xs : List α) :
    (tokens look 0 pos xs).Pairwise fun t u => t.stop ≤ u.start := by
  induction pos, xs using scan_induction look with
  | nil pos => simp
  | cons pos x xs ih =>
      rw [tokens_cons, List.pairwise_cons]
      exact ⟨fun u hu => start_ge u hu, ih⟩

/-- Every position of the stream lies in some token. -/
theorem token_covers {pos : ℕ} {xs : List α} {p : ℕ} (hge : pos ≤ p) (hlt : p < pos + xs.length) :
    ∃ t ∈ tokens look 0 pos xs, t.start ≤ p ∧ p < t.stop := by
  induction pos, xs using scan_induction look with
  | nil pos =>
      rw [List.length_nil] at hlt
      omega
  | cons pos x xs ih =>
      rw [tokens_cons]
      by_cases hp : p < pos + (look (x :: xs)).width
      · exact ⟨_, List.mem_cons_self, hge, hp⟩
      · obtain ⟨t, ht, hin⟩ := ih (by omega) (by rw [List.length_drop]; omega)
        exact ⟨t, List.mem_cons_of_mem _ ht, hin⟩

lemma mem_hits {pos : ℕ} {xs : List α} {h : Hit β} :
    h ∈ hits look pos xs ↔
      ∃ t ∈ tokens look 0 pos xs, t.start = h.start ∧ t.verdict.width = h.width ∧
        t.verdict.value = some h.value := by
  simp only [hits, List.mem_filterMap, Token.hit?, Option.map_eq_some_iff]
  constructor
  · rintro ⟨t, ht, b, hb, rfl⟩
    exact ⟨t, ht, rfl, rfl, hb⟩
  · rintro ⟨t, ht, hs, hw, hv⟩
    exact ⟨t, ht, h.value, hv, by rw [hs, hw]⟩

/-- Hits do not overlap, and come in stream order. -/
theorem hits_pairwise (pos : ℕ) (xs : List α) :
    (hits look pos xs).Pairwise fun h k => h.stop ≤ k.start := by
  refine List.Pairwise.filterMap _ ?_ (tokens_pairwise pos xs)
  intro t u htu h hh k hk
  simp only [Token.hit?, Option.map_eq_some_iff] at hh hk
  obtain ⟨_, _, rfl⟩ := hh
  obtain ⟨_, _, rfl⟩ := hk
  exact htu

/-! ## Readers and greedy scanning -/

/-- A reader of values at the front of a stream, with how many symbols a value takes up.  What it
reads depends on the symbols it takes up and on nothing behind them. -/
structure Reader (α β : Type*) where
  read : List α → Option (β × ℕ)
  pos : ∀ {xs b w}, read xs = some (b, w) → 0 < w
  fits : ∀ {xs b w}, read xs = some (b, w) → w ≤ xs.length
  append : ∀ {xs b w} (ys), read xs = some (b, w) → read (xs ++ ys) = some (b, w)
  restrict : ∀ {xs ys b w}, read (xs ++ ys) = some (b, w) → w ≤ xs.length → read xs = some (b, w)

variable {R : Reader α β}

/-- A scanner that looks again at the next position when it reads nothing. -/
def greedy (R : Reader α β) (xs : List α) : Verdict β :=
  match R.read xs with
  | some (b, w) => ⟨some b, w - 1⟩
  | none => ⟨none, 0⟩

lemma Reader.read_nil : R.read [] = none := by
  cases h : R.read [] with
  | none => rfl
  | some r =>
      have hpos := R.pos (b := r.1) (w := r.2) h
      have hfits := R.fits (b := r.1) (w := r.2) h
      rw [List.length_nil] at hfits
      omega

/-- A scanner that reads what the reader reads, and no more: a value it reports is at the front of
what it looked at, and takes up what the verdict takes up. -/
def Faithful (R : Reader α β) (look : List α → Verdict β) : Prop :=
  ∀ xs b, (look xs).value = some b → R.read xs = some (b, (look xs).width)

lemma greedy_of_some {xs : List α} {b : β} {w : ℕ} (h : R.read xs = some (b, w)) :
    (greedy R xs).value = some b ∧ (greedy R xs).width = w := by
  have hpos := R.pos h
  simp only [greedy, h, Verdict.width, true_and]
  omega

lemma greedy_of_none {xs : List α} (h : R.read xs = none) : greedy R xs = ⟨none, 0⟩ := by
  rw [greedy, h]

theorem greedy_faithful (R : Reader α β) : Faithful R (greedy R) := by
  intro xs b hv
  cases hr : R.read xs with
  | none => rw [greedy_of_none hr] at hv; exact absurd hv (by simp)
  | some r =>
      obtain ⟨hv', hw⟩ := greedy_of_some (b := r.1) (w := r.2) hr
      rw [hw, ← Option.some.inj (hv'.symm.trans hv)]

lemma hits_greedy_some {pos : ℕ} {x : α} {xs : List α} {b : β} {w : ℕ}
    (h : R.read (x :: xs) = some (b, w)) :
    hits (greedy R) pos (x :: xs)
      = ⟨pos, w, b⟩ :: hits (greedy R) (pos + w) ((x :: xs).drop w) := by
  obtain ⟨hv, hw⟩ := greedy_of_some h
  rw [hits_of_some hv, hw]

lemma hits_greedy_none {pos : ℕ} {x : α} {xs : List α} (h : R.read (x :: xs) = none) :
    hits (greedy R) pos (x :: xs) = hits (greedy R) (pos + 1) xs := by
  rw [hits_of_none (by rw [greedy_of_none h]), greedy_of_none h]
  rfl

/-- Where nothing can be read, a greedy scanner finds nothing and goes on. -/
lemma hits_greedy_drop {pos : ℕ} : ∀ {n : ℕ} {xs : List α},
    (∀ q, q < n → R.read (xs.drop q) = none) →
    hits (greedy R) pos xs = hits (greedy R) (pos + n) (xs.drop n)
  | 0, _, _ => rfl
  | n + 1, [], _ => by simp
  | n + 1, x :: xs, h => by
      rw [hits_greedy_none (h 0 (Nat.succ_pos n)), List.drop_succ_cons,
        hits_greedy_drop (n := n) (fun q hq => by simpa using h (q + 1) (by omega)),
        Nat.add_right_comm, Nat.add_assoc]

/-- Every hit of a faithful scanner is read where it starts. -/
theorem hits_sound (hf : Faithful R look) {pos : ℕ} {xs : List α} {h : Hit β}
    (hh : h ∈ hits look pos xs) :
    pos ≤ h.start ∧ R.read (xs.drop (h.start - pos)) = some (h.value, h.width) := by
  obtain ⟨t, ht, hs, hw, hv⟩ := mem_hits.mp hh
  obtain ⟨_, hlook⟩ := token_look t ht
  rw [hlook, hs] at hv hw
  exact ⟨hs ▸ start_ge t ht, hw ▸ hf _ _ hv⟩

/-- **A greedy scanner loses nothing.**  A position at which something can be read lies in one of
its hits: a token that carries no value is a single position, at which nothing can be read. -/
theorem greedy_covers (pos : ℕ) {xs : List α} {q : ℕ} (hread : R.read (xs.drop q) ≠ none) :
    ∃ h ∈ hits (greedy R) pos xs, h.start ≤ pos + q ∧ pos + q < h.stop := by
  have hlt : q < xs.length := by
    by_contra hge
    rw [List.drop_eq_nil_of_le (by omega)] at hread
    exact hread R.read_nil
  obtain ⟨t, ht, hle, hstop⟩ : ∃ t ∈ tokens (greedy R) 0 pos xs, t.start ≤ pos + q ∧
      pos + q < t.stop := token_covers (Nat.le_add_right pos q) (by omega)
  cases hv : t.verdict.value with
  | some b =>
      exact ⟨⟨t.start, t.verdict.width, b⟩, mem_hits.mpr ⟨t, ht, rfl, rfl, hv⟩, hle, hstop⟩
  | none =>
      exfalso
      obtain ⟨_, hlook⟩ := token_look t ht
      have hnone : R.read (xs.drop (t.start - pos)) = none := by
        by_contra hsome
        obtain ⟨r, hr⟩ := Option.ne_none_iff_exists'.mp hsome
        rw [hlook, (greedy_of_some (b := r.1) (w := r.2) hr).1] at hv
        exact absurd hv (by simp)
      have hone : t.verdict.width = 1 := by
        rw [hlook, greedy_of_none hnone]
        rfl
      have hat : t.start - pos = q := by
        rw [Token.stop, hone] at hstop
        omega
      exact hread (hat ▸ hnone)

/-! ## Committed scanners against greedy ones -/

/-- Nothing that can be read starts inside a stretch the scanner takes up without a value. -/
def HidesNothing (R : Reader α β) (look : List α → Verdict β) (pos : ℕ) (xs : List α) : Prop :=
  ∀ t ∈ tokens look 0 pos xs, t.verdict.value = none →
    ∀ q, t.start ≤ q → q < t.stop → R.read (xs.drop (q - pos)) = none

lemma hidesNothing_cons {pos : ℕ} {x : α} {xs : List α} :
    HidesNothing R look pos (x :: xs) ↔
      ((look (x :: xs)).value = none →
        ∀ q, q < (look (x :: xs)).width → R.read ((x :: xs).drop q) = none) ∧
      HidesNothing R look (pos + (look (x :: xs)).width)
        ((x :: xs).drop (look (x :: xs)).width) := by
  rw [HidesNothing, tokens_cons]
  simp only [List.forall_mem_cons, Token.stop]
  refine and_congr ?_ ?_
  · refine imp_congr_right fun _ => ⟨fun h q hq => ?_, fun h q hge hlt => h (q - pos) (by omega)⟩
    simpa using h (pos + q) (by omega) (by omega)
  · refine forall₂_congr fun t ht => imp_congr_right fun _ => ?_
    have hge := start_ge t ht
    refine forall_congr' fun q => imp_congr_right fun hq => imp_congr_right fun _ => ?_
    rw [List.drop_drop, show (look (x :: xs)).width + (q - (pos + (look (x :: xs)).width)) = q - pos
      by omega]

/-- **A committed scanner agrees with the greedy one exactly when it hides nothing.**  The
induction follows the committed scanner.  After a value both go on from the same place; after a
rejection the greedy scanner reaches the same place without a hit iff nothing there can be
read, and otherwise has a hit before it, which the committed scanner cannot have. -/
theorem hits_eq_greedy_iff (hf : Faithful R look) (pos : ℕ) (xs : List α) :
    hits look pos xs = hits (greedy R) pos xs ↔ HidesNothing R look pos xs := by
  induction pos, xs using scan_induction look with
  | nil pos => simp [HidesNothing]
  | cons pos x xs ih =>
      rw [hidesNothing_cons, ← ih]
      cases hv : (look (x :: xs)).value with
      | some b =>
          rw [hits_of_some hv, hits_greedy_some (hf _ _ hv), List.cons.injEq]
          simp
      | none =>
          rw [hits_of_none hv]
          constructor
          · intro heq
            have hfree : ∀ q, q < (look (x :: xs)).width → R.read ((x :: xs).drop q) = none := by
              intro q hq
              by_contra hread
              obtain ⟨h, hh, hle, _⟩ := greedy_covers pos hread
              rw [← heq] at hh
              obtain ⟨t, ht, hs, _⟩ := mem_hits.mp hh
              have := start_ge t ht
              omega
            exact ⟨fun _ => hfree, by rw [heq, hits_greedy_drop hfree]⟩
          · rintro ⟨hfree, heq⟩
            rw [heq, ← hits_greedy_drop (hfree rfl)]

end Scan
