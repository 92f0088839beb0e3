import Mathlib.Algebra.Order.Floor.Ring
import Mathlib.Data.Nat.Notation
import Mathlib.Data.Set.Basic
import Mathlib.Tactic.Linarith
import Mathlib.Tactic.Ring

/-!
# Sweeps and sectors

A sweep looks at one value after another, up to a bound, and flags each of them; a sector is a run
of consecutive places that are flagged.

* **Sweeps.**  `sweep` is the values of a loop variable up to a bound.  There are enough passes for
  it if each pass goes up by some unit (`sweep_length_le`).
* **Runs.**  `MaxRun` is a maximal run, which may reach the end of the sweep; a `ClosedRun` is
  followed by a place that is not flagged.  `runsFrom` finds the closed runs in one pass, and finds
  them all (`mem_runsFrom`).
* **Choosing one.**  `climb` goes from run to run as long as they become wider and stops at the
  first that does not.  What it stops at is a `Peak` (`climb_eq_iff`), and it is the widest run only
  if no earlier run is out of order (`climb_eq_widest_iff`).
-/

namespace Sectors

/-! ## Sweeps -/

section Sweep

variable {K : Type*} [LinearOrder K] {next : K → K} {start stop : K}

/-- The values of `x` in `for (x = start; x <= stop; x = next(x))`, for so many passes at most. -/
def sweep (next : K → K) (stop : K) : (passes : ℕ) → (start : K) → List K
  | 0, _ => []
  | passes + 1, start => if start ≤ stop then start :: sweep next stop passes (next start) else []

/-- The sweep takes value after value. -/
lemma sweep_eq_map (next : K → K) (stop : K) (passes : ℕ) (start : K) :
    sweep next stop passes start
      = (List.range (sweep next stop passes start).length).map fun k => next^[k] start := by
  induction passes generalizing start with
  | zero => rfl
  | succ passes ih =>
      rw [sweep]
      split
      · rw [List.length_cons, List.range_succ_eq_map, List.map_cons, List.map_map]
        exact congrArg _ (ih (next start))
      · rfl

/-- The loop goes on as long as the bound is not exceeded. -/
lemma le_of_lt_sweep {passes k : ℕ} (hk : k < (sweep next stop passes start).length) :
    next^[k] start ≤ stop := by
  induction passes generalizing start k with
  | zero => exact absurd hk (Nat.not_lt_zero k)
  | succ passes ih =>
      rw [sweep] at hk
      split at hk
      · next hle =>
          cases k with
          | zero => exact hle
          | succ k =>
              rw [List.length_cons] at hk
              have hrest : next^[k] (next start) ≤ stop := ih (by omega)
              exact hrest
      · exact absurd hk (Nat.not_lt_zero k)

/-- It ends once the bound is exceeded, unless there are no passes left. -/
lemma lt_of_sweep_lt {passes : ℕ} (h : (sweep next stop passes start).length < passes) :
    stop < next^[(sweep next stop passes start).length] start := by
  induction passes generalizing start with
  | zero => exact absurd h (Nat.not_lt_zero _)
  | succ passes ih =>
      rw [sweep] at h ⊢
      split at h
      · next hle =>
          rw [if_pos hle]
          exact ih (Nat.lt_of_succ_lt_succ h)
      · next hlt =>
          rw [if_neg hlt]
          exact not_le.mp hlt

/-- How many values there are, if there are passes enough. -/
lemma sweep_length_eq {passes n : ℕ} (hle : ∀ k < n, next^[k] start ≤ stop)
    (hlt : stop < next^[n] start) (hpasses : n < passes) :
    (sweep next stop passes start).length = n := by
  rcases Nat.lt_trichotomy (sweep next stop passes start).length n with hless | heq | hmore
  · exact absurd (hle _ hless) (not_le.mpr (lt_of_sweep_lt (hless.trans hpasses)))
  · exact heq
  · exact absurd (le_of_lt_sweep hmore) (not_le.mpr hlt)

/-- A sweep that moves on goes up. -/
lemma lt_of_moves_on {count : ℕ} (h : ∀ k < count, next^[k] start < next^[k + 1] start) {i j : ℕ}
    (hij : i < j) (hj : j ≤ count) : next^[i] start < next^[j] start := by
  induction j, hij using Nat.le_induction with
  | base => exact h i hj
  | succ j _ ih => exact (ih (by omega)).trans (h j (by omega))

end Sweep

/-- **Enough passes.**  A sweep that goes up by a unit in each pass takes no more values than there
are units between its bounds, with both ends. -/
theorem sweep_length_le {K : Type*} [Field K] [LinearOrder K] [IsStrictOrderedRing K] [FloorRing K]
    {next : K → K} {start stop unit : K} {passes : ℕ} (hunit : 0 < unit)
    (hmove : ∀ k < (sweep next stop passes start).length,
      next^[k] start + unit ≤ next^[k + 1] start) :
    (sweep next stop passes start).length ≤ (⌊(stop - start) / unit⌋ + 1).toNat := by
  have hfar : ∀ k ≤ (sweep next stop passes start).length,
      start + k * unit ≤ next^[k] start := by
    intro k
    induction k with
    | zero => intro _; simp
    | succ k ih =>
        intro hk
        have hnext := hmove k (by omega)
        have hprev := ih (by omega)
        push_cast
        linarith
  rcases Nat.eq_zero_or_pos (sweep next stop passes start).length with hzero | hpos
  · omega
  · have hlast := le_of_lt_sweep (Nat.sub_lt hpos one_pos)
    have hroom : ((((sweep next stop passes start).length - 1 : ℕ) : ℤ) : K)
        ≤ (stop - start) / unit := by
      rw [le_div_iff₀ hunit, le_sub_iff_add_le', Int.cast_natCast]
      exact (hfar _ (by omega)).trans hlast
    have hfloor := Int.le_floor.mpr hroom
    omega

/-! ## Runs -/

variable {up : ℕ → Bool} {n a i j : ℕ}

/-- From place `i` up to, but not including, place `j` all are flagged, and this is as long as the
run can be among the first `n` places. -/
structure MaxRun (up : ℕ → Bool) (n i j : ℕ) : Prop where
  lt : i < j
  le : j ≤ n
  all : ∀ k, i ≤ k → k < j → up k = true
  before : i = 0 ∨ up (i - 1) = false
  after : j = n ∨ up j = false

/-- A run that is followed by place `j`, which is not flagged. -/
structure ClosedRun (up : ℕ → Bool) (i j : ℕ) : Prop where
  lt : i < j
  all : ∀ k, i ≤ k → k < j → up k = true
  before : i = 0 ∨ up (i - 1) = false
  after : up j = false

/-- Of two closed runs, the one that ends first ends before the other begins. -/
lemma ClosedRun.lt_of_lt {i' j' : ℕ} (h : ClosedRun up i j) (h' : ClosedRun up i' j')
    (hlt : j < j') : j < i' := by
  by_contra hge
  have hflag := h'.all j (by omega) hlt
  rw [h.after] at hflag
  exact Bool.false_ne_true hflag

/-- Two closed runs that end together are one. -/
lemma ClosedRun.eq_of_stop {i' : ℕ} (h : ClosedRun up i j) (h' : ClosedRun up i' j) : i = i' := by
  have hle : ∀ {i i'}, ClosedRun up i j → ClosedRun up i' j → i' ≤ i := by
    intro i i' h h'
    by_contra hlt
    rcases h'.before with h0 | hdown
    · omega
    · rw [h.all (i' - 1) (by omega) (by have := h'.lt; omega)] at hdown
      exact absurd hdown.symm Bool.false_ne_true
  exact le_antisymm (hle h' h) (hle h h')

/-- The closed runs among the first `n` places. -/
def closedRuns (up : ℕ → Bool) (n : ℕ) : Set (ℕ × ℕ) := {r | ClosedRun up r.1 r.2 ∧ r.2 < n}

/-- The closed runs that end within `len` places from place `a`, if `opened` is where the run that
place `a` could continue has begun. -/
def runsFrom (up : ℕ → Bool) : (opened : Option ℕ) → (a len : ℕ) → List (ℕ × ℕ)
  | _, _, 0 => []
  | none, a, len + 1 =>
      if up a then runsFrom up (some a) (a + 1) len else runsFrom up none (a + 1) len
  | some i, a, len + 1 =>
      if up a then runsFrom up (some i) (a + 1) len else (i, a) :: runsFrom up none (a + 1) len

lemma runsFrom_up (o : Option ℕ) (hup : up a = true) (len : ℕ) :
    runsFrom up o a (len + 1) = runsFrom up (some (o.getD a)) (a + 1) len := by
  cases o with
  | none => rw [runsFrom, if_pos hup, Option.getD_none]
  | some i => rw [runsFrom, if_pos hup, Option.getD_some]

lemma runsFrom_down (o : Option ℕ) (hdown : up a = false) (len : ℕ) :
    runsFrom up o a (len + 1)
      = (o.map fun i => (i, a)).toList ++ runsFrom up none (a + 1) len := by
  have hnot : ¬ up a = true := by rw [hdown]; exact Bool.false_ne_true
  cases o with
  | none => rw [runsFrom, if_neg hnot, Option.map_none, Option.toList_none, List.nil_append]
  | some i => rw [runsFrom, if_neg hnot, Option.map_some, Option.toList_some, List.singleton_append]

/-- Where the run that place `a` could continue has begun. -/
def Opened (up : ℕ → Bool) (a : ℕ) : Option ℕ → Prop
  | none => a = 0 ∨ up (a - 1) = false
  | some i => i < a ∧ (∀ k, i ≤ k → k < a → up k = true) ∧ (i = 0 ∨ up (i - 1) = false)

lemma Opened.next_up {o : Option ℕ} (h : Opened up a o) (hup : up a = true) :
    Opened up (a + 1) (some (o.getD a)) := by
  cases o with
  | none => exact ⟨a.lt_succ_self, fun k _ _ => by rwa [show k = a by grind], h⟩
  | some i =>
      obtain ⟨hlt, hall, hbefore⟩ := h
      refine ⟨Nat.lt_succ_of_lt hlt, fun k hik hka => ?_, hbefore⟩
      rcases Nat.eq_or_lt_of_le (Nat.le_of_lt_succ hka) with rfl | hlt'
      · exact hup
      · exact hall k hik hlt'

lemma opened_of_down (hdown : up a = false) : Opened up (a + 1) none := Or.inr hdown

/-- Which run ends at a place. -/
lemma closedRun_here_iff {o : Option ℕ} (h : Opened up a o) :
    ClosedRun up i a ↔ up a = false ∧ o = some i := by
  constructor
  · intro hrun
    have hlt := hrun.lt
    have hlast : up (a - 1) = true := hrun.all _ (by omega) (by omega)
    refine ⟨hrun.after, ?_⟩
    cases o with
    | none =>
        rcases h with h | h
        · omega
        · rw [h] at hlast
          exact absurd hlast Bool.false_ne_true
    | some f =>
        obtain ⟨hfa, hall, hbefore⟩ := h
        rcases Nat.lt_trichotomy f i with hfi | rfl | hif
        · rcases hrun.before with h0 | hdown
          · omega
          · rw [hall (i - 1) (by omega) (by omega)] at hdown
            exact absurd hdown.symm Bool.false_ne_true
        · rfl
        · rcases hbefore with h0 | hdown
          · omega
          · rw [hrun.all (f - 1) (by omega) (by omega)] at hdown
            exact absurd hdown.symm Bool.false_ne_true
  · rintro ⟨hdown, rfl⟩
    exact ⟨h.1, h.2.1, h.2.2, hdown⟩

/-- **The pass finds the closed runs**, all of them and nothing else. -/
theorem mem_runsFrom {o : Option ℕ} (h : Opened up a o) (len : ℕ) :
    (i, j) ∈ runsFrom up o a len ↔ ClosedRun up i j ∧ a ≤ j ∧ j < a + len := by
  induction len generalizing o a with
  | zero =>
      rw [runsFrom]
      refine ⟨fun hmem => absurd hmem List.not_mem_nil, ?_⟩
      rintro ⟨-, hle, hlt⟩
      omega
  | succ len ih =>
      have hhere : ClosedRun up i j ∧ a ≤ j ∧ j < a + (len + 1) ↔
          (up a = false ∧ o = some i ∧ j = a) ∨
            (ClosedRun up i j ∧ a + 1 ≤ j ∧ j < a + 1 + len) := by
        constructor
        · rintro ⟨hrun, hle, hlt⟩
          rcases Nat.eq_or_lt_of_le hle with rfl | hgt
          · obtain ⟨hdown, ho⟩ := (closedRun_here_iff h).mp hrun
            exact .inl ⟨hdown, ho, rfl⟩
          · exact .inr ⟨hrun, hgt, by omega⟩
        · rintro (⟨hdown, ho, rfl⟩ | ⟨hrun, hle, hlt⟩)
          · exact ⟨(closedRun_here_iff h).mpr ⟨hdown, ho⟩, le_rfl, by omega⟩
          · exact ⟨hrun, by omega, by omega⟩
      rw [hhere]
      cases hflag : up a with
      | true =>
          rw [runsFrom_up o hflag, ih (h.next_up hflag)]
          simp only [Bool.true_eq_false, false_and, false_or]
      | false =>
          rw [runsFrom_down o hflag, List.mem_append, ih (opened_of_down hflag)]
          simp only [Option.mem_toList, Option.map_eq_some_iff, Prod.mk.injEq, true_and]
          refine or_congr_left ⟨?_, ?_⟩
          · rintro ⟨f, rfl, rfl, rfl⟩
            exact ⟨rfl, rfl⟩
          · rintro ⟨rfl, rfl⟩
            exact ⟨i, rfl, rfl, rfl⟩

/-- The closed runs among the first `n` places, in their order. -/
def runs (up : ℕ → Bool) (n : ℕ) : List (ℕ × ℕ) := runsFrom up none 0 n

lemma opened_start : Opened up 0 none := .inl rfl

lemma mem_runs {r : ℕ × ℕ} : r ∈ runs up n ↔ r ∈ closedRuns up n := by
  rw [runs, mem_runsFrom opened_start]
  simp only [Nat.zero_le, true_and, Nat.zero_add, closedRuns, Set.mem_ofPred_eq]

/-- Only the flags of the places looked at matter. -/
lemma runsFrom_congr {up' : ℕ → Bool} {o : Option ℕ} {len : ℕ}
    (h : ∀ k, a ≤ k → k < a + len → up k = up' k) :
    runsFrom up o a len = runsFrom up' o a len := by
  induction len generalizing o a with
  | zero => rfl
  | succ len ih =>
      have hrest : ∀ {o}, runsFrom up o (a + 1) len = runsFrom up' o (a + 1) len :=
        ih fun k hle hlt => h k (by omega) (by omega)
      have hhere : up a = up' a := h a le_rfl (by omega)
      cases hflag : up a with
      | true => rw [runsFrom_up o hflag, runsFrom_up o (hhere ▸ hflag), hrest]
      | false => rw [runsFrom_down o hflag, runsFrom_down o (hhere ▸ hflag), hrest]

lemma runsFrom_sorted {o : Option ℕ} (h : Opened up a o) (len : ℕ) :
    (runsFrom up o a len).Pairwise fun p q => p.1 < q.1 := by
  induction len generalizing o a with
  | zero => exact List.Pairwise.nil
  | succ len ih =>
      cases hflag : up a with
      | true =>
          rw [runsFrom_up o hflag]
          exact ih (h.next_up hflag)
      | false =>
          have hopened := opened_of_down hflag
          rw [runsFrom_down o hflag]
          cases o with
          | none => exact ih hopened
          | some f =>
              refine List.pairwise_cons.mpr ⟨?_, ih hopened⟩
              rintro ⟨i, j⟩ hmem
              obtain ⟨hrun, hle, -⟩ := (mem_runsFrom hopened len).mp hmem
              have hhere := (closedRun_here_iff h).mpr ⟨hflag, rfl⟩
              exact hhere.lt.trans (hhere.lt_of_lt hrun hle)

/-- The runs are found in their order. -/
lemma runs_sorted : (runs up n).Pairwise fun p q => p.1 < q.1 := runsFrom_sorted opened_start n

/-! ## Choosing one -/

section Climb

variable {K : Type*} [LinearOrder K] {width : ℕ × ℕ → K} {best r : ℕ × ℕ} {rs : List (ℕ × ℕ)}

/-- Go from run to run as long as they become wider. -/
def climb {α K : Type*} [LinearOrder K] (width : α → K) : (best : α) → List α → α
  | best, [] => best
  | best, r :: rs => if width best < width r then climb width r rs else best

lemma climb_mem {α : Type*} (width : α → K) (best : α) (rs : List α) :
    climb width best rs = best ∨ climb width best rs ∈ rs := by
  induction rs generalizing best with
  | nil => exact .inl rfl
  | cons r rs ih =>
      rw [climb]
      split
      · rcases ih r with heq | hmem
        · rw [heq]
          exact .inr List.mem_cons_self
        · exact .inr (List.mem_cons_of_mem r hmem)
      · exact .inl rfl

/-- From something narrower than all the runs the climb gets to one of them. -/
lemma climb_mem_of_narrower {α : Type*} {width : α → K} {best r : α} {rs : List α} (hr : r ∈ rs)
    (hbest : ∀ p ∈ rs, width best < width p) : climb width best rs ∈ rs := by
  cases rs with
  | nil => exact absurd hr List.not_mem_nil
  | cons x rs =>
      rw [climb, if_pos (hbest x List.mem_cons_self), List.mem_cons]
      exact climb_mem width x rs

lemma climb_map {α β : Type*} (f : α → β) (width : β → K) (best : α) (rs : List α) :
    climb width (f best) (rs.map f) = f (climb (fun r => width (f r)) best rs) := by
  induction rs generalizing best with
  | nil => rfl
  | cons r rs ih =>
      rw [List.map_cons, climb, climb, ih]
      split <;> rfl

/-- The runs come in increasing width up to this one, and the next is not wider. -/
structure Peak (width : ℕ × ℕ → K) (S : Set (ℕ × ℕ)) (r : ℕ × ℕ) : Prop where
  grow : ∀ p ∈ S, ∀ q ∈ S, p.1 < q.1 → q.1 ≤ r.1 → width p < width q
  stop : ∀ q ∈ S, r.1 < q.1 → (∀ p ∈ S, r.1 < p.1 → q.1 ≤ p.1) → width q ≤ width r

/-- The first of the widest runs. -/
structure FirstWidest (width : ℕ × ℕ → K) (S : Set (ℕ × ℕ)) (r : ℕ × ℕ) : Prop where
  mem : r ∈ S
  widest : ∀ q ∈ S, width q ≤ width r
  first : ∀ q ∈ S, q.1 < r.1 → width q < width r

lemma climb_eq_self_iff (hnot : best ∉ rs) :
    climb width best rs = best ↔ ∀ q ∈ rs.head?, width q ≤ width best := by
  cases rs with
  | nil => simp [climb]
  | cons r rs =>
      simp only [List.head?_cons, Option.mem_some_iff, forall_eq', climb]
      split
      · next hlt =>
          refine iff_of_false (fun heq => ?_) (not_le.mpr hlt)
          rcases climb_mem width r rs with hmem | hmem
          · exact hnot (List.mem_cons.mpr (.inl (heq.symm.trans hmem)))
          · exact hnot (List.mem_cons_of_mem r (heq ▸ hmem))
      · next hge => exact iff_of_true rfl (not_lt.mp hge)

/-- The next run after the first is the head of the others. -/
lemma stop_first_iff {x : ℕ × ℕ} (hx : ∀ p ∈ rs, x.1 < p.1)
    (hsorted : rs.Pairwise fun p q => p.1 < q.1) :
    (∀ q ∈ x :: rs, x.1 < q.1 → (∀ p ∈ x :: rs, x.1 < p.1 → q.1 ≤ p.1) → width q ≤ width x) ↔
      ∀ q ∈ rs.head?, width q ≤ width x := by
  cases rs with
  | nil => simp
  | cons y rs =>
      simp only [List.head?_cons, Option.mem_some_iff, forall_eq']
      have hy : ∀ p ∈ rs, y.1 < p.1 := (List.pairwise_cons.mp hsorted).1
      constructor
      · intro hstop
        refine hstop y (by simp) (hx y List.mem_cons_self) fun p hp hlt => ?_
        simp only [List.mem_cons] at hp
        rcases hp with rfl | rfl | hp
        · exact absurd hlt (lt_irrefl _)
        · exact le_rfl
        · exact (hy p hp).le
      · intro hle q hq hlt hfirst
        simp only [List.mem_cons] at hq
        rcases hq with rfl | rfl | hq
        · exact le_rfl
        · exact hle
        · exact absurd (hfirst y (by simp) (hx y List.mem_cons_self)) (not_le.mpr (hy q hq))

/-- The first run is a peak if the next is not wider. -/
lemma peak_first_iff {x : ℕ × ℕ} (hx : ∀ p ∈ rs, x.1 < p.1)
    (hsorted : rs.Pairwise fun p q => p.1 < q.1) :
    Peak width {p | p ∈ x :: rs} x ↔ ∀ q ∈ rs.head?, width q ≤ width x := by
  rw [← stop_first_iff hx hsorted]
  refine ⟨Peak.stop, fun hstop => ⟨fun p hp q _ hpq hle => ?_, hstop⟩⟩
  rcases List.mem_cons.mp hp with rfl | hp
  · exact absurd hpq (not_lt.mpr hle)
  · exact absurd ((hx p hp).trans hpq) (not_lt.mpr hle)

/-- A later run is a peak if it is one without the first run, and that is narrower than the runs up
to the peak. -/
lemma peak_later_iff {x : ℕ × ℕ} (hx : ∀ p ∈ rs, x.1 < p.1) (hr : r ∈ rs) :
    Peak width {p | p ∈ x :: rs} r ↔
      (∀ p ∈ rs, p.1 ≤ r.1 → width x < width p) ∧ Peak width {p | p ∈ rs} r := by
  constructor
  · intro hpeak
    refine ⟨fun p hp hle => ?_, fun p hp q hq => ?_, fun q hq hlt hfirst => ?_⟩
    · exact hpeak.grow x List.mem_cons_self p (List.mem_cons_of_mem x hp) (hx p hp) hle
    · exact hpeak.grow p (List.mem_cons_of_mem x hp) q (List.mem_cons_of_mem x hq)
    · refine hpeak.stop q (List.mem_cons_of_mem x hq) hlt fun p hp hrp => ?_
      rcases List.mem_cons.mp hp with rfl | hp
      · exact absurd hrp (not_lt.mpr (hx r hr).le)
      · exact hfirst p hp hrp
  · rintro ⟨hwider, hpeak⟩
    refine ⟨fun p hp q hq hpq hle => ?_, fun q hq hlater hfirst => ?_⟩
    · -- whichever `p` is, `q` comes after the first run
      have hlater : q ∈ rs := by
        rcases List.mem_cons.mp hq with rfl | hq
        · rcases List.mem_cons.mp hp with rfl | hp
          · exact absurd hpq (lt_irrefl _)
          · exact absurd hpq (not_lt.mpr (hx p hp).le)
        · exact hq
      rcases List.mem_cons.mp hp with rfl | hp
      · exact hwider q hlater hle
      · exact hpeak.grow p hp q hlater hpq hle
    · rcases List.mem_cons.mp hq with rfl | hq
      · exact absurd hlater (not_lt.mpr (hx r hr).le)
      · exact hpeak.stop q hq hlater fun p hp => hfirst p (List.mem_cons_of_mem x hp)

/-- Where the climb stops, from anything that is not one of the runs. -/
lemma climb_eq_iff_of_notMem (hsorted : rs.Pairwise fun p q => p.1 < q.1) (hnot : best ∉ rs)
    (hr : r ∈ rs) :
    climb width best rs = r ↔
      (∀ p ∈ rs, p.1 ≤ r.1 → width best < width p) ∧ Peak width {p | p ∈ rs} r := by
  induction rs generalizing best with
  | nil => exact absurd hr List.not_mem_nil
  | cons x rs ih =>
      obtain ⟨hx, hrest⟩ := List.pairwise_cons.mp hsorted
      have hxnot : x ∉ rs := fun hmem => lt_irrefl _ (hx x hmem)
      have hxr : x.1 ≤ r.1 := by
        rcases List.mem_cons.mp hr with rfl | hr
        · exact le_rfl
        · exact (hx r hr).le
      rw [climb]
      split
      · next hlt =>
          rcases List.mem_cons.mp hr with rfl | hr
          · rw [climb_eq_self_iff hxnot, peak_first_iff hx hrest]
            refine (and_iff_right fun p hp hle => ?_).symm
            rcases List.mem_cons.mp hp with rfl | hp
            · exact hlt
            · exact absurd (hx p hp) (not_lt.mpr hle)
          · rw [ih hrest hxnot hr, peak_later_iff hx hr]
            refine (and_iff_right_of_imp ?_).symm
            rintro ⟨hwider, -⟩ p hp hle
            rcases List.mem_cons.mp hp with rfl | hp
            · exact hlt
            · exact hlt.trans (hwider p hp hle)
      · next hge =>
          refine iff_of_false (fun heq => hnot (heq ▸ hr)) ?_
          rintro ⟨hwider, -⟩
          exact hge (hwider x List.mem_cons_self hxr)

variable {S : Set (ℕ × ℕ)}

/-- **What the climb stops at**, from something narrower than all the runs. -/
theorem climb_eq_iff (hS : ∀ p, p ∈ rs ↔ p ∈ S) (hsorted : rs.Pairwise fun p q => p.1 < q.1)
    (hbest : ∀ p ∈ S, width best < width p) (hr : r ∈ S) :
    climb width best rs = r ↔ Peak width S r := by
  obtain rfl : {p | p ∈ rs} = S := Set.ext hS
  have hnot : best ∉ rs := fun hmem => lt_irrefl _ (hbest best hmem)
  rw [climb_eq_iff_of_notMem hsorted hnot hr]
  exact and_iff_right fun p hp _ => hbest p hp

/-- **The climb finds the widest run** just when the runs up to it come in increasing width.  The
climb may see the widths through something that keeps their order, if not always strictly. -/
theorem climb_eq_widest_iff {see : K → K} (hsee : Monotone see) (hS : ∀ p, p ∈ rs ↔ p ∈ S)
    (hsorted : rs.Pairwise fun p q => p.1 < q.1)
    (hbest : ∀ p ∈ S, see (width best) < see (width p)) (hr : FirstWidest width S r) :
    climb (fun p => see (width p)) best rs = r ↔
      ∀ p ∈ S, ∀ q ∈ S, p.1 < q.1 → q.1 ≤ r.1 → see (width p) < see (width q) := by
  rw [climb_eq_iff hS hsorted hbest hr.mem]
  exact ⟨Peak.grow, fun hgrow => ⟨hgrow, fun q hq _ _ => hsee (hr.widest q hq)⟩⟩

end Climb

end Sectors
