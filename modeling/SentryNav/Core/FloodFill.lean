import SentryNav.Core.Loop
import Mathlib.Data.Fintype.Card
import Mathlib.Logic.Relation

/-!
# Flood fills

A fill spreads over cells from a start, with a queue.  A cell taken from the queue looks at the
cells in its window: each that has not been seen before it either joins to itself, and puts in the
queue, or bars, or leaves to others.  So what becomes of a cell is up to the first cell that decides
on it, and a cell that one cell bars is lost to all others.

* `fill_total`: a fill comes to an end, and then the queue is empty and each cell has been queued
  once at most.
* `Spreading.linked`: whatever has been queued is linked to the start.
* `Filled.visited_or_barred`: along every chain of links from the start, all cells have been
  visited, or some cell has been barred.
-/

namespace FloodFill

open Loop

variable {ι : Type*}

/-- What has become of a cell. -/
inductive Mark
  | unseen
  | queued
  | visited
  | barred
deriving DecidableEq

/-- How a fill spreads: the cells a cell looks at, and which of them it joins or, if it does not,
bars. -/
structure Spread (ι : Type*) where
  window : ι → List ι
  joins : ι → ι → Bool
  bars : ι → ι → Bool

/-- A fill under way.  `pushed` lists what has been put in the queue, newest first. -/
structure State (ι : Type*) where
  queue : List ι
  mark : ι → Mark
  pushed : List ι

variable [DecidableEq ι]

def State.setMark (s : State ι) (c : ι) (m : Mark) : State ι :=
  { s with mark := Function.update s.mark c m }

/-- Put a cell in the queue. -/
def State.push (s : State ι) (c : ι) : State ι :=
  { s.setMark c .queued with queue := s.queue ++ [c], pushed := c :: s.pushed }

/-- A fill that begins. -/
def State.start (c : ι) : State ι := State.push ⟨[], fun _ => .unseen, []⟩ c

/-- A visited cell looks at a cell. -/
def look (R : Spread ι) (front : ι) (s : State ι) (c : ι) : State ι :=
  if s.mark c = .unseen then
    if R.joins front c then s.push c
    else if R.bars front c then s.setMark c .barred
    else s
  else s

/-- Take a cell from the queue and visit it. -/
def visit (R : Spread ι) (front : ι) (s : State ι) : State ι :=
  (R.window front).foldl (look R front) { s.setMark front .visited with queue := s.queue.tail }

/-- A pass of the loop. -/
def fillPass (R : Spread ι) (s : State ι) : Pass (State ι) (State ι) :=
  match s.queue with
  | [] => .leave s
  | front :: _ => .again (visit R front s)

def fill (R : Spread ι) (fuel : ℕ) (s : State ι) : Option (State ι) := loop (fillPass R) fuel s

/-! ## What a look does -/

variable {R : Spread ι} {s : State ι} {start front : ι}

omit [DecidableEq ι] in
/-- A cell joins another in its window. -/
def Linked (R : Spread ι) (a b : ι) : Prop := b ∈ R.window a ∧ R.joins a b = true

@[simp] lemma setMark_queue (c : ι) (m : Mark) : (s.setMark c m).queue = s.queue := rfl

@[simp] lemma setMark_pushed (c : ι) (m : Mark) : (s.setMark c m).pushed = s.pushed := rfl

lemma setMark_mark (c b : ι) (m : Mark) :
    (s.setMark c m).mark b = if b = c then m else s.mark b :=
  Function.update_apply _ _ _ _

@[simp] lemma push_queue (c : ι) : (s.push c).queue = s.queue ++ [c] := rfl

@[simp] lemma push_pushed (c : ι) : (s.push c).pushed = c :: s.pushed := rfl

lemma push_mark (c b : ι) : (s.push c).mark b = if b = c then .queued else s.mark b :=
  setMark_mark c b _

/-- The three things a look can do. -/
lemma look_cases (R : Spread ι) (front : ι) (s : State ι) (c : ι) :
    (s.mark c = .unseen ∧ R.joins front c = true ∧ look R front s c = s.push c) ∨
      (s.mark c = .unseen ∧ R.bars front c = true ∧ look R front s c = s.setMark c .barred) ∨
      (look R front s c = s ∧ (s.mark c = .unseen → R.joins front c = false)) := by
  rw [look]
  split
  · next hunseen =>
      split
      · next hjoins => exact Or.inl ⟨hunseen, hjoins, rfl⟩
      · next hnot =>
          split
          · next hbars => exact Or.inr (Or.inl ⟨hunseen, hbars, rfl⟩)
          · exact Or.inr (Or.inr ⟨rfl, fun _ => Bool.eq_false_iff.mpr hnot⟩)
  · next hseen => exact Or.inr (Or.inr ⟨rfl, fun hunseen => absurd hunseen hseen⟩)

/-- A look changes no mark but that of a cell not seen before, and visits none. -/
lemma look_mark (R : Spread ι) (front : ι) (s : State ι) (c b : ι) :
    (look R front s c).mark b = s.mark b ∨
      s.mark b = .unseen ∧ (look R front s c).mark b ≠ .unseen ∧
        (look R front s c).mark b ≠ .visited := by
  by_cases hb : b = c
  · subst hb
    rcases look_cases R front s b with ⟨hunseen, -, h⟩ | ⟨hunseen, -, h⟩ | ⟨h, -⟩
    · refine Or.inr ⟨hunseen, ?_⟩
      simp [h, push_mark]
    · refine Or.inr ⟨hunseen, ?_⟩
      simp [h, setMark_mark]
    · rw [h]
      exact Or.inl rfl
  · rcases look_cases R front s c with ⟨-, -, h⟩ | ⟨-, -, h⟩ | ⟨h, -⟩
    · simp [h, push_mark, hb]
    · simp [h, setMark_mark, hb]
    · simp [h]

lemma look_visited_iff (c b : ι) :
    (look R front s c).mark b = .visited ↔ s.mark b = .visited := by
  rcases look_mark R front s c b with h | ⟨hunseen, -, hnot⟩
  · rw [h]
  · simp [hunseen, hnot]

lemma look_ne_unseen {c b : ι} (h : s.mark b ≠ .unseen) : (look R front s c).mark b ≠ .unseen := by
  rcases look_mark R front s c b with heq | ⟨hunseen, -, -⟩
  · rw [heq]
    exact h
  · exact absurd hunseen h

lemma look_joined {c : ι} (h : R.joins front c = true) : (look R front s c).mark c ≠ .unseen := by
  rcases look_cases R front s c with ⟨-, -, heq⟩ | ⟨-, -, heq⟩ | ⟨heq, hnot⟩
  · simp [heq, push_mark]
  · simp [heq, setMark_mark]
  · rw [heq]
    intro hunseen
    exact Bool.false_ne_true ((hnot hunseen).symm.trans h)

lemma foldl_look_visited_iff (cells : List ι) (b : ι) :
    (cells.foldl (look R front) s).mark b = .visited ↔ s.mark b = .visited := by
  induction cells generalizing s with
  | nil => rfl
  | cons c cells ih => rw [List.foldl_cons, ih, look_visited_iff]

lemma foldl_look_ne_unseen (cells : List ι) {b : ι} (h : s.mark b ≠ .unseen) :
    (cells.foldl (look R front) s).mark b ≠ .unseen := by
  induction cells generalizing s with
  | nil => exact h
  | cons c cells ih => exact ih (look_ne_unseen h)

/-- A cell has been seen after a cell that joins it has looked at it. -/
lemma foldl_look_joined {cells : List ι} {b : ι} (hb : b ∈ cells) (h : R.joins front b = true) :
    (cells.foldl (look R front) s).mark b ≠ .unseen := by
  induction cells generalizing s with
  | nil => exact absurd hb List.not_mem_nil
  | cons c cells ih =>
      rcases List.mem_cons.mp hb with rfl | hrest
      · exact foldl_look_ne_unseen cells (look_joined h)
      · exact ih hrest

/-! ## What a fill keeps -/

/-- What holds whenever a cell has looked at another. -/
structure Spreading (R : Spread ι) (start : ι) (s : State ι) : Prop where
  queue_nodup : s.queue.Nodup
  mem_queue : ∀ c, c ∈ s.queue ↔ s.mark c = .queued
  pushed_nodup : s.pushed.Nodup
  mem_pushed : ∀ c, c ∈ s.pushed ↔ s.mark c = .queued ∨ s.mark c = .visited
  start_pushed : start ∈ s.pushed
  linked : ∀ c ∈ s.pushed, Relation.ReflTransGen (Linked R) start c
  barred : ∀ b, s.mark b = .barred → ∃ a, s.mark a = .visited ∧ b ∈ R.window a ∧ R.bars a b = true

lemma spreading_start (R : Spread ι) (start : ι) : Spreading R start (State.start start) where
  queue_nodup := List.nodup_singleton start
  mem_queue c := by
    by_cases hc : c = start <;> simp [State.start, push_mark, hc]
  pushed_nodup := List.nodup_singleton start
  mem_pushed c := by
    by_cases hc : c = start <;> simp [State.start, push_mark, hc]
  start_pushed := List.mem_singleton_self start
  linked c hc := by
    rw [List.mem_singleton.mp hc]
  barred b hb := by
    rw [State.start, push_mark] at hb
    split at hb <;> exact absurd hb nofun

/-- Putting a cell in the queue that has not been seen, and that a visited cell joins. -/
lemma Spreading.push (h : Spreading R start s) {c : ι} (hunseen : s.mark c = .unseen)
    (hfront : s.mark front = .visited) (hlink : Linked R front c) :
    Spreading R start (s.push c) where
  queue_nodup := by
    have hnew : c ∉ s.queue := by simp [h.mem_queue, hunseen]
    rw [push_queue, List.nodup_append]
    refine ⟨h.queue_nodup, List.nodup_singleton c, fun a ha b hb => ?_⟩
    rw [List.mem_singleton.mp hb]
    rintro rfl
    exact hnew ha
  mem_queue b := by
    by_cases hb : b = c <;> simp [push_mark, h.mem_queue, hb]
  pushed_nodup := by
    rw [push_pushed, List.nodup_cons, h.mem_pushed]
    simp [hunseen, h.pushed_nodup]
  mem_pushed b := by
    by_cases hb : b = c <;> simp [push_mark, h.mem_pushed, hb]
  start_pushed := List.mem_cons_of_mem c h.start_pushed
  linked b hb := by
    rcases List.mem_cons.mp hb with rfl | hold
    · exact (h.linked front ((h.mem_pushed front).mpr (Or.inr hfront))).tail hlink
    · exact h.linked b hold
  barred b hb := by
    by_cases hbc : b = c
    · simp [push_mark, hbc] at hb
    · simp only [push_mark, hbc, if_false] at hb
      obtain ⟨a, ha, hwindow, hbars⟩ := h.barred b hb
      refine ⟨a, ?_, hwindow, hbars⟩
      have hac : a ≠ c := by
        rintro rfl
        simp [hunseen] at ha
      simpa [push_mark, hac] using ha

/-- Barring a cell that has not been seen. -/
lemma Spreading.bar (h : Spreading R start s) {c : ι} (hunseen : s.mark c = .unseen)
    (hfront : s.mark front = .visited) (hwindow : c ∈ R.window front)
    (hbars : R.bars front c = true) : Spreading R start (s.setMark c .barred) where
  queue_nodup := h.queue_nodup
  mem_queue b := by
    by_cases hb : b = c <;> simp [setMark_mark, h.mem_queue, hb, hunseen]
  pushed_nodup := h.pushed_nodup
  mem_pushed b := by
    by_cases hb : b = c <;> simp [setMark_mark, h.mem_pushed, hb, hunseen]
  start_pushed := h.start_pushed
  linked := h.linked
  barred b hb := by
    have hkept : ∀ a, s.mark a = .visited → (s.setMark c .barred).mark a = .visited := by
      intro a ha
      have hac : a ≠ c := by
        rintro rfl
        simp [hunseen] at ha
      simpa [setMark_mark, hac] using ha
    by_cases hbc : b = c
    · rw [hbc]
      exact ⟨front, hkept front hfront, hwindow, hbars⟩
    · simp only [setMark_mark, hbc, if_false] at hb
      obtain ⟨a, ha, hold⟩ := h.barred b hb
      exact ⟨a, hkept a ha, hold⟩

lemma Spreading.look (h : Spreading R start s) (hfront : s.mark front = .visited) {c : ι}
    (hwindow : c ∈ R.window front) : Spreading R start (look R front s c) := by
  rcases look_cases R front s c with ⟨hunseen, hjoins, heq⟩ | ⟨hunseen, hbars, heq⟩ | ⟨heq, -⟩
  · rw [heq]
    exact h.push hunseen hfront ⟨hwindow, hjoins⟩
  · rw [heq]
    exact h.bar hunseen hfront hwindow hbars
  · rw [heq]
    exact h

lemma Spreading.foldl (h : Spreading R start s) (hfront : s.mark front = .visited)
    {cells : List ι} (hcells : ∀ c ∈ cells, c ∈ R.window front) :
    Spreading R start (cells.foldl (FloodFill.look R front) s) := by
  induction cells generalizing s with
  | nil => exact h
  | cons c cells ih =>
      have hnext := h.look hfront (hcells c List.mem_cons_self)
      refine ih hnext ((look_visited_iff c front).mpr hfront) fun b hb => ?_
      exact hcells b (List.mem_cons_of_mem c hb)

/-- Taking a cell from the queue. -/
lemma Spreading.take (h : Spreading R start s) {rest : List ι} (hqueue : s.queue = front :: rest) :
    Spreading R start { s.setMark front .visited with queue := s.queue.tail } := by
  have hnodup := h.queue_nodup
  rw [hqueue, List.nodup_cons] at hnodup
  have hfront : s.mark front = .queued := (h.mem_queue front).mp (by simp [hqueue])
  have hmark : ∀ b, (s.setMark front .visited).mark b
      = if b = front then .visited else s.mark b := fun b => setMark_mark front b _
  exact
    { queue_nodup := by
        rw [hqueue]
        exact hnodup.2
      mem_queue := fun b => by
        have hmem := h.mem_queue b
        rw [hqueue] at hmem ⊢
        by_cases hb : b = front
        · simp [hmark, hb, hnodup.1]
        · simpa [hmark, hb] using hmem
      pushed_nodup := h.pushed_nodup
      mem_pushed := fun b => by
        by_cases hb : b = front
        · simp [hmark, hb, h.mem_pushed, hfront]
        · simp [hmark, hb, h.mem_pushed]
      start_pushed := h.start_pushed
      linked := h.linked
      barred := fun b hb => by
        have hbf : b ≠ front := by
          rintro rfl
          simp [hmark] at hb
        simp only [hmark, hbf, if_false] at hb
        obtain ⟨a, ha, hold⟩ := h.barred b hb
        refine ⟨a, ?_, hold⟩
        simp [hmark, ha] }

/-- What holds at the top of every pass. -/
structure Filling (R : Spread ι) (start : ι) (s : State ι) : Prop extends Spreading R start s where
  seen : ∀ a b, s.mark a = .visited → Linked R a b → s.mark b ≠ .unseen

lemma filling_start (R : Spread ι) (start : ι) : Filling R start (State.start start) where
  toSpreading := spreading_start R start
  seen a b ha := by
    rw [State.start, push_mark] at ha
    split at ha <;> exact absurd ha nofun

/-- What has been visited after a visit. -/
lemma visit_visited_iff (b : ι) :
    (visit R front s).mark b = .visited ↔ b = front ∨ s.mark b = .visited := by
  rw [visit, foldl_look_visited_iff]
  show (s.setMark front .visited).mark b = .visited ↔ _
  rw [setMark_mark]
  split
  · next hb => simp [hb]
  · next hb => simp [hb]

lemma Filling.visit (h : Filling R start s) {rest : List ι} (hqueue : s.queue = front :: rest) :
    Filling R start (visit R front s) where
  toSpreading := by
    refine (h.take hqueue).foldl ?_ fun c hc => hc
    exact (setMark_mark front front _).trans (if_pos rfl)
  seen a b ha hlink := by
    rcases (visit_visited_iff a).mp ha with rfl | hold
    · exact foldl_look_joined hlink.1 hlink.2
    · refine foldl_look_ne_unseen _ ?_
      show (s.setMark front .visited).mark b ≠ .unseen
      rw [setMark_mark]
      split
      · exact nofun
      · exact h.seen a b hold hlink

/-! ## The end of a fill -/

/-- A fill that has come to its end. -/
structure Filled (R : Spread ι) (start : ι) (s : State ι) : Prop extends Filling R start s where
  queue_empty : s.queue = []

/-- The cells that have not been visited. -/
def unvisited [Fintype ι] (s : State ι) : Finset ι :=
  Finset.univ.filter fun c => s.mark c ≠ .visited

lemma card_unvisited_visit_lt [Fintype ι] (hfront : s.mark front ≠ .visited) :
    (unvisited (visit R front s)).card < (unvisited s).card := by
  apply Finset.card_lt_card
  rw [Finset.ssubset_iff_of_subset]
  · refine ⟨front, by simp [unvisited, hfront], ?_⟩
    simp [unvisited, visit_visited_iff]
  · intro c hc
    simp only [unvisited, Finset.mem_filter, Finset.mem_univ, true_and, ne_eq,
      visit_visited_iff, not_or] at hc ⊢
    exact hc.2

/-- **A fill comes to an end**, with as many passes as there are cells. -/
theorem fill_total [Fintype ι] (R : Spread ι) (start : ι) :
    ∃ s, fill R (Fintype.card ι + 1) (State.start start) = some s ∧ Filled R start s := by
  refine loop_total (Filling R start) (Filled R start) (fun s => (unvisited s).card)
    (fun s h => ?_) _ _ (filling_start R start) (Nat.lt_succ_of_le (Finset.card_le_univ _))
  rw [fillPass]
  split
  · next hempty => exact ⟨h, hempty⟩
  · next front rest hqueue =>
      have hfront : s.mark front = .queued := (h.mem_queue front).mp (by simp [hqueue])
      exact ⟨h.visit hqueue, card_unvisited_visit_lt (by simp [hfront])⟩

omit [DecidableEq ι] in
/-- What has been queued has been visited. -/
lemma Filled.mark_ne_queued (h : Filled R start s) (c : ι) : s.mark c ≠ .queued := by
  rw [Ne, ← h.mem_queue, h.queue_empty]
  exact List.not_mem_nil

omit [DecidableEq ι] in
lemma Filled.visited_start (h : Filled R start s) : s.mark start = .visited :=
  ((h.mem_pushed start).mp h.start_pushed).resolve_left (h.mark_ne_queued start)

omit [DecidableEq ι] in
/-- **Along every chain of links** from a visited cell, all cells have been visited, or some cell
has been barred. -/
theorem Filled.visited_or_barred (h : Filled R start s) {a : ι} (ha : s.mark a = .visited)
    {chain : List ι} (hchain : (a :: chain).IsChain (Linked R)) :
    (∀ c ∈ chain, s.mark c = .visited) ∨ ∃ b ∈ chain, s.mark b = .barred := by
  induction chain generalizing a with
  | nil => exact Or.inl fun c hc => absurd hc List.not_mem_nil
  | cons b chain ih =>
      rw [List.isChain_cons_cons] at hchain
      cases hb : s.mark b with
      | unseen => exact absurd hb (h.seen a b ha hchain.1)
      | queued => exact absurd hb (h.mark_ne_queued b)
      | barred => exact Or.inr ⟨b, List.mem_cons_self, hb⟩
      | visited =>
          rcases ih hb hchain.2 with hall | ⟨c, hc, hbarred⟩
          · left
            intro c hc
            rcases List.mem_cons.mp hc with rfl | hrest
            · exact hb
            · exact hall c hrest
          · exact Or.inr ⟨c, List.mem_cons_of_mem b hc, hbarred⟩

end FloodFill
