import Mathlib.Data.List.Induction
import Mathlib.Data.List.Nodup
import Mathlib.Data.List.TakeDrop
import Mathlib.Tactic.Common

/-!
# Stores that forget what was used least recently

Things are put in a store under keys.  The store has room for some number of keys; a key that comes
in when it is full drives out the one that has not been used for the longest time, with all that was
put under it.

* `recent` is the keys of a history, the one used last first.
* `run_touch`: what is in the store, after any history, is the first of these keys, and under each
  of them what has come since the key was last absent.  So which keys are there does not depend on
  what happened before they were used last, and a larger store holds all that a smaller one holds.
-/

namespace Recency

variable {κ α : Type*} [DecidableEq κ]

/-! ## Keys in the order of their last use -/

/-- The keys of a history, newest first: each once, the one used last first. -/
def recent : List κ → List κ
  | [] => []
  | k :: earlier => k :: (recent earlier).erase k

lemma nodup_recent (history : List κ) : (recent history).Nodup := by
  induction history with
  | nil => exact List.nodup_nil
  | cons k earlier ih => exact List.nodup_cons.mpr ⟨ih.not_mem_erase, ih.erase k⟩

/-- Using a key that is among the first ones changes their order only. -/
lemma take_recent_of_mem {n : ℕ} {k : κ} {l : List κ} (hk : k ∈ l.take n) :
    (k :: l.erase k).take n = k :: (l.take n).erase k := by
  have hpos : 0 < (l.take n).length := List.length_pos_of_mem hk
  have hlength : (k :: (l.take n).erase k).length = (l.take n).length := by
    rw [List.length_cons, List.length_erase_of_mem hk]
    omega
  have hsplit : l.erase k = (l.take n).erase k ++ l.drop n := by
    conv_lhs => rw [← List.take_append_drop n l]
    exact List.erase_append_left _ hk
  rw [hsplit, ← List.cons_append]
  rcases Nat.lt_or_ge l.length n with hshort | hlong
  · rw [List.drop_of_length_le (Nat.le_of_lt hshort), List.append_nil, List.take_of_length_le]
    rw [hlength]
    exact List.length_take_le n l
  · rw [List.take_left']
    rw [hlength, List.length_take, Nat.min_eq_left hlong]

/-- Using another key drives out the last one. -/
lemma take_recent_of_notMem {n : ℕ} {k : κ} {l : List κ} (hk : k ∉ l.take n) :
    (k :: l.erase k).take n = (k :: l.take n).take n := by
  cases n with
  | zero => rfl
  | succ n =>
      rw [List.take_succ_cons, List.take_succ_cons]
      congr 1
      have hsplit : l.erase k = l.take (n + 1) ++ (l.drop (n + 1)).erase k := by
        conv_lhs => rw [← List.take_append_drop (n + 1) l]
        exact List.erase_append_right _ hk
      rw [hsplit]
      rcases Nat.lt_or_ge l.length (n + 1) with hshort | hlong
      · rw [List.drop_of_length_le (Nat.le_of_lt hshort), List.erase_nil, List.append_nil]
      · rw [List.take_append_of_le_length]
        rw [List.length_take, Nat.min_eq_left hlong]
        exact n.le_succ

/-! ## The store -/

variable (key : α → κ) (n : ℕ)

/-- Put a thing in a store with room for a number of keys. -/
def touch (store : List (κ × List α)) (x : α) : List (κ × List α) :=
  match store.find? fun e => e.1 = key x with
  | some e => (e.1, e.2 ++ [x]) :: store.eraseP fun e => e.1 = key x
  | none => ((key x, [x]) :: store).take n

/-- The keys that are in a store after a history, newest first. -/
def present (history : List α) : List κ := (recent (history.map key)).take n

/-- What a history, newest first, has put under a key since the key was last absent. -/
def since : List α → κ → List α
  | [], _ => []
  | x :: earlier, k =>
      (if k ∈ present key n earlier then since earlier k else []) ++ if key x = k then [x] else []

/-- A store, from its history. -/
def contents (history : List α) : List (κ × List α) :=
  (present key n history).map fun k => (k, since key n history k)

variable {key n}

lemma nodup_present (history : List α) : (present key n history).Nodup :=
  (nodup_recent _).sublist (List.take_sublist _ _)

lemma find?_contents {history : List α} {k : κ} (h : k ∈ present key n history) :
    (contents key n history).find? (fun e => e.1 = k) = some (k, since key n history k) := by
  rw [contents, List.find?_map]
  have hfind : (present key n history).find? ((fun e => decide (e.1 = k)) ∘
      fun k => (k, since key n history k)) = some k := by
    rw [List.find?_eq_some_iff_append]
    obtain ⟨before, after, hsplit⟩ := List.append_of_mem h
    refine ⟨by simp, before, after, hsplit, fun k' hk' => ?_⟩
    have hnodup : (present key n history).Nodup := nodup_present history
    rw [hsplit, List.nodup_append] at hnodup
    have hne : k' ≠ k := hnodup.2.2 k' hk' k List.mem_cons_self
    simpa using hne
  rw [hfind, Option.map_some]

lemma find?_contents_of_notMem {history : List α} {k : κ} (h : k ∉ present key n history) :
    (contents key n history).find? (fun e => e.1 = k) = none := by
  rw [List.find?_eq_none]
  intro e he
  obtain ⟨k', hk', rfl⟩ := List.mem_map.mp he
  have hne : k' ≠ k := fun heq => h (heq ▸ hk')
  simpa using hne

lemma eraseP_contents (history : List α) (k : κ) :
    (contents key n history).eraseP (fun e => e.1 = k)
      = ((present key n history).erase k).map fun k' => (k', since key n history k') := by
  rw [contents, List.eraseP_map, List.erase_eq_eraseP']
  rfl

lemma key_of_mem_since {history : List α} {k : κ} {x : α} (hx : x ∈ since key n history k) :
    key x = k := by
  induction history with
  | nil => cases hx
  | cons y earlier ih =>
      rw [since, List.mem_append] at hx
      rcases hx with hx | hx
      · split_ifs at hx
        · exact ih hx
        · cases hx
      · split_ifs at hx with hy
        · exact List.mem_singleton.mp hx ▸ hy
        · cases hx

/-- One thing more. -/
lemma touch_contents (history : List α) (x : α) :
    touch key n (contents key n history) x = contents key n (x :: history) := by
  rw [touch]
  by_cases h : key x ∈ present key n history
  · have hpresent : present key n (x :: history)
        = key x :: (present key n history).erase (key x) :=
      take_recent_of_mem h
    rw [find?_contents h]
    show (key x, since key n history (key x) ++ [x]) ::
      (contents key n history).eraseP (fun e => e.1 = key x) = _
    rw [eraseP_contents, contents, hpresent, List.map_cons, since, if_pos h, if_pos rfl]
    congr 1
    refine List.map_congr_left fun k hk => ?_
    have hmem : k ∈ present key n history := List.mem_of_mem_erase hk
    have hne : key x ≠ k := by
      rintro rfl
      exact (nodup_present history).not_mem_erase hk
    rw [since, if_pos hmem, if_neg hne, List.append_nil]
  · have hpresent : present key n (x :: history) = (key x :: present key n history).take n :=
      take_recent_of_notMem h
    rw [find?_contents_of_notMem h]
    show ((key x, [x]) :: contents key n history).take n = _
    rw [contents, contents, hpresent]
    cases n with
    | zero => rfl
    | succ n =>
        rw [List.take_succ_cons, List.take_succ_cons, List.map_cons, since, if_neg h, if_pos rfl,
          List.nil_append, ← List.map_take]
        congr 1
        refine List.map_congr_left fun k hk => ?_
        have hmem := List.mem_of_mem_take hk
        have hne : key x ≠ k := by
          rintro rfl
          exact h hmem
        rw [since, if_pos hmem, if_neg hne, List.append_nil]

/-- **A store holds what its history says.** -/
theorem run_touch (xs : List α) :
    xs.foldl (touch key n) [] = contents key n xs.reverse := by
  induction xs using List.reverseRecOn with
  | nil => simp [contents, present, recent]
  | append_singleton xs x ih =>
      rw [List.foldl_append, ih, List.reverse_append, List.reverse_singleton,
        List.singleton_append]
      exact touch_contents xs.reverse x

end Recency
