import Mathlib.Data.Nat.Basic
import Mathlib.Order.Basic
import Mathlib.Tactic.Common

/-!
# Batches

A list that is put together in batches of one size, as it grows at its end: the whole batches so far
and the rest.  One more item completes a batch or is added to the rest (`whole_concat`,
`rest_concat`).
-/

namespace Batches

variable {α : Type*} {size : ℕ}

/-- The whole batches. -/
def whole (size : ℕ) (xs : List α) : List (List α) :=
  (List.range (xs.length / size)).map fun k => (xs.drop (size * k)).take size

/-- What is not in a whole batch yet. -/
def rest (size : ℕ) (xs : List α) : List α := xs.drop (size * (xs.length / size))

lemma length_rest (size : ℕ) (xs : List α) : (rest size xs).length = xs.length % size := by
  rw [rest, List.length_drop, Nat.mod_def]

lemma length_rest_lt (hsize : 0 < size) (xs : List α) : (rest size xs).length < size := by
  rw [length_rest]
  exact Nat.mod_lt _ hsize

/-- One more item completes a batch if it is the last one that is missing. -/
lemma succ_div (hsize : 0 < size) (xs : List α) :
    (xs.length + 1) / size
      = xs.length / size + if (rest size xs).length + 1 = size then 1 else 0 := by
  have hlt := length_rest_lt hsize xs
  have hmod := Nat.div_add_mod xs.length size
  rw [← length_rest] at hmod
  rw [Nat.div_eq_iff hsize]
  split_ifs with hlast
  · rw [Nat.add_mul, Nat.mul_comm]
    omega
  · rw [Nat.add_zero, Nat.mul_comm]
    omega

/-- The batches that were whole stay. -/
lemma whole_part (xs : List α) (x : α) :
    ((List.range (xs.length / size)).map fun k => ((xs ++ [x]).drop (size * k)).take size)
      = whole size xs := by
  refine List.map_congr_left fun k hk => ?_
  have hfits : size * k + size ≤ xs.length :=
    calc size * k + size = size * (k + 1) := (Nat.mul_succ size k).symm
      _ ≤ size * (xs.length / size) := Nat.mul_le_mul_left _ (List.mem_range.mp hk)
      _ ≤ xs.length := Nat.mul_div_le ..
  rw [List.drop_append_of_le_length (by omega), List.take_append_of_le_length]
  rw [List.length_drop]
  omega

theorem whole_concat (hsize : 0 < size) (xs : List α) (x : α) :
    whole size (xs ++ [x]) =
      whole size xs ++ if (rest size xs).length + 1 = size then [rest size xs ++ [x]] else [] := by
  have hle : size * (xs.length / size) ≤ xs.length := Nat.mul_div_le ..
  rw [whole, List.length_append, List.length_singleton, succ_div hsize]
  split_ifs with hlast
  · rw [List.range_succ, List.map_append, whole_part, List.map_singleton,
      List.drop_append_of_le_length hle, ← rest, List.take_of_length_le]
    rw [List.length_append, List.length_singleton, hlast]
  · rw [Nat.add_zero, whole_part, List.append_nil]

theorem rest_concat (hsize : 0 < size) (xs : List α) (x : α) :
    rest size (xs ++ [x]) =
      if (rest size xs).length + 1 = size then [] else rest size xs ++ [x] := by
  have hle : size * (xs.length / size) ≤ xs.length := Nat.mul_div_le ..
  have hmod := Nat.div_add_mod xs.length size
  rw [← length_rest] at hmod
  rw [rest, List.length_append, List.length_singleton, succ_div hsize]
  split_ifs with hlast
  · rw [List.drop_eq_nil_iff, List.length_append, List.length_singleton, Nat.mul_add]
    omega
  · rw [Nat.add_zero, List.drop_append_of_le_length hle, ← rest]

end Batches
