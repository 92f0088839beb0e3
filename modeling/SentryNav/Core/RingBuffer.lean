import Mathlib.Data.List.Basic
import Mathlib.Data.Nat.ModEq
import Mathlib.Tactic.Common

/-!
# Ring buffers with running counters

A buffer has `2 ^ k` slots and two counters of `w` bits that are only ever counted up: one for what
has been read, one for what has been written.  The slot of a count is its last `k` bits, and the
counts wrap around at `2 ^ w`.

`Holds` is that the buffer holds a list of things, the oldest first.  The lemmas say what the tests
for an empty and a full buffer mean, and what becomes of the list when a slot is written and a count
goes up.  Writing the next slot does not touch any that is still to be read (`Holds.set`).
-/

namespace RingBuffer

variable {α : Type*} {w k : ℕ} {slots : List α} {rd wr mask : BitVec w} {xs : List α} {x : α}

/-- A ring buffer, with what it holds. -/
structure Holds (k : ℕ) (slots : List α) (rd wr mask : BitVec w) (xs : List α) : Prop where
  bits : k < w
  mask_eq : mask.toNat + 1 = 2 ^ k
  slots_length : slots.length = 2 ^ k
  length_le : xs.length ≤ 2 ^ k
  wr_eq : wr.toNat = (rd.toNat + xs.length) % 2 ^ w
  slot : ∀ j (h : j < xs.length), slots[(rd.toNat + j) % 2 ^ k]? = some xs[j]

/-- The slot of a count. -/
lemma toNat_and_mask (hmask : mask.toNat + 1 = 2 ^ k) (count : BitVec w) :
    (count &&& mask).toNat = count.toNat % 2 ^ k := by
  have hpred : mask.toNat = 2 ^ k - 1 := by omega
  rw [BitVec.toNat_and, hpred, Nat.and_two_pow_sub_one_eq_mod]

/-- Wrapping around does not change the slot. -/
lemma mod_mod_two_pow (hbits : k < w) (n : ℕ) : n % 2 ^ w % 2 ^ k = n % 2 ^ k :=
  Nat.mod_mod_of_dvd n (Nat.pow_dvd_pow 2 hbits.le)

lemma holds_nil (hbits : k < w) (hmask : mask.toNat + 1 = 2 ^ k) (hslots : slots.length = 2 ^ k)
    (count : BitVec w) : Holds k slots count count mask [] where
  bits := hbits
  mask_eq := hmask
  slots_length := hslots
  length_le := Nat.zero_le _
  wr_eq := (Nat.mod_eq_of_lt count.isLt).symm
  slot _ h := absurd h (Nat.not_lt_zero _)

lemma Holds.length_lt (h : Holds k slots rd wr mask xs) : xs.length < 2 ^ w :=
  Nat.lt_of_le_of_lt h.length_le (Nat.pow_lt_pow_right Nat.one_lt_two h.bits)

/-- Counting up by one. -/
lemma Holds.toNat_add_one (h : Holds k slots rd wr mask xs) (count : BitVec w) :
    (count + 1).toNat = (count.toNat + 1) % 2 ^ w := by
  have hone : (1 : BitVec w).toNat = 1 := BitVec.toNat_one (Nat.zero_lt_of_lt h.bits)
  rw [BitVec.toNat_add, hone]

/-- How many things there are, from the counts. -/
lemma Holds.toNat_sub (h : Holds k slots rd wr mask xs) : (wr - rd).toNat = xs.length := by
  have hlength := h.length_lt
  have hrd := rd.isLt
  rw [BitVec.toNat_sub, h.wr_eq, Nat.add_mod_mod]
  have hsum : 2 ^ w - rd.toNat + (rd.toNat + xs.length) = 2 ^ w + xs.length := by omega
  rw [hsum, Nat.add_mod_left, Nat.mod_eq_of_lt hlength]

lemma Holds.empty_iff (h : Holds k slots rd wr mask xs) : rd = wr ↔ xs = [] := by
  constructor
  · rintro rfl
    have hlength := h.toNat_sub
    rw [BitVec.sub_self, BitVec.toNat_zero] at hlength
    exact List.length_eq_zero_iff.mp hlength.symm
  · rintro rfl
    have hwr := h.wr_eq
    rw [List.length_nil, Nat.add_zero, Nat.mod_eq_of_lt rd.isLt] at hwr
    exact BitVec.eq_of_toNat_eq hwr.symm

lemma Holds.full_iff (h : Holds k slots rd wr mask xs) : mask < wr - rd ↔ xs.length = 2 ^ k := by
  have hmask := h.mask_eq
  have hle := h.length_le
  rw [BitVec.lt_def, h.toNat_sub]
  omega

/-! ## Writing -/

/-- The slot to be written next is none of those that are to be read. -/
lemma Holds.slot_ne (h : Holds k slots rd wr mask xs) (hroom : xs.length < 2 ^ k) {j : ℕ}
    (hj : j < xs.length) : (wr &&& mask).toNat ≠ (rd.toNat + j) % 2 ^ k := by
  rw [toNat_and_mask h.mask_eq, h.wr_eq, mod_mod_two_pow h.bits]
  intro heq
  have hdvd : 2 ^ k ∣ rd.toNat + xs.length - (rd.toNat + j) :=
    (Nat.modEq_iff_dvd' (by omega)).mp heq.symm
  have hle := Nat.le_of_dvd (by omega) hdvd
  omega

lemma Holds.index_lt (h : Holds k slots rd wr mask xs) (count : BitVec w) :
    (count &&& mask).toNat < slots.length := by
  rw [toNat_and_mask h.mask_eq, h.slots_length]
  exact Nat.mod_lt _ (Nat.two_pow_pos k)

/-- Writing the next slot does not change what the buffer holds. -/
lemma Holds.set (h : Holds k slots rd wr mask xs) (hroom : xs.length < 2 ^ k) (x : α) :
    Holds k (slots.set (wr &&& mask).toNat x) rd wr mask xs :=
  { h with
    slots_length := (List.length_set ..).trans h.slots_length
    slot := fun j hj => by
      rw [List.getElem?_set_ne (h.slot_ne hroom hj)]
      exact h.slot j hj }

/-- Counting up makes the buffer hold what is in the slot. -/
lemma Holds.advance (h : Holds k slots rd wr mask xs) (hroom : xs.length < 2 ^ k)
    (hx : slots[(wr &&& mask).toNat]? = some x) :
    Holds k slots rd (wr + 1) mask (xs ++ [x]) where
  bits := h.bits
  mask_eq := h.mask_eq
  slots_length := h.slots_length
  length_le := by
    rw [List.length_append, List.length_singleton]
    exact hroom
  wr_eq := by
    rw [h.toNat_add_one, h.wr_eq, Nat.mod_add_mod, List.length_append, List.length_singleton,
      Nat.add_assoc]
  slot j hj := by
    rw [List.length_append, List.length_singleton] at hj
    rcases Nat.lt_succ_iff_lt_or_eq.mp hj with hlt | rfl
    · rw [List.getElem_append_left hlt]
      exact h.slot j hlt
    · rw [toNat_and_mask h.mask_eq, h.wr_eq, mod_mod_two_pow h.bits] at hx
      rw [hx, List.getElem_append_right (Nat.le_refl _)]
      simp

/-! ## Reading -/

/-- The oldest thing is in the slot of the count of what has been read. -/
lemma Holds.head (h : Holds k slots rd wr mask (x :: xs)) :
    slots[(rd &&& mask).toNat]? = some x := by
  have hslot := h.slot 0 (Nat.succ_pos _)
  rwa [Nat.add_zero, ← toNat_and_mask h.mask_eq] at hslot

/-- Counting up removes the oldest thing. -/
lemma Holds.pop (h : Holds k slots rd wr mask (x :: xs)) :
    Holds k slots (rd + 1) wr mask xs where
  bits := h.bits
  mask_eq := h.mask_eq
  slots_length := h.slots_length
  length_le := Nat.le_of_succ_le h.length_le
  wr_eq := by
    rw [h.toNat_add_one, Nat.mod_add_mod, h.wr_eq, List.length_cons, Nat.add_assoc,
      Nat.add_comm 1]
  slot j hj := by
    have hslot := h.slot (j + 1) (Nat.succ_lt_succ hj)
    rw [h.toNat_add_one, ← Nat.mod_add_mod, mod_mod_two_pow h.bits, Nat.mod_add_mod, Nat.add_assoc,
      Nat.add_comm 1]
    exact hslot

/-- What is being written is not what is being read. -/
lemma Holds.apart (h : Holds k slots rd wr mask (x :: xs)) (hroom : (x :: xs).length < 2 ^ k) :
    (wr &&& mask).toNat ≠ (rd &&& mask).toNat := by
  have hne := h.slot_ne hroom (Nat.succ_pos xs.length)
  rwa [Nat.add_zero, ← toNat_and_mask h.mask_eq] at hne

end RingBuffer
