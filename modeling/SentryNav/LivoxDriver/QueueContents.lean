import SentryNav.Core.RingBuffer
import SentryNav.LivoxDriver.PacketQueue

/-!
# What a packet queue contains

The queue is a ring buffer with counters of 32 bits.  It is made with a power of two of slots, the
tests for an empty and a full queue are right, and pushing and popping add a packet at the end and
take away the first.
-/

namespace SentryNav.LivoxDriver

open RingBuffer

variable {P : Type*} {queue : LidarDataQueue P} {xs : List (StoragePacket P)}
  {packet : StoragePacket P}

/-! ## What a queue contains -/

/-- A queue that has been made contains some packets. -/
def LidarDataQueue.Ready (queue : LidarDataQueue P) (xs : List (StoragePacket P)) : Prop :=
  ∃ slots k, queue.storagePacket = some slots ∧ Holds k slots queue.rdIdx queue.wrIdx queue.mask xs

/-- A queue contains some packets. -/
def LidarDataQueue.Contains (queue : LidarDataQueue P) (xs : List (StoragePacket P)) : Prop :=
  queue.storagePacket = none ∧ queue.rdIdx = queue.wrIdx ∧ xs = [] ∨ queue.Ready xs

/-- Besides, there is room for one more. -/
def LidarDataQueue.HasRoom (queue : LidarDataQueue P) (xs : List (StoragePacket P)) : Prop :=
  ∃ slots k, queue.storagePacket = some slots ∧
    Holds k slots queue.rdIdx queue.wrIdx queue.mask xs ∧ xs.length < 2 ^ k

/-- Besides, the next packet is in its slot. -/
def LidarDataQueue.Filled (queue : LidarDataQueue P) (xs : List (StoragePacket P))
    (packet : StoragePacket P) : Prop :=
  ∃ slots k, queue.storagePacket = some slots ∧
    Holds k slots queue.rdIdx queue.wrIdx queue.mask xs ∧ xs.length < 2 ^ k ∧
    slots[(queue.wrIdx &&& queue.mask).toNat]? = some packet

lemma contains_deInitQueue : (deInitQueue : LidarDataQueue P).Contains [] := .inl ⟨rfl, rfl, rfl⟩

lemma toNat_sub_one {size : BitVec 32} (h : size.toNat ≠ 0) :
    (size - 1).toNat = size.toNat - 1 := by
  have hlt := size.isLt
  have hone : (1 : BitVec 32).toNat = 1 := rfl
  rw [BitVec.toNat_sub, hone]
  omega

lemma eq_two_pow_of_isPowerOf2 {size : BitVec 32} (h : isPowerOf2 size = true) :
    ∃ k < 32, size.toNat = 2 ^ k := by
  simp only [isPowerOf2, ne_eq, decide_not, Bool.and_eq_true, Bool.not_eq_true',
    decide_eq_false_iff_not, decide_eq_true_eq] at h
  obtain ⟨hne, hand⟩ := h
  have hpos : size.toNat ≠ 0 := fun hzero => hne (BitVec.eq_of_toNat_eq hzero)
  have hnat := congrArg BitVec.toNat hand
  rw [BitVec.toNat_and, toNat_sub_one hpos] at hnat
  obtain ⟨k, hk⟩ := (Nat.and_sub_one_eq_zero_iff_isPowerOfTwo hpos).mp hnat
  refine ⟨k, ?_, hk⟩
  have hlt := size.isLt
  rw [hk] at hlt
  exact (Nat.pow_lt_pow_iff_right Nat.one_lt_two).mp hlt

lemma roundupPowerOf2_eq (size : BitVec 32) : ∃ k < 32, (roundupPowerOf2 size).toNat = 2 ^ k := by
  have hshift : ∀ i < 32, ((1 : BitVec 32) <<< i).toNat = 2 ^ i := by decide
  rw [roundupPowerOf2]
  cases hfind : (List.range 32).find? fun i => size ≤ (1 : BitVec 32) <<< i with
  | none => exact ⟨31, by decide, hshift 31 (by decide)⟩
  | some i =>
      have hi := List.mem_range.mp (List.mem_of_find?_eq_some hfind)
      exact ⟨i, hi, hshift i hi⟩

/-- A queue is made empty, with a power of two of slots. -/
lemma ready_initQueue (queueSize : BitVec 32) :
    (LidarDataQueue.initQueue queueSize : LidarDataQueue P).Ready [] := by
  have hsize : ∃ k < 32, (if isPowerOf2 queueSize then queueSize
      else roundupPowerOf2 queueSize).toNat = 2 ^ k := by
    split_ifs with h
    · exact eq_two_pow_of_isPowerOf2 h
    · exact roundupPowerOf2_eq queueSize
  obtain ⟨k, hk, hsize⟩ := hsize
  have hpos := Nat.two_pow_pos k
  refine ⟨_, k, rfl, holds_nil hk ?_ (List.length_replicate.trans hsize) 0⟩
  simp only [LidarDataQueue.initQueue]
  rw [toNat_sub_one (by omega), hsize]
  omega

lemma LidarDataQueue.Contains.ready (h : queue.Contains xs) (hmade : queue.storagePacket ≠ none) :
    queue.Ready xs := h.resolve_left fun hnone => hmade hnone.1

/-- A queue that has not been made contains nothing. -/
lemma LidarDataQueue.Contains.eq_nil (h : queue.Contains xs) (hnone : queue.storagePacket = none) :
    xs = [] := by
  rcases h with hempty | ⟨slots, k, hslots, -⟩
  · exact hempty.2.2
  · rw [hnone] at hslots
    cases hslots

lemma LidarDataQueue.Contains.isEmpty_iff (h : queue.Contains xs) :
    queue.isEmpty = true ↔ xs = [] := by
  rw [LidarDataQueue.isEmpty, decide_eq_true_iff]
  rcases h with ⟨-, heq, hnil⟩ | ⟨slots, k, -, hholds⟩
  · exact iff_of_true heq hnil
  · exact hholds.empty_iff

lemma LidarDataQueue.Ready.hasRoom (h : queue.Ready xs) (hfull : ¬ queue.isFull = true) :
    queue.HasRoom xs := by
  obtain ⟨slots, k, hslots, hholds⟩ := h
  rw [LidarDataQueue.isFull, decide_eq_true_iff, hholds.full_iff] at hfull
  exact ⟨slots, k, hslots, hholds, lt_of_le_of_ne hholds.length_le hfull⟩

lemma LidarDataQueue.HasRoom.fillSlot (h : queue.HasRoom xs) (packet : StoragePacket P) :
    ∃ queue', queue.fillSlot packet = some queue' ∧ queue'.Filled xs packet := by
  obtain ⟨slots, k, hslots, hholds, hroom⟩ := h
  have hlt := hholds.index_lt queue.wrIdx
  refine ⟨{ queue with storagePacket := some _ }, ?_, _, k, rfl, hholds.set hroom packet, hroom,
    List.getElem?_set_self hlt⟩
  rw [LidarDataQueue.fillSlot, hslots]
  exact if_pos hlt

lemma LidarDataQueue.Filled.contains (h : queue.Filled xs packet) : queue.Contains xs := by
  obtain ⟨slots, k, hslots, hholds, -⟩ := h
  exact .inr ⟨slots, k, hslots, hholds⟩

lemma LidarDataQueue.Filled.pushUpdate (h : queue.Filled xs packet) :
    queue.pushUpdate.Ready (xs ++ [packet]) := by
  obtain ⟨slots, k, hslots, hholds, hroom, hslot⟩ := h
  exact ⟨slots, k, hslots, hholds.advance hroom hslot⟩

lemma LidarDataQueue.Contains.ready_cons (h : queue.Contains (packet :: xs)) :
    queue.Ready (packet :: xs) := h.resolve_left fun hnone => nomatch hnone.2.2

lemma LidarDataQueue.Contains.readSlot (h : queue.Contains (packet :: xs)) :
    queue.readSlot = some packet := by
  obtain ⟨slots, k, hslots, hholds⟩ := h.ready_cons
  rw [LidarDataQueue.readSlot, hslots]
  exact hholds.head

lemma LidarDataQueue.Contains.popUpdate (h : queue.Contains (packet :: xs)) :
    queue.popUpdate.Contains xs := by
  obtain ⟨slots, k, hslots, hholds⟩ := h.ready_cons
  exact .inr ⟨slots, k, hslots, hholds.pop⟩

lemma LidarDataQueue.HasRoom.popUpdate (h : queue.HasRoom (packet :: xs)) :
    queue.popUpdate.HasRoom xs := by
  obtain ⟨slots, k, hslots, hholds, hroom⟩ := h
  exact ⟨slots, k, hslots, hholds.pop, Nat.lt_of_succ_lt hroom⟩

lemma LidarDataQueue.Filled.popUpdate {next : StoragePacket P}
    (h : queue.Filled (packet :: xs) next) : queue.popUpdate.Filled xs next := by
  obtain ⟨slots, k, hslots, hholds, hroom, hslot⟩ := h
  exact ⟨slots, k, hslots, hholds.pop, Nat.lt_of_succ_lt hroom, hslot⟩

/-- The slot written next is not the slot read next. -/
lemma LidarDataQueue.HasRoom.apart (h : queue.HasRoom xs) (hxs : xs ≠ []) :
    (queue.wrIdx &&& queue.mask).toNat ≠ (queue.rdIdx &&& queue.mask).toNat := by
  obtain ⟨slots, k, -, hholds, hroom⟩ := h
  cases xs with
  | nil => exact absurd rfl hxs
  | cons packet xs => exact hholds.apart hroom

end SentryNav.LivoxDriver
