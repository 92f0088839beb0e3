import SentryNav.Core.ShiftRegister
import SentryNav.SerialComm.Frame
import Mathlib.Algebra.BigOperators.Fin
import Mathlib.Data.List.GetD
import Mathlib.LinearAlgebra.Pi

/-!
# Which errors the checksum detects

Bit by bit, `crc16` is a linear shift register over the field with two elements: its sixteen bits
move down by one, and the bit that drops out comes back at the places where `0xA001` has a one.
With the polynomial comes all that the register needs to detect errors: `0xA001` has three ones, so
the step keeps the parity (`crcParity_crcStep`); its highest bit is a one, so the step loses nothing
(`crcStep_injective`); and the lowest bit does not come back to itself within the length of a frame
(`crcStep_pow_ne`).

`crc16_detects` is what this gives for the bytes that the checksum is taken over.
-/

namespace SentryNav.SerialComm

open Finset ShiftRegister

/-! ## The register -/

/-- The contents of the checksum's register, lowest bit first. -/
abbrev CrcBits := Fin 16 → ZMod 2

def bitValue (b : Bool) : ZMod 2 := if b then 1 else 0

lemma bitValue_xor : ∀ b b' : Bool, bitValue (b ^^ b') = bitValue b + bitValue b' := by decide

lemma bitValue_injective : Function.Injective bitValue := by
  unfold Function.Injective
  decide

/-- The bits of a word. -/
def crcBits (crc : UInt16) : CrcBits := fun i => bitValue (crc.toBitVec.getLsbD i)

lemma crcBits_xor (crc crc' : UInt16) : crcBits (crc ^^^ crc') = crcBits crc + crcBits crc' := by
  funext i
  show bitValue ((crc ^^^ crc').toBitVec.getLsbD i) = _
  rw [UInt16.toBitVec_xor, BitVec.getLsbD_xor, bitValue_xor]
  rfl

lemma crcBits_injective : Function.Injective crcBits := by
  intro crc crc' h
  apply UInt16.toBitVec_inj.mp
  apply BitVec.eq_of_getLsbD_eq
  intro i hi
  exact bitValue_injective (congrFun h ⟨i, hi⟩)

/-- The bits move down by one. -/
def crcShift (v : CrcBits) : CrcBits := Fin.snoc (fun i : Fin 15 => v i.succ) 0

@[simp] lemma crcShift_castSucc (v : CrcBits) (i : Fin 15) : crcShift v i.castSucc = v i.succ := by
  rw [crcShift, Fin.snoc_castSucc]

@[simp] lemma crcShift_last (v : CrcBits) : crcShift v (Fin.last 15) = 0 := by
  rw [crcShift, Fin.snoc_last]

lemma crcShift_add (v w : CrcBits) : crcShift (v + w) = crcShift v + crcShift w := by
  funext i
  induction i using Fin.lastCases with
  | last => rw [Pi.add_apply, crcShift_last, crcShift_last, crcShift_last, add_zero]
  | cast i =>
      rw [Pi.add_apply, crcShift_castSucc, crcShift_castSucc, crcShift_castSucc, Pi.add_apply]

lemma crcShift_smul (c : ZMod 2) (v : CrcBits) : crcShift (c • v) = c • crcShift v := by
  funext i
  induction i using Fin.lastCases with
  | last => rw [Pi.smul_apply, crcShift_last, crcShift_last, smul_zero]
  | cast i => rw [Pi.smul_apply, crcShift_castSucc, crcShift_castSucc, Pi.smul_apply]

/-- One turn of the inner loop on the bits: they move down by one, and the lowest comes back where
the polynomial has a one. -/
def crcStep : CrcBits →ₗ[ZMod 2] CrcBits where
  toFun v := crcShift v + v 0 • crcBits 0xA001
  map_add' v w := by
    rw [crcShift_add, Pi.add_apply, add_smul]
    exact add_add_add_comm _ _ _ _
  map_smul' c v := by
    rw [crcShift_smul, Pi.smul_apply, smul_assoc, RingHom.id_apply, smul_add]

lemma crcStep_apply (v : CrcBits) : crcStep v = crcShift v + v 0 • crcBits 0xA001 := rfl

lemma crcStep_castSucc (v : CrcBits) (i : Fin 15) :
    crcStep v i.castSucc = v i.succ + v 0 * crcBits 0xA001 i.castSucc := by
  rw [crcStep_apply, Pi.add_apply, crcShift_castSucc]
  rfl

lemma crcStep_last (v : CrcBits) : crcStep v (Fin.last 15) = v 0 := by
  have hhigh : crcBits 0xA001 (Fin.last 15) = 1 := by decide
  rw [crcStep_apply, Pi.add_apply, crcShift_last, Pi.smul_apply, hhigh, zero_add, smul_eq_mul,
    mul_one]

/-- The code's shift moves the bits down. -/
lemma crcBits_shiftRight (crc : UInt16) : crcBits (crc >>> 1) = crcShift (crcBits crc) := by
  have hbit : ∀ i, crcBits (crc >>> 1) i = bitValue (crc.toBitVec.getLsbD (1 + i)) := by
    intro i
    rw [crcBits, UInt16.toBitVec_shiftRight]
    exact congrArg bitValue (BitVec.getLsbD_ushiftRight _ 1 i)
  funext i
  induction i using Fin.lastCases with
  | last =>
      rw [hbit, crcShift_last, BitVec.getLsbD_of_ge _ _ (by decide)]
      rfl
  | cast i =>
      rw [hbit, crcShift_castSucc, crcBits, Fin.val_castSucc, Fin.val_succ, Nat.add_comm]

/-- The code's inner loop does what the register does. -/
theorem crcBits_crc16Bit (crc : UInt16) : crcBits (crc16Bit crc) = crcStep (crcBits crc) := by
  have hlow : crc &&& 0x0001 ≠ 0 ↔ crc.toBitVec.getLsbD 0 = true := by
    rw [Ne, ← UInt16.toNat_inj, UInt16.toNat_and, BitVec.getLsbD, Nat.testBit_zero]
    show crc.toNat &&& 1 ≠ 0 ↔ _
    rw [Nat.and_one_is_mod, decide_eq_true_iff]
    show crc.toNat % 2 ≠ 0 ↔ crc.toNat % 2 = 1
    omega
  have hzero : crcBits crc 0 = bitValue (crc.toBitVec.getLsbD 0) := rfl
  rw [crc16Bit, crcStep_apply, hzero]
  split
  · next hone =>
      rw [hlow.mp hone, crcBits_xor, crcBits_shiftRight]
      exact congrArg _ (one_smul _ _).symm
  · next hnot =>
      rw [Bool.eq_false_iff.mpr (mt hlow.mpr hnot), crcBits_shiftRight]
      show _ = _ + (0 : ZMod 2) • crcBits 0xA001
      rw [zero_smul, add_zero]

lemma crcBits_iterate (k : ℕ) (crc : UInt16) :
    crcBits (crc16Bit^[k] crc) = (crcStep ^ k) (crcBits crc) := by
  induction k with
  | zero => rfl
  | succ k ih =>
      rw [Function.iterate_succ_apply', crcBits_crc16Bit, ih, pow_succ', Module.End.mul_apply]

/-! ## What it needs to detect errors -/

/-- The parity of the bits. -/
def crcParity : CrcBits →ₗ[ZMod 2] ZMod 2 := ∑ i, LinearMap.proj i

lemma crcParity_apply (v : CrcBits) : crcParity v = ∑ i, v i := by
  rw [crcParity, LinearMap.sum_apply]
  rfl

/-- The bit that drops out comes back at three places. -/
lemma crcParity_crcStep (v : CrcBits) : crcParity (crcStep v) = crcParity v := by
  have hshift : ∑ i, crcShift v i = ∑ i : Fin 15, v i.succ := by
    rw [Fin.sum_univ_castSucc, crcShift_last, add_zero]
    exact Finset.sum_congr rfl fun i _ => crcShift_castSucc v i
  have hthree : ∑ i, crcBits 0xA001 i = 1 := by decide
  rw [crcStep_apply, crcParity_apply, crcParity_apply, Fin.sum_univ_succ v, ← hshift]
  simp only [Pi.add_apply, Pi.smul_apply, smul_eq_mul, Finset.sum_add_distrib]
  rw [← Finset.mul_sum, hthree, mul_one, add_comm]

lemma crcStep_injective : Function.Injective crcStep := by
  intro v w h
  have hlow : v 0 = w 0 := by rw [← crcStep_last v, ← crcStep_last w, h]
  funext i
  induction i using Fin.cases with
  | zero => exact hlow
  | succ i =>
      have hi := congrFun h i.castSucc
      rw [crcStep_castSucc, crcStep_castSucc, hlow] at hi
      exact add_right_cancel hi

/-- One bit. -/
def oneBit (k : ℕ) : CrcBits := fun i => if k = i then 1 else 0

lemma crcStep_oneBit (k : ℕ) (hk : k < 15) : crcStep (oneBit (k + 1)) = oneBit k := by
  funext i
  induction i using Fin.lastCases with
  | last =>
      rw [crcStep_last, oneBit, oneBit, if_neg (by simp), if_neg (by simp; omega)]
  | cast i =>
      have hzero : oneBit (k + 1) 0 = 0 := if_neg (Nat.succ_ne_zero k)
      rw [crcStep_castSucc, hzero, zero_mul, add_zero, oneBit, oneBit, Fin.val_succ,
        Fin.val_castSucc]
      simp only [Nat.add_right_cancel_iff]

/-- A bit drops out after as many steps as places are below it. -/
lemma crcStep_pow_oneBit : ∀ k < 16, (crcStep ^ k) (oneBit k) = oneBit 0 := by
  intro k hk
  induction k with
  | zero => rfl
  | succ k ih =>
      rw [pow_succ, Module.End.mul_apply, crcStep_oneBit k (by omega), ih (by omega)]

lemma sum_oneBit (c : ℕ → ZMod 2) (s : Finset ℕ) (i : Fin 16) :
    (∑ k ∈ s, c k • oneBit k) i = if (i : ℕ) ∈ s then c i else 0 := by
  rw [Finset.sum_apply]
  simp only [Pi.smul_apply, oneBit, smul_eq_mul, mul_ite, mul_one, mul_zero]
  exact Finset.sum_ite_eq' s (i : ℕ) c

/-- The checksum's register, with what it needs to detect errors. -/
def crcDetector : Detector CrcBits where
  step := crcStep
  tap := oneBit 0
  parity := crcParity
  parity_step := crcParity_crcStep
  parity_tap := by
    rw [crcParity_apply]
    decide
  step_injective := crcStep_injective
  width := 16
  before := oneBit
  step_before := crcStep_pow_oneBit
  before_ne_zero := by
    intro s hs hlt hzero
    obtain ⟨k, hk⟩ := hs
    have hsum : ∑ k ∈ s, oneBit k = ∑ k ∈ s, (fun _ => (1 : ZMod 2)) k • oneBit k := by
      simp only [one_smul]
    have hone := congrFun hzero ⟨k, hlt k hk⟩
    rw [hsum, sum_oneBit, if_pos hk] at hone
    exact one_ne_zero hone

/-- So many turns of the inner loop do not lead back to one. -/
def avoidsOne : ℕ → UInt16 → Bool
  | 0, _ => true
  | n + 1, crc => crc16Bit crc != 1 && avoidsOne n (crc16Bit crc)

lemma avoidsOne_iff : ∀ n crc, avoidsOne n crc = true ↔ ∀ d < n, crc16Bit^[d + 1] crc ≠ 1 := by
  intro n
  induction n with
  | zero => simp [avoidsOne]
  | succ n ih =>
      intro crc
      rw [avoidsOne, Bool.and_eq_true, bne_iff_ne, ih]
      constructor
      · rintro ⟨hfirst, hrest⟩ d hd
        cases d with
        | zero => exact hfirst
        | succ d =>
            rw [Function.iterate_succ_apply]
            exact hrest d (by omega)
      · intro h
        refine ⟨h 0 (by omega), fun d hd => ?_⟩
        rw [← Function.iterate_succ_apply]
        exact h (d + 1) (by omega)

/-- The bits of the longest data that the checksum is taken over in a frame. -/
def maxCrcBits : ℕ := 8 * (2 + frameMaxDataLen.toNat)

lemma crc16Bit_iterate_ne_one : ∀ d < maxCrcBits, crc16Bit^[d + 1] 1 ≠ 1 := by
  rw [← avoidsOne_iff]
  decide +kernel

/-- **The order of the polynomial** is not below the length of a frame. -/
theorem crcStep_pow_ne (d : ℕ) (hpos : 0 < d) (hd : d ≤ maxCrcBits) :
    (crcStep ^ d) (oneBit 0) ≠ oneBit 0 := by
  obtain ⟨d, rfl⟩ := Nat.exists_eq_succ_of_ne_zero hpos.ne'
  have hone : oneBit 0 = crcBits 1 := by decide
  rw [hone, ← crcBits_iterate]
  intro heq
  exact crc16Bit_iterate_ne_one d (by omega) (crcBits_injective heq)

/-! ## The bytes -/

/-- The bits of the data, bytes in order and least significant bit first. -/
def dataBit (data : List UInt8) (p : ℕ) : Bool := (data.getD (p / 8) 0).toBitVec.getLsbD (p % 8)

def dataBits (data : List UInt8) (p : ℕ) : ZMod 2 := bitValue (dataBit data p)

lemma dataBits_append_left {data : List UInt8} {byte : UInt8} {p : ℕ} (hp : p < 8 * data.length) :
    dataBits (data ++ [byte]) p = dataBits data p := by
  have hlt : p / 8 < data.length := by omega
  rw [dataBits, dataBits, dataBit, dataBit, List.getD_append _ _ _ _ hlt]

lemma dataBits_append_right {data : List UInt8} {byte : UInt8} {p : ℕ} (hp : p < 8) :
    dataBits (data ++ [byte]) (8 * data.length + p) = dataBits [byte] p := by
  have hdiv : (8 * data.length + p) / 8 = data.length := by omega
  have hmod : (8 * data.length + p) % 8 = p % 8 := by omega
  have hzero : p / 8 = 0 := by omega
  rw [dataBits, dataBits, dataBit, dataBit, hdiv, hmod, hzero,
    List.getD_append_right _ _ _ _ le_rfl, Nat.sub_self]

/-- A byte has its bits at the low end of the word. -/
lemma crcBits_toUInt16 (byte : UInt8) :
    crcBits byte.toUInt16 = ∑ k ∈ range 8, dataBits [byte] k • oneBit k := by
  funext i
  rw [sum_oneBit]
  show bitValue (byte.toBitVec.setWidth 16 |>.getLsbD i) = _
  rw [BitVec.getLsbD_setWidth]
  by_cases hi : (i : ℕ) < 8
  · rw [if_pos (mem_range.mpr hi), dataBits, dataBit, Nat.div_eq_of_lt hi, Nat.mod_eq_of_lt hi,
      decide_eq_true i.isLt, Bool.true_and]
    rfl
  · rw [if_neg (mt mem_range.mp hi), BitVec.getLsbD_of_ge _ _ (Nat.le_of_not_lt hi), Bool.and_false]
    rfl

/-- The code's outer loop feeds the bits of one byte. -/
lemma crcBits_crc16Byte (crc : UInt16) (byte : UInt8) :
    crcBits (crc16Byte crc byte)
      = feed crcDetector.toRegister (dataBits [byte]) (crcBits crc) 8 := by
  rw [crc16Byte, crcBits_iterate, crcBits_xor, crcBits_toUInt16]
  exact feed_at_once crcDetector (dataBits [byte]) (crcBits crc) (n := 8) (by decide)

/-- **The checksum is what the register contains** when it has been fed the bits of the data. -/
theorem crcBits_crc16 (data : List UInt8) :
    crcBits (crc16 data)
      = feed crcDetector.toRegister (dataBits data) (crcBits 0xFFFF) (8 * data.length) := by
  induction data using List.reverseRecOn with
  | nil => rfl
  | append_singleton data byte ih =>
      have hlen : 8 * (data ++ [byte]).length = 8 * data.length + 8 := by
        rw [List.length_append, List.length_singleton, Nat.mul_add, Nat.mul_one]
      have hold : feed crcDetector.toRegister (dataBits (data ++ [byte])) (crcBits 0xFFFF)
          (8 * data.length) = crcBits (crc16 data) := by
        rw [ih]
        exact feed_congr fun p hp => dataBits_append_left hp
      rw [crc16, List.foldl_append, hlen, feed_add, hold]
      show crcBits (crc16Byte (crc16 data) byte) = _
      rw [crcBits_crc16Byte]
      exact feed_congr fun p hp => (dataBits_append_right hp).symm

/-- The places of the bits in which two data differ. -/
def errorBits (a b : List UInt8) : Finset ℕ :=
  (range (8 * a.length)).filter fun p => dataBit a p ≠ dataBit b p

lemma errorBits_eq_differing (a b : List UInt8) :
    errorBits a b = differing (dataBits a) (dataBits b) (8 * a.length) := by
  refine Finset.filter_congr fun p _ => ?_
  exact bitValue_injective.ne_iff.symm

lemma errorBits_nonempty {a b : List UInt8} (hlen : a.length = b.length) (hne : a ≠ b) :
    (errorBits a b).Nonempty := by
  rw [Finset.nonempty_iff_ne_empty]
  intro hempty
  apply hne
  apply List.ext_getElem hlen
  intro i ha hb
  apply UInt8.toBitVec_inj.mp
  apply BitVec.eq_of_getLsbD_eq
  intro k hk
  by_contra hbit
  have hdiv : (8 * i + k) / 8 = i := by omega
  have hmod : (8 * i + k) % 8 = k := by omega
  have hmem : 8 * i + k ∈ errorBits a b := by
    rw [errorBits, mem_filter, mem_range, dataBit, dataBit, hdiv, hmod,
      List.getD_eq_getElem a 0 ha, List.getD_eq_getElem b 0 hb]
    exact ⟨by omega, hbit⟩
  rw [hempty] at hmem
  exact Finset.notMem_empty _ hmem

/-- **The errors the checksum detects.**  Data of the same length, as long as a frame allows, that
differ in at most three bits, in an odd number of them, or within sixteen in a row, have different
checksums. -/
theorem crc16_detects {a b : List UInt8} (hlen : a.length = b.length) (hmax : a.length ≤ 257)
    (hne : a ≠ b)
    (herr : (errorBits a b).card ≤ 3 ∨ Odd (errorBits a b).card ∨
      ∃ p, ∀ q ∈ errorBits a b, p ≤ q ∧ q < p + 16) :
    crc16 a ≠ crc16 b := by
  have hdiff := errorBits_eq_differing a b
  have hnonempty := errorBits_nonempty hlen hne
  rw [hdiff] at herr hnonempty
  have hfeed := feed_ne_feed crcDetector (r := crcBits 0xFFFF)
    (fun d hpos hd => crcStep_pow_ne d hpos (hd.le.trans (Nat.mul_le_mul_left 8 hmax)))
    hnonempty herr
  intro heq
  apply hfeed
  rw [← crcBits_crc16, heq, crcBits_crc16, hlen]

/-- Two bits next to each other, across two bytes. -/
theorem crc16_detects_two_bits : crc16 [0x80, 0x01] ≠ crc16 [0x00, 0x00] := by
  refine crc16_detects rfl (by decide) (by decide) ?_
  exact Or.inl (by decide)

end SentryNav.SerialComm
