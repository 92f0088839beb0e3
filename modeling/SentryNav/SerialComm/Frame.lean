import SentryNav.Core.Scan
import Mathlib.Logic.Function.Iterate

/-!
# The frame format of the serial link

`| SOF | CMD_ID | LEN | DATA (LEN bytes) | CRC16, low byte first | EOF |`, with the CRC taken over
`CMD_ID`, `LEN` and `DATA` (`pb_serial_comm`, `frame.hpp`).  This file has the encoder and the
checksum as the code computes them, and the format read off the encoder: `frameReader` reads at
the front of a byte stream exactly the frames `packFrame` writes (`readFrame_iff`).  Both
decoders of the package are later measured against it.
-/

namespace SentryNav.SerialComm

def frameSof : UInt8 := 0xA5
def frameEof : UInt8 := 0x5A
def frameMaxDataLen : UInt8 := 255

/-- What a frame has besides its data: SOF, CMD_ID, LEN, two CRC bytes and EOF. -/
def frameOverhead : ℕ := 6

/-- The bound the decoders test LEN against excludes nothing. -/
lemma not_frameMaxDataLen_lt (len : UInt8) : ¬ frameMaxDataLen < len := by
  intro h
  have hlt : (255 : UInt8).toNat < len.toNat := UInt8.lt_iff_toNat_lt.mp h
  have := len.toNat_lt
  have : (255 : UInt8).toNat = 255 := rfl
  omega

/-! ## The checksum -/

/-- One turn of the inner loop of `crc16`. -/
def crc16Bit (crc : UInt16) : UInt16 :=
  if crc &&& 0x0001 ≠ 0 then (crc >>> 1) ^^^ 0xA001 else crc >>> 1

/-- One turn of the outer loop of `crc16`. -/
def crc16Byte (crc : UInt16) (byte : UInt8) : UInt16 :=
  crc16Bit^[8] (crc ^^^ byte.toUInt16)

/-- MODBUS CRC16. -/
def crc16 (data : List UInt8) : UInt16 := data.foldl crc16Byte 0xFFFF

/-- The two CRC bytes of a frame, in the order they are sent. -/
def crcLow (crc : UInt16) : UInt8 := (crc &&& 0xFF).toUInt8
def crcHigh (crc : UInt16) : UInt8 := ((crc >>> 8) &&& 0xFF).toUInt8

/-- How the decoders put the two received CRC bytes together. -/
def crcJoin (low high : UInt8) : UInt16 := low.toUInt16 ||| (high.toUInt16 <<< 8)

lemma crcLow_toNat (crc : UInt16) : (crcLow crc).toNat = crc.toNat % 256 := by
  simp only [crcLow, UInt16.toNat_toUInt8, UInt16.toNat_and]
  show (crc.toNat &&& (2 ^ 8 - 1)) % 2 ^ 8 = crc.toNat % 256
  rw [Nat.and_two_pow_sub_one_eq_mod, Nat.mod_mod]

lemma crcHigh_toNat (crc : UInt16) : (crcHigh crc).toNat = crc.toNat / 256 := by
  have hlt := crc.toNat_lt
  simp only [crcHigh, UInt16.toNat_toUInt8, UInt16.toNat_and, UInt16.toNat_shiftRight]
  show (crc.toNat >>> 8 &&& (2 ^ 8 - 1)) % 2 ^ 8 = crc.toNat / 256
  rw [Nat.and_two_pow_sub_one_eq_mod, Nat.mod_mod, Nat.shiftRight_eq_div_pow]
  omega

lemma crcJoin_toNat (low high : UInt8) :
    (crcJoin low high).toNat = high.toNat * 256 + low.toNat := by
  have hlow := low.toNat_lt
  have hhigh := high.toNat_lt
  simp only [crcJoin, UInt16.toNat_or, UInt16.toNat_shiftLeft, UInt8.toNat_toUInt16]
  show low.toNat ||| high.toNat <<< 8 % 2 ^ 16 = high.toNat * 256 + low.toNat
  rw [Nat.shiftLeft_eq, Nat.mod_eq_of_lt (by omega), ← Nat.shiftLeft_eq, Nat.or_comm,
    ← Nat.shiftLeft_add_eq_or_of_lt (by omega), Nat.shiftLeft_eq]

/-- The received checksum equals a computed one iff its two bytes are the ones that would have
been sent. -/
theorem crcJoin_eq_iff (low high : UInt8) (crc : UInt16) :
    crcJoin low high = crc ↔ low = crcLow crc ∧ high = crcHigh crc := by
  have hlow := low.toNat_lt
  simp only [← UInt16.toNat_inj, ← UInt8.toNat_inj, crcJoin_toNat, crcLow_toNat, crcHigh_toNat]
  omega

/-! ## The encoder -/

/-- A command with its data, as both decoders deliver it. -/
abbrev Frame := UInt8 × List UInt8

/-- `packFrame(cmd_id, data, len)`.  The pointer is what it points at, `none` if null. -/
def packFrame (cmdId : UInt8) (data : Option (List UInt8)) (len : ℕ) : List UInt8 :=
  let payload := match data with
    | some bytes => if 0 < len then bytes.take len else []
    | none => []
  let crc := crc16 (cmdId :: len.toUInt8 :: payload)
  frameSof :: cmdId :: len.toUInt8 :: (payload ++ [crcLow crc, crcHigh crc, frameEof])

/-- A frame on the wire: `packFrame` called with the data and its own length. -/
def Frame.bytes (f : Frame) : List UInt8 := packFrame f.1 (some f.2) f.2.length

/-- The checksum of a frame. -/
def Frame.crc (f : Frame) : UInt16 := crc16 (f.1 :: f.2.length.toUInt8 :: f.2)

/-- The data fits the LEN byte. -/
def Frame.Fits (f : Frame) : Prop := f.2.length ≤ frameMaxDataLen.toNat

instance (f : Frame) : Decidable f.Fits := inferInstanceAs (Decidable (_ ≤ _))

lemma Frame.bytes_eq (f : Frame) :
    f.bytes = frameSof :: f.1 :: f.2.length.toUInt8 ::
      (f.2 ++ [crcLow f.crc, crcHigh f.crc, frameEof]) := by
  have hpayload : (if 0 < f.2.length then f.2.take f.2.length else []) = f.2 := by
    split
    · exact List.take_length
    · exact (List.eq_nil_of_length_eq_zero (by omega)).symm
  simp only [Frame.bytes, packFrame, hpayload, Frame.crc]

@[simp] lemma Frame.length_bytes (f : Frame) : f.bytes.length = frameOverhead + f.2.length := by
  simp only [Frame.bytes_eq, List.length_cons, List.length_append, List.length_nil, frameOverhead]
  omega

lemma Frame.toNat_len {f : Frame} (h : f.Fits) : f.2.length.toUInt8.toNat = f.2.length := by
  have hle : f.2.length ≤ 255 := h
  simp only [UInt8.toNat_ofNat']
  omega

/-! ## The format, read off the encoder -/

/-- Read a frame at the front of a stream: the length is where the header says, and the bytes are
those of the frame. -/
def readFrame : List UInt8 → Option (Frame × ℕ)
  | sof :: cmdId :: len :: rest =>
      let f : Frame := (cmdId, rest.take len.toNat)
      if f.bytes.isPrefixOf (sof :: cmdId :: len :: rest) then some (f, f.bytes.length) else none
  | _ => none

/-- **The format.**  A frame is read at the front of a stream iff the stream starts with the bytes
`packFrame` writes for it. -/
theorem readFrame_iff {xs : List UInt8} {f : Frame} {w : ℕ} :
    readFrame xs = some (f, w) ↔ f.bytes <+: xs ∧ f.Fits ∧ w = f.bytes.length := by
  constructor
  · intro h
    unfold readFrame at h
    split at h
    · next sof cmdId len rest =>
        dsimp only at h
        split at h
        · next hpre =>
            rw [Option.some.injEq, Prod.mk.injEq] at h
            obtain ⟨rfl, rfl⟩ := h
            refine ⟨List.isPrefixOf_iff_prefix.mp hpre, ?_, rfl⟩
            have := len.toNat_lt
            simp only [Frame.Fits, List.length_take, frameMaxDataLen]
            show min len.toNat rest.length ≤ 255
            omega
        · exact absurd h (by simp)
    · exact absurd h (by simp)
  · rintro ⟨⟨tail, rfl⟩, hfits, rfl⟩
    have htake : (f.2 ++ [crcLow f.crc, crcHigh f.crc, frameEof] ++ tail).take
        f.2.length.toUInt8.toNat = f.2 := by
      rw [Frame.toNat_len hfits, List.append_assoc, List.take_left]
    have hpre : f.bytes.isPrefixOf (f.bytes ++ tail) = true :=
      List.isPrefixOf_iff_prefix.mpr (List.prefix_append _ _)
    rw [Frame.bytes_eq] at hpre ⊢
    simp only [List.cons_append, readFrame] at hpre ⊢
    rw [htake, ← Frame.bytes_eq] at *
    rw [if_pos hpre]

/-- Frames as values a scanner can read.  What a frame is does not depend on what follows it. -/
def frameReader : Scan.Reader UInt8 Frame where
  read := readFrame
  pos := by
    intro xs f w h
    obtain ⟨_, _, rfl⟩ := readFrame_iff.mp h
    rw [Frame.length_bytes, frameOverhead]
    omega
  fits := by
    intro xs f w h
    obtain ⟨hpre, _, rfl⟩ := readFrame_iff.mp h
    exact hpre.length_le
  append := by
    intro xs f w ys h
    obtain ⟨hpre, hfits, rfl⟩ := readFrame_iff.mp h
    exact readFrame_iff.mpr ⟨hpre.trans (List.prefix_append _ _), hfits, rfl⟩
  restrict := by
    intro xs ys f w h hle
    obtain ⟨hpre, hfits, rfl⟩ := readFrame_iff.mp h
    exact readFrame_iff.mpr
      ⟨List.prefix_of_prefix_length_le hpre (List.prefix_append _ _) hle, hfits, rfl⟩

@[simp] lemma frameReader_read (xs : List UInt8) : frameReader.read xs = readFrame xs := rfl

lemma readFrame_bytes {f : Frame} (h : f.Fits) (xs : List UInt8) :
    readFrame (f.bytes ++ xs) = some (f, f.bytes.length) :=
  readFrame_iff.mpr ⟨List.prefix_append _ _, h, rfl⟩

/-! ### When nothing is read -/

lemma readFrame_of_ne {b : UInt8} (h : b ≠ frameSof) (xs : List UInt8) :
    readFrame (b :: xs) = none := by
  refine Option.eq_none_iff_forall_ne_some.mpr fun r hr => ?_
  obtain ⟨hpre, _⟩ := readFrame_iff.mp (show readFrame (b :: xs) = some (r.1, r.2) from hr)
  rw [Frame.bytes_eq, List.cons_prefix_cons] at hpre
  exact h hpre.1.symm

lemma readFrame_of_short {xs : List UInt8} (h : xs.length < frameOverhead) :
    readFrame xs = none := by
  refine Option.eq_none_iff_forall_ne_some.mpr fun r hr => ?_
  obtain ⟨hpre, _⟩ := readFrame_iff.mp (show readFrame xs = some (r.1, r.2) from hr)
  have := hpre.length_le
  rw [Frame.length_bytes] at this
  omega

/-- A frame whose announced end lies behind the end of the stream is not read. -/
lemma readFrame_of_overrun {sof cmdId len : UInt8} {rest : List UInt8}
    (h : rest.length < len.toNat + 3) : readFrame (sof :: cmdId :: len :: rest) = none := by
  refine Option.eq_none_iff_forall_ne_some.mpr fun r hr => ?_
  obtain ⟨hpre, hfits, _⟩ :=
    readFrame_iff.mp (show readFrame (sof :: cmdId :: len :: rest) = some (r.1, r.2) from hr)
  have hlen := hpre.length_le
  rw [Frame.length_bytes, frameOverhead] at hlen
  rw [Frame.bytes_eq] at hpre
  simp only [List.cons_prefix_cons] at hpre
  simp only [List.length_cons] at hlen
  rw [← hpre.2.2.1, Frame.toNat_len hfits] at h
  omega

/-- The parts of a complete candidate behind its header. -/
lemma exists_candidate {rest : List UInt8} {n : ℕ} (h : n + 3 ≤ rest.length) :
    ∃ data low high eof tail, rest = data ++ low :: high :: eof :: tail ∧ data.length = n := by
  have hdrop : (rest.drop n).length ≥ 3 := by
    rw [List.length_drop]
    omega
  match htail : rest.drop n, hdrop with
  | low :: high :: eof :: tail, _ =>
      exact ⟨rest.take n, low, high, eof, tail, by rw [← htail, List.take_append_drop],
        List.length_take_of_le (by omega)⟩

/-- **Reading a complete candidate.**  Behind a SOF and with as many bytes as the header announces,
a frame is read iff the checksum of CMD_ID, LEN and DATA is the received one and the last byte is
EOF. -/
theorem readFrame_candidate {len : UInt8} {data : List UInt8} (h : data.length = len.toNat)
    (cmdId low high eof : UInt8) (tail : List UInt8) :
    readFrame (frameSof :: cmdId :: len :: (data ++ low :: high :: eof :: tail))
      = if crc16 (cmdId :: len :: data) = crcJoin low high ∧ eof = frameEof
        then some ((cmdId, data), frameOverhead + data.length) else none := by
  have hlen : data.length.toUInt8 = len := by
    rw [h]
    exact UInt8.ofNat_toNat
  have htake : (data ++ low :: high :: eof :: tail).take len.toNat = data := by
    rw [← h, List.take_left]
  have hbytes : (Frame.bytes (cmdId, data)).isPrefixOf
      (frameSof :: cmdId :: len :: (data ++ low :: high :: eof :: tail)) = true ↔
        crc16 (cmdId :: len :: data) = crcJoin low high ∧ eof = frameEof := by
    rw [List.isPrefixOf_iff_prefix, Frame.bytes_eq, eq_comm (a := crc16 _), crcJoin_eq_iff]
    simp only [Frame.crc, hlen, List.cons_prefix_cons, List.prefix_append_right_inj, true_and,
      List.nil_prefix, and_true]
    constructor
    · rintro ⟨rfl, rfl, rfl⟩
      exact ⟨⟨rfl, rfl⟩, rfl⟩
    · rintro ⟨⟨rfl, rfl⟩, rfl⟩
      exact ⟨rfl, rfl, rfl⟩
  simp only [readFrame, htake, hbytes, Frame.length_bytes]

end SentryNav.SerialComm
