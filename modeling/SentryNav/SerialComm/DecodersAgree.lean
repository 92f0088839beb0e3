import SentryNav.SerialComm.ParseGuarantees
import SentryNav.SerialComm.ReceiveGuarantees

/-!
# The two decoders of the frame format

`parseFrames` looks again one byte after a candidate it cannot accept; `receiveLoop` has taken the
bytes up and goes on behind them, and a header with LEN zero is such a candidate for it although
the format allows it.  So the first is a greedy scanner, the second a committed one, and
`decoders_agree` is their comparison: they find the same frames in a stream exactly when no frame
starts in the bytes `receiveLoop` discards.
-/

namespace SentryNav.SerialComm

open Scan

/-- No frame starts in a stretch of bytes that `receiveLoop` takes up without handing on a frame:
a byte other than SOF, a header with LEN zero, a candidate that fails, or one that the end of the
stream cuts off. -/
def DiscardsNoFrame (bytes : List UInt8) : Prop := HidesNothing frameReader receive 0 bytes

/-- What is dispatched of a frame says where it was. -/
def hitOf (d : ℕ × Frame) : Hit Frame := ⟨d.1 - d.2.bytes.length, d.2.bytes.length, d.2⟩

lemma map_hitOf {found : List (Hit Frame)} (h : ∀ k ∈ found, k.width = k.value.bytes.length) :
    (found.map dispatchOf).map hitOf = found := by
  rw [List.map_map]
  refine (List.map_congr_left fun k hk => ?_).trans found.map_id
  have hwidth := h k hk
  cases k with
  | mk start width value =>
      dsimp only at hwidth
      subst hwidth
      simp [hitOf, dispatchOf, Hit.stop]

lemma dispatch_eq_iff (bytes : List UInt8) :
    (hits receive 0 bytes).map dispatchOf = (reported bytes).map dispatchOf ↔
      DiscardsNoFrame bytes := by
  rw [DiscardsNoFrame, ← hits_eq_greedy_iff receive_faithful]
  refine ⟨fun h => ?_, fun h => by rw [h, reported]⟩
  have hreported : ∀ k ∈ reported bytes, k.width = k.value.bytes.length := fun k hk =>
    (readFrame_iff.mp (hits_sound (greedy_faithful frameReader) hk).2).2.2
  rw [← map_hitOf fun k hk => (hit_frame hk).1, h, map_hitOf hreported, reported]

/-- **When the two decoders agree.**  Delivered without a failed read, a stream makes `receiveLoop`
dispatch the frames that `parseFrames` appends for it, at the places where `parseFrames` finds them,
iff no frame starts in the bytes it discards; and then the two sequences of frames are the same. -/
theorem decoders_agree (bytes : List UInt8) (opens : List Bool) (data : Vector UInt8 255)
    (failures n : ℕ) (hn : failures + bytes.length ≤ n) :
    parseFrames bytes [] = .ok ((reported bytes).length, (reported bytes).map Hit.value) ∧
      (dispatches 0 (runTrace n (List.replicate failures false ++ true :: opens)
          (bytes.map .byte) data) = (reported bytes).map dispatchOf ↔ DiscardsNoFrame bytes) ∧
      (DiscardsNoFrame bytes →
        handledFrames (runTrace n (List.replicate failures false ++ true :: opens)
          (bytes.map .byte) data) = (reported bytes).map Hit.value) := by
  refine ⟨parseFrames_reported bytes [], ?_, fun h => ?_⟩
  · rw [runTrace_bytes opens data hn]
    exact dispatch_eq_iff bytes
  · rw [handledFrames, runTrace_bytes opens data hn, (dispatch_eq_iff bytes).mpr h, List.map_map]
    rfl

set_option maxRecDepth 10000 in
/-- A stray byte in front of a frame is no reason to disagree. -/
theorem decoders_agree_stray :
    let bytes := [0x00, 0xA5, 0x12, 0x01, 0x41, 0x10, 0x65, 0x5A]
    parseFrames bytes [] = .ok ((reported bytes).length, (reported bytes).map Hit.value) ∧
      handledFrames (runTrace 8 [true] (bytes.map .byte) (Vector.replicate 255 0))
        = (reported bytes).map Hit.value := by
  obtain ⟨hparse, -, hframes⟩ := decoders_agree
    [0x00, 0xA5, 0x12, 0x01, 0x41, 0x10, 0x65, 0x5A] [] (Vector.replicate 255 0) 0 8 (by decide)
  exact ⟨hparse, hframes ((dispatch_eq_iff _).mp (by decide))⟩

-- The same frames at different places: the frame that `parseFrames` finds ends in SOF, CMD_ID of
-- the one `receiveLoop` finds, which is why places have to be compared.
set_option maxRecDepth 10000 in
example :
    let bytes := [0xA5, 0x00, 0x02, 0xA5, 0x5A, 0x01, 0x76, 0xD1, 0xA5, 0x5A, 0x01, 0x76, 0xD1,
      0xA5, 0x5A]
    reported bytes = [⟨3, 7, (0x5A, [0x76])⟩] ∧
      hits receive 0 bytes = [⟨8, 7, (0x5A, [0x76])⟩] := by
  decide

set_option maxRecDepth 10000 in
/-- **The decoders disagree** on a frame without data, and on a frame behind a stray SOF. -/
theorem decoders_disagree :
    ¬ (∀ (bytes : List UInt8) (n count : ℕ) (parsed : List Frame), bytes.length ≤ n →
      parseFrames bytes [] = .ok (count, parsed) →
      handledFrames (runTrace n [true] (bytes.map .byte) (Vector.replicate 255 0)) = parsed) ∧
    (∃ n count parsed, [0xA5, 0xA5, 0x12, 0x01, 0x41, 0x10, 0x65, 0x5A].length ≤ n ∧
      parseFrames [0xA5, 0xA5, 0x12, 0x01, 0x41, 0x10, 0x65, 0x5A] [] = .ok (count, parsed) ∧
      handledFrames (runTrace n [true]
        ([0xA5, 0xA5, 0x12, 0x01, 0x41, 0x10, 0x65, 0x5A].map .byte) (Vector.replicate 255 0))
        ≠ parsed) := by
  refine ⟨fun hagree => ?_, 8, 1, [(0x12, [0x41])], by decide, by decide, by decide⟩
  have hhandled := hagree [0xA5, 0x10, 0x00, 0x0C, 0x70, 0x5A] 6 1 [(0x10, [])] (by decide)
    (by decide)
  exact absurd hhandled (by decide)

end SentryNav.SerialComm
