import SentryNav.Core.Stream
import SentryNav.SerialComm.ParseFrames

/-!
# What `parseFrames` guarantees

Three statements about whole buffers, each the code-level reading of a fact about greedy scanners.

* **Exactness** (`parseFrames_exact`): the reported frames sit in the buffer one after another, and
  no complete frame of the buffer is missed, except inside a reported one.
* **Round trip** (`parseFrames_interleave`): what `packFrame` wrote, with noise around it, is
  reported as it was written.
* **More data** (`parseFrames_extend`): what was reported of a partial buffer stays reported,
  unless a frame straddles the end of that buffer in front of a reported one.  Such a frame is
  dropped as over-long while its own data is scanned, which the code does on purpose
  (`parseFrames_not_stable` is the smallest shape of it).
-/

namespace SentryNav.SerialComm

open Scan

/-- Where the frames that `parseFrames` reports lie in the buffer. -/
def reported (buffer : List UInt8) : List (Hit Frame) := hits (greedy frameReader) 0 buffer

lemma parseFrames_reported (buffer : List UInt8) (frames : List Frame) :
    parseFrames buffer frames
      = .ok ((reported buffer).length, frames ++ (reported buffer).map Hit.value) :=
  parseFrames_eq buffer frames

/-! ## Exactness -/

/-- A frame that is read somewhere is there, byte for byte. -/
lemma extract_of_read {buffer : List UInt8} {h : Hit Frame}
    (hread : readFrame (buffer.drop h.start) = some (h.value, h.width)) :
    h.value.Fits ∧ h.stop ≤ buffer.length ∧ buffer.extract h.start h.stop = h.value.bytes := by
  obtain ⟨hpre, hfits, hw⟩ := readFrame_iff.mp hread
  have hlen := hpre.length_le
  have hpos : 0 < h.value.bytes.length := by rw [Frame.length_bytes, frameOverhead]; omega
  rw [List.length_drop] at hlen
  refine ⟨hfits, by rw [Hit.stop, hw]; omega, ?_⟩
  rw [List.extract_eq_take_drop, Hit.stop, Nat.add_sub_cancel_left, hw]
  exact (List.prefix_iff_eq_take.mp hpre).symm

/-- **`parseFrames` accepts exactly the frames of the format, leftmost first.**  It ends on every
buffer without reading outside it; the appended frames fill disjoint ranges in increasing order, the
count is their number, and every complete frame of the buffer starts inside one of the ranges. -/
theorem parseFrames_exact (buffer : List UInt8) (frames : List Frame) :
    ∃ placed : List (Hit Frame),
      parseFrames buffer frames = .ok (placed.length, frames ++ placed.map Hit.value) ∧
      placed.Pairwise (fun h k => h.stop ≤ k.start) ∧
      (∀ h ∈ placed, h.value.Fits ∧ h.stop ≤ buffer.length ∧
        buffer.extract h.start h.stop = h.value.bytes) ∧
      ∀ (p : ℕ) (f : Frame), f.Fits → f.bytes <+: buffer.drop p →
        ∃ h ∈ placed, h.start ≤ p ∧ p < h.stop := by
  refine ⟨reported buffer, parseFrames_reported buffer frames, hits_pairwise 0 buffer, ?_, ?_⟩
  · intro h hh
    exact extract_of_read (hits_sound (greedy_faithful frameReader) hh).2
  · intro p f hfits hpre
    have hread : readFrame (buffer.drop p) = some (f, f.bytes.length) :=
      readFrame_iff.mpr ⟨hpre, hfits, rfl⟩
    obtain ⟨h, hh, hle, hlt⟩ := greedy_covers (R := frameReader) 0
      (show frameReader.read (buffer.drop p) ≠ none by rw [frameReader_read, hread]; simp)
    exact ⟨h, hh, by omega, by omega⟩

/-! ## Round trip -/

lemma greedy_passes {b : UInt8} (h : b ≠ frameSof) : Passes (greedy frameReader) b :=
  fun xs => greedy_of_none (readFrame_of_ne h xs)

lemma greedy_readsBack {f : Frame} (h : f.Fits) :
    ReadsBack (greedy frameReader) Frame.bytes f :=
  ⟨by rw [Frame.bytes_eq]; simp, fun xs => greedy_of_some (readFrame_bytes h xs)⟩

/-- **Round trip over a whole stream.**  Frames with data of up to 255 bytes of any value, with
noise free of SOF around them, are reported as they were written, in order, behind what the output
vector already held. -/
theorem parseFrames_interleave (noise : List UInt8) (sent : List (Frame × List UInt8))
    (frames : List Frame) (hnoise : frameSof ∉ noise)
    (hsent : ∀ item ∈ sent, item.1.Fits ∧ frameSof ∉ item.2) :
    parseFrames (interleave Frame.bytes noise sent) frames
      = .ok (sent.length, frames ++ sent.map Prod.fst) := by
  have hvalues : (reported (interleave Frame.bytes noise sent)).map Hit.value = sent.map Prod.fst :=
    hits_interleave 0 (fun b hb => greedy_passes (ne_of_mem_of_not_mem hb hnoise))
      fun item hi => ⟨greedy_readsBack (hsent item hi).1,
        fun b hb => greedy_passes (ne_of_mem_of_not_mem hb (hsent item hi).2)⟩
  have hlength := congrArg List.length hvalues
  rw [List.length_map, List.length_map] at hlength
  rw [parseFrames_reported, hvalues, hlength]

/-- A frame whose data is SOF and EOF, between two noise bytes. -/
theorem parseFrames_interleave_sofEof :
    parseFrames (interleave Frame.bytes [0x00] [((0x12, [0xA5, 0x5A]), [0x5A])]) [(0x10, [])]
      = .ok (1, [(0x10, []), (0x12, [0xA5, 0x5A])]) :=
  parseFrames_interleave [0x00] [((0x12, [0xA5, 0x5A]), [0x5A])] [(0x10, [])] (by decide)
    (by decide)

/-! ## More data

A SOF whose announced length runs past the end of the buffer is dropped, not waited for, and the
scan goes on inside its data.  If the rest of that frame arrives later, what was reported from its
data is contradicted.
-/

/-- No frame of the extended buffer straddles the end of the first part in front of a reported
frame, unless it starts inside one. -/
def NoStraddle (buffer more : List UInt8) : Prop :=
  ∀ (p : ℕ) (f : Frame), f.Fits → f.bytes <+: (buffer ++ more).drop p →
    p < buffer.length → buffer.length < p + f.bytes.length →
    (∀ h ∈ reported buffer, ¬ (h.start ≤ p ∧ p < h.stop)) →
    ∀ h ∈ reported buffer, h.start < p

/-- With their places in the buffer, the reported frames are final exactly when nothing straddles
its end in front of them. -/
theorem reported_prefix_iff (buffer more : List UInt8) :
    reported buffer <+: reported (buffer ++ more) ↔ NoStraddle buffer more := by
  rw [reported, reported, greedy_prefix_iff]
  simp only [CutIsFinal, NoStraddle, reported, frameReader_read, Nat.zero_add]
  constructor
  · intro h p f hfits hpre hp hend hout
    exact h p f f.bytes.length hp (readFrame_iff.mpr ⟨hpre, hfits, rfl⟩) hend hout
  · intro h p f w hp hread hend hout
    obtain ⟨hpre, hfits, rfl⟩ := readFrame_iff.mp hread
    exact h p f hfits hpre hp hend hout

/-- **What was reported stays reported**, if nothing straddles the end of the first part in front
of it: the frames reported of the first part are a prefix of those reported of the whole. -/
theorem parseFrames_extend (buffer more : List UInt8) (hcut : NoStraddle buffer more) :
    ∃ n m early all, parseFrames buffer [] = .ok (n, early) ∧
      parseFrames (buffer ++ more) [] = .ok (m, all) ∧ early <+: all :=
  ⟨_, _, _, _, parseFrames_reported buffer [], parseFrames_reported (buffer ++ more) [],
    ((reported_prefix_iff buffer more).mpr hcut).map Hit.value⟩

set_option maxRecDepth 10000 in
/-- A complete frame stays reported whatever follows it. -/
theorem parseFrames_extend_complete :
    ∃ n m early all, parseFrames [0xA5, 0x12, 0x01, 0x41, 0x10, 0x65, 0x5A] [] = .ok (n, early) ∧
      parseFrames ([0xA5, 0x12, 0x01, 0x41, 0x10, 0x65, 0x5A] ++ [0xA5, 0x12]) [] = .ok (m, all) ∧
      early <+: all := by
  refine parseFrames_extend _ _ fun p f _ _ hp _ hout => ?_
  have hreported : reported [0xA5, 0x12, 0x01, 0x41, 0x10, 0x65, 0x5A]
      = [⟨0, 7, (0x12, [0x41])⟩] := by decide
  rw [hreported] at hout
  exact absurd ⟨Nat.zero_le p, hp⟩ (hout _ List.mem_cons_self)

set_option maxRecDepth 10000 in
/-- **What is reported of a partial buffer can be contradicted.**  The first ten bytes are the
start of a frame whose data is itself a frame; the inner one is reported until the outer one is
complete. -/
theorem parseFrames_not_stable :
    ¬ ∀ (buffer more : List UInt8) (n m : ℕ) (early all : List Frame),
      parseFrames buffer [] = .ok (n, early) → parseFrames (buffer ++ more) [] = .ok (m, all) →
      early <+: all := by
  intro hstable
  have hpre := hstable [0xA5, 0x10, 0x07, 0xA5, 0x12, 0x01, 0x41, 0x10, 0x65, 0x5A]
    [0xF3, 0xFC, 0x5A] 1 1 [(0x12, [0x41])]
    [(0x10, [0xA5, 0x12, 0x01, 0x41, 0x10, 0x65, 0x5A])] (by decide) (by decide)
  exact absurd hpre (by decide)

end SentryNav.SerialComm
