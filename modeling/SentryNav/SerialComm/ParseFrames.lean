import SentryNav.Core.Loop
import SentryNav.SerialComm.Frame

/-!
# `parseFrames`

The buffer decoder of `frame.cpp`: a `while` loop over an index that advances by one byte past
whatever it cannot accept and by a whole frame past what it can.  Every access to the buffer is a
checked one, and the loop runs on fuel, so that reading out of range and running on for ever are
results the model can express.

**What is proved.**  `parseFrames_eq`: on every buffer the loop ends without a fault, and what it
appends is what a greedy scanner reads (`Scan.greedy frameReader`).  One pass is characterised
once, by `parsePass_eq`, and nothing later unfolds the loop body.
-/

namespace SentryNav.SerialComm

open Loop Scan

/-! ## The code -/

/-- The locals of `parseFrames` that its loop changes, with the output vector. -/
structure ParseState where
  i : ℕ
  count : ℕ
  frames : List Frame

/-- What can go wrong in a run of the model. -/
inductive Fault
  | outOfRange
  | outOfFuel
deriving DecidableEq

/-- `buffer[from, from + len)`, if it lies in the buffer. -/
def slice? (buffer : List UInt8) (start len : ℕ) : Option (List UInt8) :=
  if start + len ≤ buffer.length then some ((buffer.drop start).take len) else none

/-- One pass of the loop of `parseFrames`; `none` if it reads outside the buffer. -/
def parsePass (buffer : List UInt8) (s : ParseState) : Option (Pass ParseState (ℕ × List Frame)) :=
  if s.i < buffer.length then do
    let sof ← buffer[s.i]?
    if sof ≠ frameSof then
      return .again { s with i := s.i + 1 }
    else if buffer.length < s.i + frameOverhead then
      -- fewer bytes left than the smallest frame: wait for more data
      return .leave (s.count, s.frames)
    else
      let cmdId ← buffer[s.i + 1]?
      let len ← buffer[s.i + 2]?
      if frameMaxDataLen < len ∨ buffer.length < s.i + frameOverhead + len.toNat then
        -- the announced length does not fit: drop this SOF and look on
        return .again { s with i := s.i + 1 }
      else
        let data ← slice? buffer (s.i + 3) len.toNat
        let low ← buffer[s.i + 3 + len.toNat]?
        let high ← buffer[s.i + 3 + len.toNat + 1]?
        let eof ← buffer[s.i + 3 + len.toNat + 2]?
        if crc16 (cmdId :: len :: data) ≠ crcJoin low high ∨ eof ≠ frameEof then
          return .again { s with i := s.i + 1 }
        else
          return .again
            ⟨s.i + (frameOverhead + len.toNat), s.count + 1, s.frames ++ [(cmdId, data)]⟩
  else
    some (.leave (s.count, s.frames))

/-- The loop body: a pass, or leaving with the fault it ran into. -/
def parseBody (buffer : List UInt8) (s : ParseState) :
    Pass ParseState (Except Fault (ℕ × List Frame)) :=
  match parsePass buffer s with
  | none => .leave (.error .outOfRange)
  | some (.again s') => .again s'
  | some (.leave r) => .leave (.ok r)

/-- `parseFrames(buffer, frames)`: the returned count, and the output vector afterwards. -/
def parseFrames (buffer : List UInt8) (frames : List Frame) : Except Fault (ℕ × List Frame) :=
  (loop (parseBody buffer) (buffer.length + 1) ⟨0, 0, frames⟩).getD (.error .outOfFuel)

/-! ## One pass -/

/-- What a pass does, in terms of the bytes from the current index on. -/
def passSpec (xs : List UInt8) (s : ParseState) : Pass ParseState (ℕ × List Frame) :=
  match readFrame xs with
  | some (f, w) => .again ⟨s.i + w, s.count + 1, s.frames ++ [f]⟩
  | none =>
      if xs.length < frameOverhead ∧ (xs = [] ∨ xs.head? = some frameSof)
      then .leave (s.count, s.frames) else .again { s with i := s.i + 1 }

/-- A pass over a complete candidate: the check of the code is the one `readFrame` makes. -/
lemma parsePass_candidate (pre data tail : List UInt8) (cmdId len low high eof : UInt8)
    (s : ParseState) (hi : s.i = pre.length) (hdata : data.length = len.toNat) :
    parsePass (pre ++ frameSof :: cmdId :: len :: (data ++ low :: high :: eof :: tail)) s
      = some (if crc16 (cmdId :: len :: data) = crcJoin low high ∧ eof = frameEof
          then
            .again ⟨s.i + (frameOverhead + data.length), s.count + 1, s.frames ++ [(cmdId, data)]⟩
          else .again { s with i := s.i + 1 }) := by
  set xs := frameSof :: cmdId :: len :: (data ++ low :: high :: eof :: tail) with hxs
  have hget : ∀ k, (pre ++ xs)[s.i + k]? = xs[k]? := fun k => by
    rw [List.getElem?_append_right (by omega), hi, Nat.add_sub_cancel_left]
  have hsof : (pre ++ xs)[s.i]? = some frameSof := hget 0
  have hcmd : (pre ++ xs)[s.i + 1]? = some cmdId := hget 1
  have hlen : (pre ++ xs)[s.i + 2]? = some len := hget 2
  have htail : ∀ k, (pre ++ xs)[s.i + 3 + data.length + k]? = (low :: high :: eof :: tail)[k]? := by
    intro k
    rw [show s.i + 3 + data.length + k = s.i + (data.length + k + 3) by omega, hget, hxs]
    simp only [List.getElem?_cons_succ]
    rw [List.getElem?_append_right (by omega), Nat.add_sub_cancel_left]
  have hlow : (pre ++ xs)[s.i + 3 + data.length]? = some low := htail 0
  have hhigh : (pre ++ xs)[s.i + 3 + data.length + 1]? = some high := htail 1
  have heof : (pre ++ xs)[s.i + 3 + data.length + 2]? = some eof := htail 2
  have hlength : (pre ++ xs).length = s.i + (6 + data.length + tail.length) := by
    simp only [hxs, List.length_append, List.length_cons, hi]
    omega
  have hslice : slice? (pre ++ xs) (s.i + 3) data.length = some data := by
    rw [slice?, if_pos (by omega), List.drop_append, List.drop_of_length_le (by omega), hi,
      Nat.add_sub_cancel_left, hxs]
    simp
  have h₁ : s.i < (pre ++ xs).length := by omega
  have h₂ : ¬ (pre ++ xs).length < s.i + frameOverhead := by rw [frameOverhead]; omega
  have h₃ : ¬ (pre ++ xs).length < s.i + frameOverhead + data.length := by
    rw [frameOverhead]; omega
  simp only [parsePass, if_pos h₁, hsof, hcmd, hlen, ← hdata, hslice, hlow, hhigh, heof, h₂, h₃,
    not_frameMaxDataLen_lt, Option.bind_eq_bind, Option.bind_some, Option.pure_def, ne_eq,
    not_true_eq_false, if_false, or_self]
  by_cases hok : crc16 (cmdId :: len :: data) = crcJoin low high ∧ eof = frameEof
  · rw [if_pos hok, if_neg (by rw [not_or, not_not, not_not]; exact hok)]
  · rw [if_neg hok, if_pos (by rw [← not_and_or]; exact hok)]

lemma passSpec_some {xs : List UInt8} {f : Frame} {w : ℕ} (h : readFrame xs = some (f, w))
    (s : ParseState) :
    passSpec xs s = .again ⟨s.i + w, s.count + 1, s.frames ++ [f]⟩ := by
  rw [passSpec, h]

lemma passSpec_none {xs : List UInt8} (h : readFrame xs = none) (s : ParseState) :
    passSpec xs s
      = if xs.length < frameOverhead ∧ (xs = [] ∨ xs.head? = some frameSof)
        then .leave (s.count, s.frames) else .again { s with i := s.i + 1 } := by
  rw [passSpec, h]

/-- **One pass.**  Where a frame can be read it is taken; where none can, the index moves by one
byte, or the loop ends if no frame fits behind a SOF any more.  The cases are those of the code: end
of the buffer, no SOF, too few bytes for a frame, too few for this one, and a complete candidate. -/
theorem parsePass_append (pre xs : List UInt8) (s : ParseState) (hi : s.i = pre.length) :
    parsePass (pre ++ xs) s = some (passSpec xs s) := by
  have hget : ∀ k, (pre ++ xs)[s.i + k]? = xs[k]? := fun k => by
    rw [List.getElem?_append_right (by omega), hi, Nat.add_sub_cancel_left]
  have hlength : (pre ++ xs).length = s.i + xs.length := by rw [List.length_append, hi]
  match xs with
  | [] =>
      rw [parsePass, if_neg (by rw [hlength]; simp), passSpec_none (readFrame_of_short (by decide)),
        if_pos ⟨by decide, .inl rfl⟩]
  | b :: t =>
      have hin : s.i < (pre ++ b :: t).length := by rw [hlength, List.length_cons]; omega
      by_cases hb : b = frameSof
      · subst hb
        have hsof : (pre ++ frameSof :: t)[s.i]? = some frameSof := hget 0
        by_cases hshort : (frameSof :: t).length < frameOverhead
        · have hend : (pre ++ frameSof :: t).length < s.i + frameOverhead := by omega
          rw [passSpec_none (readFrame_of_short hshort), if_pos ⟨hshort, .inr rfl⟩]
          simp only [parsePass, if_pos hin, hsof, Option.bind_eq_bind, Option.bind_some, ne_eq,
            not_true_eq_false, if_false, if_pos hend, Option.pure_def]
        · obtain ⟨cmdId, len, rest, rfl⟩ : ∃ cmdId len rest, t = cmdId :: len :: rest := by
            match t, hshort with
            | [], h | [_], h => exact absurd (by rw [frameOverhead]; simp) h
            | cmdId :: len :: rest, _ => exact ⟨cmdId, len, rest, rfl⟩
          by_cases hfits : len.toNat + 3 ≤ rest.length
          · obtain ⟨data, low, high, eof, tail, rfl, hdata⟩ := exists_candidate hfits
            have hread := readFrame_candidate hdata cmdId low high eof tail
            rw [parsePass_candidate pre data tail cmdId len low high eof s hi hdata]
            split
            · next hok => rw [if_pos hok] at hread; rw [passSpec_some hread]
            · next hbad =>
                rw [if_neg hbad] at hread
                rw [passSpec_none hread, if_neg fun h => hshort h.1]
          · have hcmd : (pre ++ frameSof :: cmdId :: len :: rest)[s.i + 1]? = some cmdId := hget 1
            have hlen : (pre ++ frameSof :: cmdId :: len :: rest)[s.i + 2]? = some len := hget 2
            have hend : ¬ (pre ++ frameSof :: cmdId :: len :: rest).length
                < s.i + frameOverhead := by omega
            have hover : (pre ++ frameSof :: cmdId :: len :: rest).length
                < s.i + frameOverhead + len.toNat := by
              rw [hlength, frameOverhead]
              simp only [List.length_cons]
              omega
            rw [passSpec_none (readFrame_of_overrun (by omega)), if_neg fun h => hshort h.1]
            simp only [parsePass, if_pos hin, hsof, hcmd, hlen, Option.bind_eq_bind,
              Option.bind_some, ne_eq, not_true_eq_false, if_false, if_neg hend, hover, or_true,
              if_true, Option.pure_def]
      · have hbyte : (pre ++ b :: t)[s.i]? = some b := hget 0
        have hnot : ¬ ((b :: t).length < frameOverhead ∧
            (b :: t = [] ∨ (b :: t).head? = some frameSof)) := by simp [hb]
        rw [passSpec_none (readFrame_of_ne hb _), if_neg hnot]
        simp only [parsePass, if_pos hin, hbyte, Option.bind_eq_bind, Option.bind_some, ne_eq, hb,
          not_false_eq_true, if_true, Option.pure_def]

lemma parsePass_eq {buffer : List UInt8} {s : ParseState} (h : s.i ≤ buffer.length) :
    parsePass buffer s = some (passSpec (buffer.drop s.i) s) := by
  have := parsePass_append (buffer.take s.i) (buffer.drop s.i) s
    (List.length_take_of_le h).symm
  rwa [List.take_append_drop] at this

/-! ## The loop -/

/-- The hits from an index on. -/
def hitsFrom (buffer : List UInt8) (i : ℕ) : List (Hit Frame) :=
  hits (greedy frameReader) i (buffer.drop i)

lemma hitsFrom_short {buffer : List UInt8} {i : ℕ} (h : (buffer.drop i).length < frameOverhead) :
    hitsFrom buffer i = [] := by
  have hfree : ∀ q, q < (buffer.drop i).length →
      frameReader.read ((buffer.drop i).drop q) = none := by
    intro q _
    exact readFrame_of_short (by rw [List.length_drop]; omega)
  rw [hitsFrom, hits_greedy_drop hfree, List.drop_length, hits_nil]

lemma hitsFrom_some {buffer : List UInt8} {i w : ℕ} {f : Frame}
    (h : readFrame (buffer.drop i) = some (f, w)) :
    hitsFrom buffer i = ⟨i, w, f⟩ :: hitsFrom buffer (i + w) := by
  cases hxs : buffer.drop i with
  | nil => rw [hxs] at h; exact absurd h (by rw [readFrame_of_short (by decide)]; simp)
  | cons x xs =>
      rw [hxs] at h
      rw [hitsFrom, hxs, hits_greedy_some h, ← hxs, List.drop_drop, hitsFrom]

lemma hitsFrom_none {buffer : List UInt8} {i : ℕ} (h : readFrame (buffer.drop i) = none)
    (hi : i < buffer.length) : hitsFrom buffer i = hitsFrom buffer (i + 1) := by
  have hxs : buffer.drop i = buffer[i] :: buffer.drop (i + 1) := List.drop_eq_getElem_cons hi
  rw [hxs] at h
  rw [hitsFrom, hxs, hits_greedy_none h, hitsFrom]

/-- The invariant of the loop: the index is in the buffer, and what has been appended together
with what lies ahead is what a greedy scanner reads in the whole buffer. -/
structure ParseInv (buffer : List UInt8) (frames : List Frame) (s : ParseState) : Prop where
  inside : s.i ≤ buffer.length
  count : s.count + (hitsFrom buffer s.i).length = (hitsFrom buffer 0).length
  frames : s.frames ++ (hitsFrom buffer s.i).map Hit.value
    = frames ++ (hitsFrom buffer 0).map Hit.value

/-- A pass keeps the invariant and gets closer to the end of the buffer; leaving, it has appended
everything. -/
lemma parseBody_meets {buffer : List UInt8} {frames : List Frame} {s : ParseState}
    (h : ParseInv buffer frames s) :
    (parseBody buffer s).Meets (ParseInv buffer frames)
      (fun r => r = .ok ((hitsFrom buffer 0).length, frames ++ (hitsFrom buffer 0).map Hit.value))
      (fun s => buffer.length - s.i) s := by
  have hpass := parsePass_eq h.inside
  cases hr : readFrame (buffer.drop s.i) with
  | some r =>
      obtain ⟨f, w⟩ := r
      have hfits : w ≤ (buffer.drop s.i).length := frameReader.fits hr
      have hpos : 0 < w := frameReader.pos hr
      rw [List.length_drop] at hfits
      rw [passSpec_some hr] at hpass
      have hcount : s.count + 1 + (hitsFrom buffer (s.i + w)).length
          = (hitsFrom buffer 0).length := by
        rw [← h.count, hitsFrom_some hr, List.length_cons]
        omega
      have hframes : s.frames ++ [f] ++ (hitsFrom buffer (s.i + w)).map Hit.value
          = frames ++ (hitsFrom buffer 0).map Hit.value := by
        rw [← h.frames, hitsFrom_some hr, List.map_cons, List.append_assoc, List.singleton_append]
      rw [parseBody, hpass]
      exact ⟨⟨by dsimp only; omega, hcount, hframes⟩, by dsimp only; omega⟩
  | none =>
      rw [passSpec_none hr] at hpass
      by_cases hend : (buffer.drop s.i).length < frameOverhead ∧
          (buffer.drop s.i = [] ∨ (buffer.drop s.i).head? = some frameSof)
      · have hnil := hitsFrom_short hend.1
        have hcount := h.count
        have hframes := h.frames
        rw [hnil, List.length_nil, Nat.add_zero] at hcount
        rw [hnil, List.map_nil, List.append_nil] at hframes
        rw [if_pos hend] at hpass
        rw [parseBody, hpass, hcount, hframes]
        exact rfl
      · have hlt : s.i < buffer.length := by
          by_contra hge
          have hnil : buffer.drop s.i = [] := List.drop_eq_nil_of_le (by omega)
          exact hend ⟨by rw [hnil]; decide, .inl hnil⟩
        have hnext := hitsFrom_none hr hlt
        rw [if_neg hend] at hpass
        rw [parseBody, hpass]
        exact ⟨⟨hlt, hnext ▸ h.count, hnext ▸ h.frames⟩, by dsimp only; omega⟩

/-- **`parseFrames` is the greedy scanner.**  On every buffer the loop ends, within as many passes
as there are bytes and one more, and without reading outside the buffer; it appends the frames a
greedy scanner finds and returns their number. -/
theorem parseFrames_eq (buffer : List UInt8) (frames : List Frame) :
    parseFrames buffer frames
      = .ok ((hits (greedy frameReader) 0 buffer).length,
          frames ++ (hits (greedy frameReader) 0 buffer).map Hit.value) := by
  have hinit : ParseInv buffer frames ⟨0, 0, frames⟩ := ⟨Nat.zero_le _, by simp, rfl⟩
  obtain ⟨r, hrun, rfl⟩ := loop_total _ _ _ (fun s hs => parseBody_meets hs) (buffer.length + 1)
    ⟨0, 0, frames⟩ hinit (by dsimp only; omega)
  rw [parseFrames, hrun]
  rfl

end SentryNav.SerialComm
