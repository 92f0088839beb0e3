import SentryNav.SerialComm.ReceiveRun

/-!
# What the receive link guarantees

Three statements about whole runs of `receiveLoop`.

* **Nothing corrupted** (`receiveLoop_sound`): whatever arrives and wherever reads fail, each frame
  handed on is a range of the received bytes as `packFrame` writes it, and no byte is used twice.
* **Nothing lost** (`receiveLoop_delivers`): frames with data are handed on exactly as sent, if
  reads fail only between them and the noise there has no SOF.
* **Faults** (`receiveLoop_contains`): a corrupted byte costs only its own frame exactly when the
  receiver, which never goes back over bytes it has taken up, is at rest where that frame ends.
  `receiveLoop_loses_neighbour` is a case where it is not.
-/

namespace SentryNav.SerialComm

open Scan

/-- The trace of a run of the receive thread from its start. -/
def runTrace (n : ℕ) (opens : List Bool) (reads : List ReadOutcome) (data : Vector UInt8 255) :
    List PortEvent :=
  (receiveLoop n (Link.start opens reads data)).trace

/-- A run that gets the port open and lasts long enough dispatches all there is. -/
theorem runTrace_complete (opens : List Bool) {reads : List ReadOutcome} (data : Vector UInt8 255)
    {failures n : ℕ} (hn : failures + reads.length ≤ n) :
    dispatches 0 (runTrace n (List.replicate failures false ++ true :: opens) reads data)
      = dispatchable reads :=
  receiveLoop_complete
    (receiveInv_start (List.replicate failures false ++ true :: opens) reads data)
    (.inr ⟨failures, Nat.le_refl _, opens, rfl⟩) hn

/-! ## Nothing corrupted -/

/-- A hit of the scanner, by the bytes received instead of the reads. -/
def byteHit (reads : List ReadOutcome) (h : Hit Frame) : Hit Frame :=
  ⟨(received (reads.take h.start)).length, h.value.bytes.length, h.value⟩

/-- What a hit among the reads is. -/
lemma hit_received {reads : List ReadOutcome} {h : Hit Frame} (hh : h ∈ hits attempt 0 reads) :
    h.value.Fits ∧ 0 < h.value.2.length ∧
      (received (reads.take h.stop)).length = (byteHit reads h).stop ∧
      (received reads).extract (byteHit reads h).start (byteHit reads h).stop = h.value.bytes := by
  obtain ⟨t, ht, hstart, hwidth, hvalue⟩ := mem_hits.mp hh
  obtain ⟨_, hlook⟩ := token_look t ht
  rw [hlook, hstart] at hvalue hwidth
  obtain ⟨hfits, hpos, hlen, tail, htail⟩ := attempt_sound hvalue
  rw [Nat.sub_zero] at htail
  have htake : reads.take h.stop = reads.take h.start ++ h.value.bytes.map .byte := by
    have hw : h.width = h.value.bytes.length := hwidth.symm.trans hlen
    rw [Hit.stop, List.take_add, htail, hw, List.take_left' (List.length_map _)]
  have hall : received reads
      = received (reads.take h.start) ++ (h.value.bytes ++ received tail) := by
    conv_lhs => rw [← List.take_append_drop h.start reads, htail]
    rw [received_append, received_append, received_map]
  refine ⟨hfits, hpos, ?_, ?_⟩
  · rw [htake, received_append, received_map, List.length_append]
    rfl
  · rw [hall, List.extract_eq_take_drop, byteHit, Hit.stop]
    simp

lemma received_take_mono (reads : List ReadOutcome) {i j : ℕ} (h : i ≤ j) :
    (received (reads.take i)).length ≤ (received (reads.take j)).length := by
  obtain ⟨d, rfl⟩ := Nat.exists_eq_add_of_le h
  rw [List.take_add, received_append, List.length_append]
  exact Nat.le_add_right _ _

lemma extract_append_left {α : Type*} {xs ys : List α} {i j : ℕ} (h : j ≤ xs.length) :
    (xs ++ ys).extract i j = xs.extract i j := by
  rw [List.extract_eq_take_drop, List.extract_eq_take_drop, List.drop_append,
    List.take_append_of_le_length (by rw [List.length_drop]; omega)]

/-- **No corrupted dispatch.**  Whatever the port does and whatever the receive buffer held, the
frames handed on fill ranges of the received bytes that are disjoint and in stream order; each range
is what `packFrame` writes for the frame, with 1 to 255 bytes of data, and the frame is handed on
when its last byte has been received. -/
theorem receiveLoop_sound (n : ℕ) (opens : List Bool) (reads : List ReadOutcome)
    (data : Vector UInt8 255) :
    ∃ placed : List (Hit Frame),
      dispatches 0 (runTrace n opens reads data) = placed.map (fun h => (h.stop, h.value)) ∧
      placed.Pairwise (fun h k => h.stop ≤ k.start) ∧
      ∀ h ∈ placed, 0 < h.value.2.length ∧ h.value.Fits ∧
        h.stop ≤ (received (readsOf (runTrace n opens reads data))).length ∧
        (received (readsOf (runTrace n opens reads data))).extract h.start h.stop
          = h.value.bytes := by
  have hinv := receiveLoop_inv n (receiveInv_start opens reads data)
  obtain ⟨p, _, hread, hall⟩ := hinv.split
  rw [← runTrace] at hread hall
  obtain ⟨early, late, hsplit, hearly, _⟩ := List.map_eq_append_iff.mp hall.symm
  have hmem : ∀ h ∈ early, h ∈ hits attempt 0 reads := fun h hh =>
    hsplit ▸ List.mem_append_left late hh
  refine ⟨early.map (byteHit reads), ?_, ?_, ?_⟩
  · rw [← hearly, List.map_map]
    refine List.map_congr_left fun h hh => ?_
    rw [located, (hit_received (hmem h hh)).2.2.1]
    rfl
  · have hpair : early.Pairwise fun h k => h.stop ≤ k.start :=
      (List.pairwise_append.mp (hsplit ▸ hits_pairwise 0 reads)).1
    refine List.pairwise_map.mpr (hpair.imp_of_mem fun {h k} hh _ hle => ?_)
    rw [← (hit_received (hmem h hh)).2.2.1]
    exact received_take_mono reads hle
  · intro k hk
    obtain ⟨h, hh, rfl⟩ := List.mem_map.mp hk
    obtain ⟨hfits, hpos, hstop, hbytes⟩ := hit_received (hmem h hh)
    have hle : (byteHit reads h).stop
        ≤ (received (readsOf (runTrace n opens reads data))).length := by
      have hd : located reads h ∈ dispatches 0 (runTrace n opens reads data) :=
        hearly ▸ List.mem_map_of_mem hh
      have := dispatch_le _ hd
      rwa [located, hstop, Nat.zero_add] at this
    refine ⟨hpos, hfits, hle, ?_⟩
    have happend : received reads = received (readsOf (runTrace n opens reads data))
        ++ received (reads.drop p) := by
      rw [hread, ← received_append, List.take_append_drop]
    rw [happend, extract_append_left hle] at hbytes
    exact hbytes

/-! ## Nothing lost -/

/-- A frame on the wire, each of its bytes arriving in time. -/
def Frame.arrival (f : Frame) : List ReadOutcome := f.bytes.map .byte

/-- A frame that `receiveLoop` is there for: with data, and no more than LEN can say. -/
def Frame.Sendable (f : Frame) : Prop := 0 < f.2.length ∧ f.Fits

instance (f : Frame) : Decidable f.Sendable := inferInstanceAs (Decidable (_ ∧ _))

/-- Failed reads and bytes other than SOF are passed over one at a time. -/
lemma attempt_passes {o : ReadOutcome} (h : o ≠ .byte frameSof) : Passes attempt o := by
  intro outcomes
  cases o with
  | byte b =>
      have hb : b ≠ frameSof := fun hb => h (hb ▸ rfl)
      exact receive_of_ne hb (leading outcomes)
  | timeout | selectError | readError => rfl

lemma attempt_readsBack {f : Frame} (h : f.Sendable) : ReadsBack attempt Frame.arrival f := by
  refine ⟨by rw [Frame.arrival, Frame.bytes_eq]; simp, fun outcomes => ?_⟩
  rw [attempt, Frame.arrival, leading_append, List.length_map]
  exact receive_bytes h.2 h.1 _

/-- **Lossless delivery.**  Frames with 1 to 255 bytes of data are handed on exactly as they were
sent, each once and in order, once the loop has gone round often enough; between the frames there
may be bytes other than SOF, and reads that fail, in any order. -/
theorem receiveLoop_delivers (gap : List ReadOutcome) (sent : List (Frame × List ReadOutcome))
    (opens : List Bool) (data : Vector UInt8 255) (failures n : ℕ)
    (hgap : .byte frameSof ∉ gap)
    (hsent : ∀ item ∈ sent, item.1.Sendable ∧ .byte frameSof ∉ item.2)
    (hn : failures + (interleave Frame.arrival gap sent).length ≤ n) :
    handledFrames (runTrace n (List.replicate failures false ++ true :: opens)
      (interleave Frame.arrival gap sent) data) = sent.map Prod.fst := by
  rw [handledFrames, runTrace_complete opens data hn, dispatchable, List.map_map]
  refine hits_interleave 0 (fun o ho => attempt_passes (ne_of_mem_of_not_mem ho hgap)) ?_
  intro item hi
  exact ⟨attempt_readsBack (hsent item hi).1,
    fun o ho => attempt_passes (ne_of_mem_of_not_mem ho (hsent item hi).2)⟩

/-- Two frames, with a failed read and noise around them; the first has SOF and EOF in its data. -/
theorem receiveLoop_delivers_two :
    handledFrames (runTrace 30 (List.replicate 1 false ++ true :: [])
      (interleave Frame.arrival [.timeout, .byte 0x00]
        [((0x12, [0xA5, 0x5A]), [.timeout, .byte 0x5A]), ((0x10, [0x42]), [.readError])])
      (Vector.replicate 255 0)) = [(0x12, [0xA5, 0x5A]), (0x10, [0x42])] :=
  receiveLoop_delivers [.timeout, .byte 0x00]
    [((0x12, [0xA5, 0x5A]), [.timeout, .byte 0x5A]), ((0x10, [0x42]), [.readError])] []
    (Vector.replicate 255 0) 1 30 (by decide) (by decide) (by decide)

/-! ## Faults -/

/-! ### Streams of bytes -/

theorem receive_faithful : Faithful frameReader receive := fun _ _ h => (receive_sound h).2

/-- A hit in a stream of bytes is a frame there. -/
lemma hit_frame {bytes : List UInt8} {pos : ℕ} {h : Hit Frame} (hh : h ∈ hits receive pos bytes) :
    h.width = h.value.bytes.length ∧ h.stop ≤ pos + bytes.length := by
  obtain ⟨hge, hread⟩ := hits_sound receive_faithful hh
  have hpos := frameReader.pos hread
  have hfits := frameReader.fits hread
  rw [List.length_drop] at hfits
  obtain ⟨_, _, hwidth⟩ := readFrame_iff.mp hread
  exact ⟨hwidth, by rw [Hit.stop]; omega⟩

/-- A hit as it is dispatched: where it ends, and the frame. -/
def dispatchOf (h : Hit Frame) : ℕ × Frame := (h.stop, h.value)

/-- What is dispatched where all the bytes arrive in time. -/
lemma dispatchable_bytes (bytes : List UInt8) :
    dispatchable (bytes.map .byte) = (hits receive 0 bytes).map dispatchOf := by
  have hlook : (fun ys : List UInt8 => attempt (ys.map .byte)) = receive := by
    funext ys
    have hleading := leading_append ys []
    rw [List.append_nil] at hleading
    rw [attempt, hleading]
    exact congrArg receive (List.append_nil ys)
  rw [dispatchable, hits_map, hlook]
  refine List.map_congr_left fun h hh => ?_
  have hle := (hit_frame hh).2
  rw [located, ← List.map_take, received_map, List.length_take_of_le (by omega)]
  rfl

/-- What such a run dispatches. -/
theorem runTrace_bytes (opens : List Bool) {bytes : List UInt8} (data : Vector UInt8 255)
    {failures n : ℕ} (hn : failures + bytes.length ≤ n) :
    dispatches 0 (runTrace n (List.replicate failures false ++ true :: opens) (bytes.map .byte)
      data) = (hits receive 0 bytes).map dispatchOf := by
  rw [← List.length_map ReadOutcome.byte] at hn
  rw [runTrace_complete opens data hn, dispatchable_bytes]

lemma receive_readsBack {f : Frame} (h : f.Sendable) : ReadsBack receive Frame.bytes f :=
  ⟨by rw [Frame.bytes_eq]; simp, fun more => receive_bytes h.2 h.1 more⟩

lemma three_le_width (bytes : List UInt8) : 3 ≤ (candidate (frameSof :: bytes)).width := by
  match bytes with
  | [] | [_] => exact Nat.le_refl 3
  | cmdId :: len :: rest =>
      by_cases hlen : len = 0
      · subst hlen
        exact Nat.le_refl 3
      · rw [candidate_width _ hlen, frameOverhead]
        omega

/-- What a candidate is does not depend on what follows it. -/
lemma candidate_local (xs ys : List UInt8) (h : (candidate xs).width ≤ xs.length ∨
    (candidate (xs ++ ys)).width ≤ xs.length) : candidate (xs ++ ys) = candidate xs := by
  rcases xs with _ | ⟨b, xs⟩
  · exact absurd h (by simp [Verdict.width])
  · by_cases hb : b = frameSof
    · subst hb
      have hlen : 3 ≤ (frameSof :: xs).length := by
        rcases h with h | h
        · exact (three_le_width xs).trans h
        · exact (three_le_width (xs ++ ys)).trans h
      rcases xs with _ | ⟨cmdId, _ | ⟨len, rest⟩⟩
      · exact absurd hlen (by simp)
      · exact absurd hlen (by simp)
      · by_cases hzero : len = 0
        · subst hzero
          rfl
        · have hwidth := candidate_width cmdId hzero
          simp only [List.cons_append, hwidth, or_self, List.length_cons, frameOverhead] at h
          have hrest : len.toNat + 3 ≤ rest.length := by omega
          obtain ⟨data, low, high, eof, tail, rfl, hdata⟩ := exists_candidate hrest
          simp only [List.cons_append, List.append_assoc, candidate, readFrame_candidate hdata]
    · rw [List.cons_append, candidate_of_ne hb, candidate_of_ne hb]

theorem receive_local : Local receive := by
  intro xs ys h
  have hcut {zs : List UInt8} {n : ℕ} (hn : n ≤ zs.length) :
      (receive zs).width ≤ n ↔ (candidate zs).width ≤ n := by
    rw [receive]
    split
    · rfl
    · show zs.length + 1 ≤ n ↔ (candidate zs).width ≤ n
      omega
  rw [hcut (Nat.le_refl _), hcut (by simp)] at h
  have hcand := candidate_local xs ys h
  rw [hcand, or_self] at h
  rw [receive, receive, hcand, if_pos h, if_pos (by rw [List.length_append]; omega)]

/-! ### One corrupted byte -/

/-- Frames sent back to back, one of them with a byte replaced on the way. -/
def corruptedStream (pre : List Frame) (f : Frame) (i : ℕ) (b : UInt8) (post : List Frame) :
    List UInt8 :=
  pre.flatMap Frame.bytes ++ (f.bytes.set i b ++ post.flatMap Frame.bytes)

/-- The other frames of such a stream, as they are dispatched at their own places. -/
def otherDispatches (pre : List Frame) (f : Frame) (post : List Frame) : List (ℕ × Frame) :=
  (placed Frame.bytes 0 pre).map dispatchOf ++
    (placed Frame.bytes ((pre.flatMap Frame.bytes).length + f.bytes.length) post).map dispatchOf

/-- The receiver is at rest where the corrupted frame ends, or nothing follows it. -/
def Contained (f : Frame) (i : ℕ) (b : UInt8) (post : List Frame) : Prop :=
  post = [] ∨ settles receive 0 (f.bytes.set i b) = true

lemma otherDispatches_value (pre : List Frame) (f : Frame) (post : List Frame) :
    (otherDispatches pre f post).map Prod.snd = pre ++ post := by
  have hvalue (pos : ℕ) (fs : List Frame) :
      ((placed Frame.bytes pos fs).map dispatchOf).map Prod.snd = fs := by
    rw [List.map_map]
    exact placed_value Frame.bytes pos fs
  rw [otherDispatches, List.map_append, hvalue, hvalue]

section Corrupted

variable {pre post : List Frame} {f : Frame} {i : ℕ} {b : UInt8}

/-- Up to the corrupted frame everything is found at its place. -/
lemma hits_corrupted (hpre : ∀ g ∈ pre, g.Sendable) :
    hits receive 0 (corruptedStream pre f i b post)
      = placed Frame.bytes 0 pre ++ hits receive (pre.flatMap Frame.bytes).length
          (f.bytes.set i b ++ post.flatMap Frame.bytes) := by
  rw [corruptedStream, hits_flatMap fun g hg => receive_readsBack (hpre g hg), Nat.zero_add]

/-- Behind it, everything is if the receiver is at rest there. -/
lemma hits_behind (hpost : ∀ g ∈ post, g.Sendable) (pos : ℕ)
    (hs : settles receive 0 (f.bytes.set i b) = true) :
    hits receive pos (f.bytes.set i b ++ post.flatMap Frame.bytes)
      = hits receive pos (f.bytes.set i b) ++ placed Frame.bytes (pos + f.bytes.length) post := by
  have hreads : ∀ g ∈ post, ReadsBack receive Frame.bytes g :=
    fun g hg => receive_readsBack (hpost g hg)
  have htail := hits_flatMap hreads (pos + f.bytes.length) []
  rw [List.append_nil, hits_nil, List.append_nil] at htail
  rw [hits_append receive_local pos _ _ hs, List.length_set, htail]

lemma contained_sublist (hpre : ∀ g ∈ pre, g.Sendable) (hpost : ∀ g ∈ post, g.Sendable)
    (h : Contained f i b post) :
    (otherDispatches pre f post).Sublist
      ((hits receive 0 (corruptedStream pre f i b post)).map dispatchOf) := by
  rw [otherDispatches, hits_corrupted hpre, List.map_append]
  refine (List.Sublist.refl _).append ?_
  rcases h with rfl | hs
  · exact List.nil_sublist _
  · rw [hits_behind hpost _ hs, List.map_append]
    exact List.sublist_append_right _ _

lemma not_contained (hpre : ∀ g ∈ pre, g.Sendable) {g : Frame}
    (hs : settles receive 0 (f.bytes.set i b) = false) :
    dispatchOf ⟨(pre.flatMap Frame.bytes).length + f.bytes.length, g.bytes.length, g⟩
      ∉ (hits receive 0 (corruptedStream pre f i b (g :: post))).map dispatchOf := by
  rw [hits_corrupted hpre, List.map_append, List.mem_append, not_or]
  constructor
  · intro hmem
    obtain ⟨h, hh, heq⟩ := List.mem_map.mp hmem
    have hle := placed_stop_le h hh
    have hstop : h.stop = (pre.flatMap Frame.bytes).length + f.bytes.length + g.bytes.length :=
      congrArg Prod.fst heq
    rw [Frame.length_bytes f, frameOverhead] at hstop
    omega
  · intro hmem
    obtain ⟨h, hh, heq⟩ := List.mem_map.mp hmem
    have hstop : h.stop = (pre.flatMap Frame.bytes).length + f.bytes.length + g.bytes.length :=
      congrArg Prod.fst heq
    have hvalue : h.value = g := congrArg Prod.snd heq
    rw [Hit.stop, (hit_frame hh).1, hvalue] at hstop
    obtain ⟨t, ht, hstart, _⟩ := mem_hits.mp hh
    refine not_settled_skips receive_local _ _ _ hs t ht ?_
    rw [List.length_set]
    omega

lemma settles_candidate {cmdId len : UInt8} (hlen : len ≠ 0) {rest : List UInt8}
    (hrest : rest.length = len.toNat + 3) :
    settles receive 0 (frameSof :: cmdId :: len :: rest) = true := by
  have hwidth : (receive (frameSof :: cmdId :: len :: rest)).width
      = (frameSof :: cmdId :: len :: rest).length := by
    obtain ⟨data, low, high, eof, tail, rfl, hdata⟩ := exists_candidate (Nat.le_of_eq hrest.symm)
    rw [(receive_complete _ hlen hdata low high eof tail).1]
    simp only [List.length_append, List.length_cons] at hrest ⊢
    omega
  rw [settles_cons, hwidth, List.drop_length]
  exact ⟨Nat.le_refl _, rfl⟩

/-- A byte replaced outside SOF and LEN leaves the receiver at rest: the candidate is as long. -/
theorem settles_outside_header (hf : f.Sendable) (hsof : i ≠ 0) (hlen : i ≠ 2) :
    settles receive 0 (f.bytes.set i b) = true := by
  have hzero : f.2.length.toUInt8 ≠ 0 := fun h => by
    have := Frame.toNat_len hf.2
    rw [h] at this
    exact absurd this (Nat.ne_of_lt hf.1)
  have hrest : (f.2 ++ [crcLow f.crc, crcHigh f.crc, frameEof]).length
      = f.2.length.toUInt8.toNat + 3 := by
    rw [Frame.toNat_len hf.2, List.length_append]
    rfl
  rw [Frame.bytes_eq]
  match i with
  | 0 => exact absurd rfl hsof
  | 1 => exact settles_candidate hzero hrest
  | 2 => exact absurd rfl hlen
  | k + 3 => exact settles_candidate hzero (by rw [List.length_set, hrest])

/-- A LEN that announces more than there is does not. -/
theorem not_settles_of_longer (hb : f.2.length < b.toNat) :
    settles receive 0 (f.bytes.set 2 b) = false := by
  have hzero : b ≠ 0 := fun h => by
    rw [h] at hb
    exact absurd hb (Nat.not_lt_zero _)
  have hbytes : f.bytes.set 2 b = frameSof :: f.1 :: b ::
      (f.2 ++ [crcLow f.crc, crcHigh f.crc, frameEof]) := by
    rw [Frame.bytes_eq]
    rfl
  have hshort : (f.2 ++ [crcLow f.crc, crcHigh f.crc, frameEof]).length < b.toNat + 3 := by
    simpa using hb
  refine (Bool.not_eq_true _).mp fun hs => ?_
  have hle := ((settles_cons _ _).mp (hbytes ▸ hs)).1
  rw [receive_short hzero hshort, Verdict.width] at hle
  simp only [List.length_cons] at hle
  omega

/-- **When a fault is contained.**  Every other frame of the stream is dispatched at its own place
iff the receiver is at rest where the corrupted frame ends, or that frame is the last; and then the
other frames are handed on in order. -/
theorem receiveLoop_contains (pre post : List Frame) (f : Frame) (i : ℕ) (b : UInt8)
    (opens : List Bool) (data : Vector UInt8 255) (failures n : ℕ)
    (hsent : ∀ g ∈ pre ++ f :: post, g.Sendable)
    (hn : failures + (corruptedStream pre f i b post).length ≤ n) :
    ((otherDispatches pre f post).Sublist
        (dispatches 0 (runTrace n (List.replicate failures false ++ true :: opens)
          ((corruptedStream pre f i b post).map .byte) data)) ↔ Contained f i b post) ∧
      (Contained f i b post → (pre ++ post).Sublist
        (handledFrames (runTrace n (List.replicate failures false ++ true :: opens)
          ((corruptedStream pre f i b post).map .byte) data))) := by
  have hpre : ∀ g ∈ pre, g.Sendable := fun g hg => hsent g (List.mem_append_left _ hg)
  have hpost : ∀ g ∈ post, g.Sendable := fun g hg =>
    hsent g (List.mem_append_right _ (List.mem_cons_of_mem _ hg))
  rw [handledFrames, runTrace_bytes opens data hn]
  refine ⟨⟨fun hsub => ?_, contained_sublist hpre hpost⟩, fun h => ?_⟩
  · cases post with
    | nil => exact .inl rfl
    | cons g post =>
        refine .inr ?_
        by_contra hs
        have hmem : dispatchOf ⟨(pre.flatMap Frame.bytes).length + f.bytes.length,
              g.bytes.length, g⟩
            ∈ (hits receive 0 (corruptedStream pre f i b (g :: post))).map dispatchOf :=
          hsub.subset (List.mem_append_right _ List.mem_cons_self)
        exact not_contained hpre ((Bool.not_eq_true _).mp hs) hmem
  · rw [← otherDispatches_value pre f post]
    exact (contained_sublist hpre hpost h).map Prod.snd

end Corrupted

set_option maxRecDepth 10000 in
/-- A corrupted data byte costs its own frame only. -/
theorem receiveLoop_contains_data :
    ([] ++ [((0x10 : UInt8), [(0x42 : UInt8)])]).Sublist
      (handledFrames (runTrace 14 (List.replicate 0 false ++ true :: [])
        ((corruptedStream [] (0x12, [0x41]) 3 0x00 [(0x10, [0x42])]).map .byte)
        (Vector.replicate 255 0))) :=
  (receiveLoop_contains [] [(0x10, [0x42])] (0x12, [0x41]) 3 0x00 [] (Vector.replicate 255 0) 0 14
    (by decide) (by decide)).2 (.inr (by decide))

set_option maxRecDepth 10000 in
/-- **A fault can cost a neighbour.**  With LEN read as 8 instead of 1, the candidate runs on over
the next frame, which is gone when it fails. -/
theorem receiveLoop_loses_neighbour :
    ¬ ∀ (pre post : List Frame) (f : Frame) (i : ℕ) (b : UInt8) (n : ℕ),
      (∀ g ∈ pre ++ f :: post, g.Sendable) → i < f.bytes.length → some b ≠ f.bytes[i]? →
      (corruptedStream pre f i b post).length ≤ n →
      (pre ++ post).Sublist (handledFrames (runTrace n [true]
        ((corruptedStream pre f i b post).map .byte) (Vector.replicate 255 0))) := by
  intro hcontains
  have hsub := hcontains [] [(0x10, [0x42])] (0x12, [0x41]) 2 8 14 (by decide) (by decide)
    (by decide) (by decide)
  exact absurd hsub (by decide)

end SentryNav.SerialComm
