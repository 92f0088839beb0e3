import SentryNav.Core.Stream
import SentryNav.SerialComm.SerialPort

/-!
# `receiveLoop`

The byte-wise decoder of `serial_comm_node.cpp`.  An iteration opens the port if need be and then
reads one candidate: SOF, CMD_ID, LEN, DATA, the two CRC bytes and EOF, each with its own timeout;
whatever fails sends the loop back to the top with the bytes read so far gone.

The model keeps what the code does with its locals: `len` is set to zero when a data byte does not
come and tested afterwards, so a frame without data takes the same way out, after three bytes; and
the data is read into a buffer that still holds older bytes.

**What is proved.**  `receiveFrame_takes`: one iteration does to the outcomes of the reads what one
look of the committed scanner `attempt` says, and hands on the frame that it finds, if any.
-/

namespace SentryNav.SerialComm

open Scan

/-! ## The code -/

/-- `for (uint8_t i = 0; i < len; ++i)`: read DATA, and give the value of `len` afterwards.  A
`uint8_t` counter meets the test at most 256 times; a loop that went on would not return. -/
def readData : (fuel : ℕ) → (i len : UInt8) → Rx UInt8
  | 0, _, _ => fun _ => none
  | fuel + 1, i, len =>
      if i < len then do
        match ← readByte with
        | none => pure 0
        | some b =>
            storeByte i b
            readData fuel (i + 1) len
      else pure len

/-- The last part of an iteration: the checksum of CMD_ID, LEN and DATA against the received one. -/
def checkFrame (cmdId len low high : UInt8) : Rx Unit := do
  let data ← loadBytes len
  if crc16 (cmdId :: len :: data) ≠ crcJoin low high then pure ()
  else handleFrame cmdId data

/-- What follows DATA: the CRC bytes and EOF. -/
def receiveTail (cmdId len : UInt8) : Rx Unit := do
  match ← readByte with
  | none => pure ()
  | some low =>
      match ← readByte with
      | none => pure ()
      | some high =>
          match ← readByte with
          | none => pure ()
          | some eof =>
              if eof ≠ frameEof then pure ()
              else checkFrame cmdId len low high

/-- The middle part: DATA and what follows it. -/
def receiveBody (cmdId len : UInt8) : Rx Unit := do
  let len ← readData 256 0 len
  if len = 0 then pure ()
  else receiveTail cmdId len

/-- An iteration of `receiveLoop` on an open port. -/
def receiveFrame : Rx Unit := do
  match ← readByte with
  | none => pure ()
  | some b =>
      if b ≠ frameSof then pure ()
      else
        match ← readByte with
        | none => pure ()
        | some cmdId =>
            match ← readByte with
            | none => pure ()
            | some len =>
                if frameMaxDataLen < len then pure ()
                else receiveBody cmdId len

/-- An iteration of `receiveLoop`: open the port if it is not, and read a candidate if it is. -/
def receivePass : Rx Unit := do
  if ← portIsOpen then receiveFrame
  else
    if ← portOpen then receiveFrame
    else pure ()

/-- `receiveLoop`, while `running_ && rclcpp::ok()` holds at the top for `n` more times. -/
def receiveLoop : ℕ → Link → Link
  | 0, l => l
  | n + 1, l =>
      match receivePass l with
      | none => l
      | some (_, l') => receiveLoop n l'

/-! ## One candidate -/

/-- The bytes at the front of a sequence of reads, up to the first that fails. -/
def leading : List ReadOutcome → List UInt8
  | .byte b :: rest => b :: leading rest
  | _ => []

/-- What the receiver makes of the bytes in front of it, if no read fails: anything but a SOF is
taken up alone, a header with LEN zero by itself, and any other candidate as a whole, valid or
not. -/
def candidate : List UInt8 → Verdict Frame
  | [] => ⟨none, 0⟩
  | [b] => ⟨none, if b = frameSof then 2 else 0⟩
  | [b, _] => ⟨none, if b = frameSof then 2 else 0⟩
  | b :: cmdId :: len :: rest =>
      if b ≠ frameSof then ⟨none, 0⟩
      else if len = 0 then ⟨none, 2⟩
      else ⟨(readFrame (b :: cmdId :: len :: rest)).map Prod.fst, 5 + len.toNat⟩

/-- What the receiver makes of a run of bytes behind which a read fails: a candidate, or one that
is cut off there, whose bytes and failed read it takes up too. -/
def receive (bytes : List UInt8) : Verdict Frame :=
  if (candidate bytes).width ≤ bytes.length then candidate bytes else ⟨none, bytes.length⟩

/-- What the receiver makes of the reads in front of it. -/
def attempt (outcomes : List ReadOutcome) : Verdict Frame := receive (leading outcomes)

/-- The reads do not begin with a byte. -/
def CutOff (outcomes : List ReadOutcome) : Prop := ∀ o ∈ outcomes.head?, o.byte? = none

lemma exists_leading (outcomes : List ReadOutcome) :
    ∃ tail, outcomes = (leading outcomes).map .byte ++ tail ∧ CutOff tail := by
  induction outcomes with
  | nil => exact ⟨[], rfl, by simp [CutOff]⟩
  | cons o rest ih =>
      cases o with
      | byte b =>
          obtain ⟨tail, htail, hcut⟩ := ih
          refine ⟨tail, ?_, hcut⟩
          rw [leading, List.map_cons, List.cons_append, ← htail]
      | timeout => exact ⟨_, rfl, by simp [CutOff, ReadOutcome.byte?]⟩
      | selectError => exact ⟨_, rfl, by simp [CutOff, ReadOutcome.byte?]⟩
      | readError => exact ⟨_, rfl, by simp [CutOff, ReadOutcome.byte?]⟩

/-! ## Reading, step by step -/

variable {l : Link} {k : Option UInt8 → Rx Unit}

lemma bind_readByte_byte (hopen : l.isOpen = true) {b : UInt8} {rest : List ReadOutcome}
    (hreads : l.reads = .byte b :: rest) : (readByte >>= k) l = k (some b) (l.consume 1) :=
  Rx.bind_some (readByte_byte hopen hreads)

/-- A read that is cut off: the thread waits, or is back at the top of the loop one read later. -/
lemma bind_readByte_cut (hopen : l.isOpen = true) (hcut : CutOff l.reads)
    (hk : ∀ l, k none l = some ((), l)) :
    (readByte >>= k) l = if l.reads = [] then none else some ((), l.consume 1) := by
  cases hreads : l.reads with
  | nil => rw [Rx.bind_none (readByte_nil hopen hreads), if_pos rfl]
  | cons o rest =>
      rw [Rx.bind_some (readByte_fail hopen hreads (hcut o (by rw [hreads]; rfl))), hk,
        if_neg (by simp)]

/-- The `uint8_t` counter of the data loop, while it is below LEN. -/
lemma toNat_counter {i len : UInt8} (h : i < len) : (i + 1).toNat = i.toNat + 1 := by
  have := UInt8.lt_iff_toNat_lt.mp h
  have := len.toNat_lt
  rw [UInt8.toNat_add]
  show (i.toNat + 1) % 2 ^ 8 = i.toNat + 1
  omega

lemma take_set_counter {data : List UInt8} {n : ℕ} (h : n < data.length) (b : UInt8) :
    (data.set n b).take (n + 1) = data.take n ++ [b] := by
  rw [List.take_add_one, List.take_set_of_le (Nat.le_refl n), List.getElem?_set_self h]
  rfl

/-- One turn of the data loop with a byte coming in. -/
lemma readData_byte (hopen : l.isOpen = true) {b : UInt8} {rest : List ReadOutcome}
    (hreads : l.reads = .byte b :: rest) {i len : UInt8} (hlt : i < len) (fuel : ℕ) :
    readData (fuel + 1) i len l
      = readData fuel (i + 1) len ((l.consume 1).withData (l.data.set i.toNat b)) := by
  rw [readData, if_pos hlt]
  exact Rx.bind_some (readByte_byte hopen hreads)

/-- One turn of the data loop with the read cut off. -/
lemma readData_cut (hopen : l.isOpen = true) (hcut : CutOff l.reads) {i len : UInt8}
    (hlt : i < len) (fuel : ℕ) :
    readData (fuel + 1) i len l = if l.reads = [] then none else some (0, l.consume 1) := by
  rw [readData, if_pos hlt]
  cases hreads : l.reads with
  | nil => rw [Rx.bind_none (readByte_nil hopen hreads), if_pos rfl]
  | cons o rest =>
      rw [Rx.bind_some (readByte_fail hopen hreads (hcut o (by rw [hreads]; rfl))),
        if_neg (by simp)]
      rfl

/-- **The data loop, with all the bytes it asks for.**  The buffer then holds them behind what it
held before `i`.  The induction is on the bytes, with the `uint8_t` counter running along; it never
wraps, since it stays below LEN. -/
theorem readData_enough (len : UInt8) (tail : List ReadOutcome) :
    ∀ (bytes : List UInt8) (fuel : ℕ) (i : UInt8) (l : Link), l.isOpen = true →
      l.data.length = 255 → l.reads = bytes.map .byte ++ tail → bytes.length < fuel →
      len.toNat = i.toNat + bytes.length →
      ∃ data, data.length = 255 ∧ data.take len.toNat = l.data.take i.toNat ++ bytes ∧
        readData fuel i len l = some (len, (l.consume bytes.length).withData data)
  | [], fuel + 1, i, l, _, hdata, _, _, hlen => by
      have hnot : ¬ i < len := fun h => by
        have := UInt8.lt_iff_toNat_lt.mp h
        simp only [List.length_nil] at hlen
        omega
      refine ⟨l.data, hdata, ?_, ?_⟩
      · rw [hlen, List.length_nil, Nat.add_zero, List.append_nil]
      · rw [readData, if_neg hnot, List.length_nil, Link.consume_zero]
        rfl
  | b :: bytes, fuel + 1, i, l, hopen, hdata, hreads, hfuel, hlen => by
      rw [List.length_cons] at hlen hfuel
      have hlen_lt := len.toNat_lt
      have hlt : i < len := UInt8.lt_iff_toNat_lt.mpr (by omega)
      have hsucc := toNat_counter hlt
      obtain ⟨data, hlength, htake, hrun⟩ := readData_enough len tail bytes fuel (i + 1)
        ((l.consume 1).withData (l.data.set i.toNat b)) hopen (by simp [hdata])
        (by simp [hreads]) (by omega) (by omega)
      refine ⟨data, hlength, ?_, ?_⟩
      · rw [htake, hsucc, Link.withData_data, take_set_counter (by omega), List.append_assoc,
          List.singleton_append]
      · rw [readData_byte hopen hreads hlt, hrun, Link.withData_consume, Link.consume_consume,
          Link.withData_withData, List.length_cons, Nat.add_comm 1]

/-- **The data loop, cut off.**  It waits, or gives `len` zero one read behind the last byte. -/
theorem readData_short (len : UInt8) {tail : List ReadOutcome} (hcut : CutOff tail) :
    ∀ (bytes : List UInt8) (fuel : ℕ) (i : UInt8) (l : Link), l.isOpen = true →
      l.data.length = 255 → l.reads = bytes.map .byte ++ tail → bytes.length < fuel →
      i.toNat + bytes.length < len.toNat →
      ∃ data, data.length = 255 ∧ readData fuel i len l =
        if tail = [] then none else some (0, (l.consume (bytes.length + 1)).withData data)
  | [], fuel + 1, i, l, hopen, hdata, hreads, _, hlen => by
      have hlt : i < len := UInt8.lt_iff_toNat_lt.mpr (by simpa using hlen)
      rw [List.map_nil, List.nil_append] at hreads
      exact ⟨l.data, hdata, by rw [readData_cut hopen (hreads ▸ hcut) hlt, hreads]; rfl⟩
  | b :: bytes, fuel + 1, i, l, hopen, hdata, hreads, hfuel, hlen => by
      rw [List.length_cons] at hlen hfuel
      have hlt : i < len := UInt8.lt_iff_toNat_lt.mpr (by omega)
      have hsucc := toNat_counter hlt
      obtain ⟨data, hlength, hrun⟩ := readData_short len hcut bytes fuel (i + 1)
        ((l.consume 1).withData (l.data.set i.toNat b)) hopen (by simp [hdata])
        (by simp [hreads]) (by omega) (by omega)
      refine ⟨data, hlength, ?_⟩
      rw [readData_byte hopen hreads hlt, hrun, Link.withData_consume, Link.consume_consume,
        Link.withData_withData, List.length_cons, Nat.add_comm 1]

/-! ## One iteration -/

/-- The link after a frame has been handed on, or after none has. -/
def Link.handle (l : Link) (f? : Option Frame) : Link :=
  { l with trace := l.trace ++ f?.toList.map .handled }

@[simp] lemma Link.handle_none : l.handle none = l := by
  simp only [Link.handle, Option.toList_none, List.map_nil, List.append_nil]

/-- What a computation does to the link: it takes up `n` reads, which it may have to wait for, and
hands on a frame or none; the buffer may hold anything afterwards. -/
def Takes (x : Rx Unit) (l : Link) (n : ℕ) (f? : Option Frame) : Prop :=
  ∃ data, data.length = 255 ∧
    x l = if l.reads.length < n then none
      else some ((), ((l.consume n).withData data).handle f?)

lemma consume_reads_cons {o : ReadOutcome} {rest : List ReadOutcome} (h : l.reads = o :: rest) :
    (l.consume 1).reads = rest := by
  rw [Link.consume_reads, h, List.drop_one, List.tail_cons]

lemma takes_pure (hdata : l.data.length = 255) : Takes (pure ()) l 0 none := by
  refine ⟨l.data, hdata, ?_⟩
  rw [if_neg (Nat.not_lt_zero _), Link.consume_zero, Link.withData_self, Link.handle_none,
    Rx.pure_apply]

lemma takes_byte {b : UInt8} {rest : List ReadOutcome} (hreads : l.reads = .byte b :: rest)
    (hopen : l.isOpen = true) {n : ℕ} {f? : Option Frame}
    (h : Takes (k (some b)) (l.consume 1) n f?) : Takes (readByte >>= k) l (n + 1) f? := by
  obtain ⟨data, hlength, hrun⟩ := h
  refine ⟨data, hlength, ?_⟩
  rw [bind_readByte_byte hopen hreads, hrun, Link.consume_consume, Link.consume_reads, hreads,
    List.drop_one, List.tail_cons, List.length_cons, Nat.add_comm 1]
  simp only [Nat.add_lt_add_iff_right]

lemma takes_cut (hcut : CutOff l.reads) (hopen : l.isOpen = true) (hdata : l.data.length = 255)
    (hk : ∀ l, k none l = some ((), l)) : Takes (readByte >>= k) l 1 none := by
  refine ⟨l.data, hdata, ?_⟩
  rw [bind_readByte_cut hopen hcut hk]
  simp only [Nat.lt_one_iff, List.length_eq_zero_iff, Link.handle_none]
  rfl

lemma takes_data_enough (hopen : l.isOpen = true) (hdata : l.data.length = 255) {len : UInt8}
    {bytes : List UInt8} {tail : List ReadOutcome} (hreads : l.reads = bytes.map .byte ++ tail)
    (hlen : bytes.length = len.toNat) {k : UInt8 → Rx Unit} {n : ℕ} {f? : Option Frame}
    (h : ∀ data, data.length = 255 → data.take len.toNat = bytes →
      Takes (k len) ((l.consume bytes.length).withData data) n f?) :
    Takes (readData 256 0 len >>= k) l (n + bytes.length) f? := by
  have hlt := len.toNat_lt
  obtain ⟨data, hlength, htake, hrun⟩ := readData_enough len tail bytes 256 0 l hopen hdata hreads
    (by omega) (by rw [hlen]; exact (Nat.zero_add _).symm)
  obtain ⟨data', hlength', hrun'⟩ := h data hlength (by simpa using htake)
  refine ⟨data', hlength', ?_⟩
  rw [Rx.bind_some hrun, hrun', Link.withData_consume, Link.withData_withData,
    Link.consume_consume, Link.withData_reads, Link.consume_reads, hreads, Nat.add_comm n]
  have hdrop : (bytes.map ReadOutcome.byte ++ tail).drop bytes.length = tail := by
    rw [List.drop_append_of_le_length (by simp), List.drop_of_length_le (by simp),
      List.nil_append]
  rw [hdrop, List.length_append, List.length_map]
  simp only [Nat.add_lt_add_iff_left]

lemma takes_data_short (hopen : l.isOpen = true) (hdata : l.data.length = 255) {len : UInt8}
    {bytes : List UInt8} {tail : List ReadOutcome} (hreads : l.reads = bytes.map .byte ++ tail)
    (hcut : CutOff tail) (hlen : bytes.length < len.toNat) {k : UInt8 → Rx Unit}
    (hk : ∀ l, k 0 l = some ((), l)) :
    Takes (readData 256 0 len >>= k) l (bytes.length + 1) none := by
  have hlt := len.toNat_lt
  obtain ⟨data, hlength, hrun⟩ := readData_short len hcut bytes 256 0 l hopen hdata hreads
    (by omega) (by simpa using hlen)
  refine ⟨data, hlength, ?_⟩
  have hwait : l.reads.length < bytes.length + 1 ↔ tail = [] := by
    rw [hreads, List.length_append, List.length_map, ← List.length_eq_zero_iff]
    omega
  simp only [hwait]
  split
  · next h => rw [if_pos h] at hrun; exact Rx.bind_none hrun
  · next h =>
      rw [if_neg h] at hrun
      rw [Rx.bind_some hrun, hk, Link.handle_none]

lemma candidate_of_ne {b : UInt8} (h : b ≠ frameSof) (bytes : List UInt8) :
    candidate (b :: bytes) = ⟨none, 0⟩ := by
  match bytes with
  | [] | [_] | _ :: _ :: _ => simp only [candidate, h, if_false, ne_eq, not_false_eq_true, if_true]

lemma receive_of_ne {b : UInt8} (h : b ≠ frameSof) (bytes : List UInt8) :
    receive (b :: bytes) = ⟨none, 0⟩ := by
  rw [receive, candidate_of_ne h, if_pos (by simp [Verdict.width])]

lemma receive_zero (cmdId : UInt8) (rest : List UInt8) :
    receive (frameSof :: cmdId :: 0 :: rest) = ⟨none, 2⟩ := by
  have hcand : candidate (frameSof :: cmdId :: 0 :: rest) = ⟨none, 2⟩ := rfl
  rw [receive, hcand, if_pos (by simp [Verdict.width])]

lemma candidate_width (cmdId : UInt8) {len : UInt8} (h : len ≠ 0) (rest : List UInt8) :
    (candidate (frameSof :: cmdId :: len :: rest)).width = frameOverhead + len.toNat := by
  simp only [candidate, ne_eq, not_true_eq_false, if_false, h, Verdict.width, frameOverhead]
  omega

/-- A candidate that announces more than there is. -/
lemma receive_short {cmdId len : UInt8} (h : len ≠ 0) {rest : List UInt8}
    (hshort : rest.length < len.toNat + 3) :
    receive (frameSof :: cmdId :: len :: rest) = ⟨none, rest.length + 3⟩ := by
  rw [receive, candidate_width _ h, if_neg (by simp only [List.length_cons, frameOverhead]; omega)]
  rfl

/-- A complete candidate. -/
lemma receive_complete (cmdId : UInt8) {len : UInt8} (h : len ≠ 0) {data : List UInt8}
    (hdata : data.length = len.toNat) (low high eof : UInt8) (tail : List UInt8) :
    (receive (frameSof :: cmdId :: len :: (data ++ low :: high :: eof :: tail))).width
        = 3 + (3 + data.length) ∧
      (receive (frameSof :: cmdId :: len :: (data ++ low :: high :: eof :: tail))).value
        = if crc16 (cmdId :: len :: data) = crcJoin low high ∧ eof = frameEof
          then some (cmdId, data) else none := by
  have hfull : (candidate (frameSof :: cmdId :: len :: (data ++ low :: high :: eof :: tail))).width
      ≤ (frameSof :: cmdId :: len :: (data ++ low :: high :: eof :: tail)).length := by
    rw [candidate_width _ h]
    simp only [List.length_cons, List.length_append, frameOverhead]
    omega
  rw [receive, if_pos hfull, candidate_width _ h, hdata, frameOverhead]
  refine ⟨by omega, ?_⟩
  simp only [candidate, ne_eq, not_true_eq_false, if_false, h,
    readFrame_candidate hdata cmdId low high eof tail]
  split <;> rfl

/-- The last part of an iteration. -/
lemma checkFrame_takes (hdata : l.data.length = 255) {len : UInt8} {data : List UInt8}
    (hload : l.data.take len.toNat = data) (cmdId low high : UInt8) :
    Takes (checkFrame cmdId len low high) l 0
      (if crc16 (cmdId :: len :: data) = crcJoin low high then some (cmdId, data) else none) := by
  have hbind : checkFrame cmdId len low high l
      = (if crc16 (cmdId :: len :: data) ≠ crcJoin low high then pure ()
          else handleFrame cmdId data : Rx Unit) l := by
    subst hload
    exact Rx.bind_some (k := fun data => if crc16 (cmdId :: len :: data) ≠ crcJoin low high
      then pure () else handleFrame cmdId data) rfl
  refine ⟨l.data, hdata, ?_⟩
  rw [hbind, if_neg (Nat.not_lt_zero _), Link.consume_zero, Link.withData_self]
  by_cases hok : crc16 (cmdId :: len :: data) = crcJoin low high
  · rw [if_neg (not_not.mpr hok), if_pos hok]
    rfl
  · rw [if_pos hok, if_neg hok, Link.handle_none]
    rfl

/-- Behind a header the receiver takes up that and what there is of the data. -/
lemma le_receive_width {len : UInt8} {data : List UInt8} (hdata : data.length ≤ len.toNat)
    (cmdId : UInt8) (more : List UInt8) :
    3 + data.length ≤ (receive (frameSof :: cmdId :: len :: (data ++ more))).width := by
  by_cases hlen : len = 0
  · subst hlen
    rw [receive_zero, List.length_eq_zero_iff.mp (Nat.le_zero.mp hdata)]
    exact Nat.le_refl 3
  · rw [receive]
    split
    · rw [candidate_width _ hlen, frameOverhead]
      omega
    · simp only [Verdict.width, List.length_cons, List.length_append]
      omega

/-- The end of an iteration, behind the data: the CRC bytes and EOF, as far as they come. -/
lemma receiveTail_takes (hopen : l.isOpen = true) (hdata : l.data.length = 255)
    {len : UInt8} {data : List UInt8} (hload : l.data.take len.toNat = data) (hlen : len ≠ 0)
    (cmdId : UInt8) {more : List UInt8} {tail : List ReadOutcome}
    (hreads : l.reads = more.map .byte ++ tail) (hcut : CutOff tail) {n : ℕ}
    (hn : (receive (frameSof :: cmdId :: len :: (data ++ more))).width = 3 + (n + data.length)) :
    Takes (receiveTail cmdId len) l n
      (receive (frameSof :: cmdId :: len :: (data ++ more))).value := by
  have hlength : data.length = len.toNat := by
    have := len.toNat_lt
    rw [← hload, List.length_take, hdata]
    omega
  -- as long as EOF is missing, the candidate takes up all the bytes and the failed read
  have hmissing : more.length < 3 → n = more.length + 1 ∧
      (receive (frameSof :: cmdId :: len :: (data ++ more))).value = none := by
    intro hmore
    have hshort : (data ++ more).length < len.toNat + 3 := by rw [List.length_append]; omega
    rw [receive_short hlen hshort] at hn ⊢
    rw [List.length_append, Verdict.width] at hn
    exact ⟨by dsimp only at hn; omega, rfl⟩
  rcases more with _ | ⟨low, _ | ⟨high, _ | ⟨eof, more⟩⟩⟩
  · obtain ⟨rfl, hvalue⟩ := hmissing (by simp)
    rw [hvalue]
    exact takes_cut (hreads ▸ hcut) hopen hdata fun _ => rfl
  · obtain ⟨rfl, hvalue⟩ := hmissing (by simp)
    rw [hvalue]
    exact takes_byte hreads hopen
      (takes_cut (consume_reads_cons hreads ▸ hcut) hopen hdata fun _ => rfl)
  · obtain ⟨rfl, hvalue⟩ := hmissing (by simp)
    rw [hvalue]
    have hreads' := consume_reads_cons hreads
    exact takes_byte hreads hopen (takes_byte hreads' hopen
      (takes_cut (consume_reads_cons hreads' ▸ hcut) hopen hdata fun _ => rfl))
  · obtain ⟨hwidth, hvalue⟩ := receive_complete cmdId hlen hlength low high eof more
    obtain rfl : n = 3 := by omega
    rw [hvalue]
    have hreads' := consume_reads_cons hreads
    refine takes_byte hreads hopen (takes_byte hreads' hopen
      (takes_byte (consume_reads_cons hreads') hopen ?_))
    by_cases heof : eof = frameEof
    · simp only [heof, ne_eq, not_true_eq_false, if_false, and_true]
      exact checkFrame_takes (l := ((l.consume 1).consume 1).consume 1) hdata hload cmdId low high
    · simp only [heof, ne_eq, not_false_eq_true, if_true, and_false, if_false]
      exact takes_pure hdata

/-- The middle part of an iteration, from the data on. -/
lemma receiveBody_takes (hopen : l.isOpen = true) (hdata : l.data.length = 255)
    (cmdId len : UInt8) {rest : List UInt8} {tail : List ReadOutcome}
    (hreads : l.reads = rest.map .byte ++ tail) (hcut : CutOff tail) {n : ℕ}
    (hn : (receive (frameSof :: cmdId :: len :: rest)).width = 3 + n) :
    Takes (receiveBody cmdId len) l n (receive (frameSof :: cmdId :: len :: rest)).value := by
  by_cases hlen : len = 0
  · subst hlen
    rw [receive_zero] at hn ⊢
    obtain rfl : n = 0 := by rw [Verdict.width] at hn; dsimp only at hn; omega
    have hnone : l.reads = ([] : List UInt8).map .byte ++ l.reads := rfl
    refine takes_data_enough hopen hdata hnone rfl fun data hlength _ => ?_
    exact takes_pure hlength
  · by_cases hshort : rest.length < len.toNat
    · rw [receive_short hlen (by omega)] at hn ⊢
      obtain rfl : n = rest.length + 1 := by rw [Verdict.width] at hn; dsimp only at hn; omega
      exact takes_data_short hopen hdata hreads hcut hshort fun _ => rfl
    · obtain ⟨data, more, rfl, hlength⟩ : ∃ data more, rest = data ++ more ∧
          data.length = len.toNat :=
        ⟨_, _, (List.take_append_drop len.toNat rest).symm, List.length_take_of_le (by omega)⟩
      rw [List.map_append, List.append_assoc] at hreads
      have hmore : l.reads.drop data.length = more.map .byte ++ tail := by
        rw [hreads, List.drop_append_of_le_length (by simp), List.drop_of_length_le (by simp),
          List.nil_append]
      have hle := le_receive_width (Nat.le_of_eq hlength) cmdId more
      obtain ⟨m, rfl⟩ : ∃ m, n = m + data.length := ⟨n - data.length, by omega⟩
      refine takes_data_enough hopen hdata hreads hlength fun buffer hbuffer hload => ?_
      simp only [hlen, if_false]
      exact receiveTail_takes (l := (l.consume data.length).withData buffer) hopen hbuffer hload
        hlen cmdId hmore hcut (by omega)

/-- **One iteration**, on an open port: it takes up what the receiver makes of the reads in front
of it and hands on the frame found there. -/
theorem receiveFrame_takes (hopen : l.isOpen = true) (hdata : l.data.length = 255) :
    Takes receiveFrame l (attempt l.reads).width (attempt l.reads).value := by
  obtain ⟨tail, hreads, hcut⟩ := exists_leading l.reads
  rw [attempt]
  generalize leading l.reads = bytes at hreads ⊢
  match bytes, hreads with
  | [], hreads => exact takes_cut (hreads ▸ hcut) hopen hdata fun _ => rfl
  | b :: bytes, hreads =>
      by_cases hb : b = frameSof
      · subst hb
        have hreads' := consume_reads_cons hreads
        match bytes, hreads' with
        | [], hreads' =>
            refine takes_byte hreads hopen ?_
            exact takes_cut (hreads' ▸ hcut) hopen hdata fun _ => rfl
        | [cmdId], hreads' =>
            refine takes_byte hreads hopen (takes_byte hreads' hopen ?_)
            exact takes_cut (consume_reads_cons hreads' ▸ hcut) hopen hdata fun _ => rfl
        | cmdId :: len :: rest, hreads' =>
            have hreads'' := consume_reads_cons hreads'
            have hhead : 3 + ([] : List UInt8).length
                ≤ (receive (frameSof :: cmdId :: len :: rest)).width :=
              le_receive_width (Nat.zero_le _) cmdId rest
            obtain ⟨n, hn⟩ := Nat.exists_eq_add_of_le hhead
            rw [List.length_nil, Nat.add_zero] at hn
            rw [hn, Nat.add_comm 3]
            refine takes_byte hreads hopen (takes_byte hreads' hopen (takes_byte hreads'' hopen ?_))
            simp only [not_frameMaxDataLen_lt, if_false]
            exact receiveBody_takes (l := ((l.consume 1).consume 1).consume 1) hopen hdata cmdId len
              (consume_reads_cons hreads'') hcut hn
      · rw [receive_of_ne hb]
        refine takes_byte hreads hopen ?_
        simp only [ne_eq, hb, not_false_eq_true, if_true]
        exact takes_pure hdata

end SentryNav.SerialComm
