import SentryNav.SerialComm.ReceiveLoop

/-!
# Whole runs of `receiveLoop`

What the receive thread hands on, and where in the received bytes it does so, is read off the
trace (`dispatches`).  The loop keeps one invariant, `ReceiveInv`: what has been dispatched,
together with what the committed scanner `attempt` finds in the reads still to come, is what it
finds in all the reads.  A run that lasts long enough therefore dispatches exactly that
(`receiveLoop_complete`), and any run a part of it (`receiveLoop_inv`).
-/

namespace SentryNav.SerialComm

open Scan

/-! ## What a trace says -/

/-- The outcomes of the reads in a trace. -/
def readsOf : List PortEvent → List ReadOutcome
  | [] => []
  | .read o :: trace => o :: readsOf trace
  | .opened _ :: trace => readsOf trace
  | .handled _ :: trace => readsOf trace

/-- The frames handed on, each with the number of bytes received by then, counted from `n`. -/
def dispatches : (n : ℕ) → List PortEvent → List (ℕ × Frame)
  | _, [] => []
  | n, .read o :: trace => dispatches (n + (received [o]).length) trace
  | n, .opened _ :: trace => dispatches n trace
  | n, .handled f :: trace => (n, f) :: dispatches n trace

/-- The frames handed on. -/
def handledFrames (trace : List PortEvent) : List Frame := (dispatches 0 trace).map Prod.snd

lemma received_append (xs ys : List ReadOutcome) :
    received (xs ++ ys) = received xs ++ received ys := List.filterMap_append

lemma received_map (bytes : List UInt8) : received (bytes.map .byte) = bytes := by
  rw [received, List.filterMap_map]
  exact List.filterMap_some

lemma readsOf_append : ∀ xs ys : List PortEvent, readsOf (xs ++ ys) = readsOf xs ++ readsOf ys
  | [], _ => rfl
  | .read o :: xs, ys => congrArg (o :: ·) (readsOf_append xs ys)
  | .opened _ :: xs, ys | .handled _ :: xs, ys => readsOf_append xs ys

lemma readsOf_map : ∀ outcomes : List ReadOutcome, readsOf (outcomes.map .read) = outcomes
  | [] => rfl
  | o :: outcomes => congrArg (o :: ·) (readsOf_map outcomes)

/-- Counting received bytes read by read. -/
lemma add_received_cons (n : ℕ) (o : ReadOutcome) (outcomes : List ReadOutcome) :
    n + (received (o :: outcomes)).length
      = n + (received [o]).length + (received outcomes).length := by
  rw [Nat.add_assoc, ← List.length_append, ← received_append, List.singleton_append]

lemma dispatches_append : ∀ (n : ℕ) (xs ys : List PortEvent),
    dispatches n (xs ++ ys)
      = dispatches n xs ++ dispatches (n + (received (readsOf xs)).length) ys
  | _, [], _ => rfl
  | n, .read o :: xs, ys => by
      rw [List.cons_append, dispatches, dispatches_append, dispatches, readsOf,
        add_received_cons n o (readsOf xs)]
  | n, .opened _ :: xs, ys => dispatches_append n xs ys
  | n, .handled f :: xs, ys => congrArg ((n, f) :: ·) (dispatches_append n xs ys)

lemma dispatches_reads : ∀ (n : ℕ) (outcomes : List ReadOutcome),
    dispatches n (outcomes.map .read) = []
  | _, [] => rfl
  | n, o :: outcomes => dispatches_reads (n + (received [o]).length) outcomes

lemma dispatches_handled (n : ℕ) : ∀ f? : Option Frame,
    dispatches n (f?.toList.map .handled) = f?.toList.map fun f => (n, f)
  | none => rfl
  | some _ => rfl

lemma readsOf_handled : ∀ f? : Option Frame, readsOf (f?.toList.map .handled) = []
  | none => rfl
  | some _ => rfl

/-- A frame is handed on after bytes that have been received. -/
lemma dispatch_le {n : ℕ} {trace : List PortEvent} :
    ∀ d ∈ dispatches n trace, d.1 ≤ n + (received (readsOf trace)).length := by
  induction trace generalizing n with
  | nil => exact fun d hd => absurd hd (List.not_mem_nil)
  | cons event trace ih =>
      intro d hd
      cases event with
      | read o =>
          rw [readsOf, add_received_cons]
          exact ih d hd
      | opened _ => exact ih d hd
      | handled f =>
          rcases List.mem_cons.mp hd with rfl | hd
          · exact Nat.le_add_right _ _
          · exact ih d hd

/-! ## What the receiver finds -/

lemma leading_append (bytes : List UInt8) (outcomes : List ReadOutcome) :
    leading (bytes.map .byte ++ outcomes) = bytes ++ leading outcomes := by
  induction bytes with
  | nil => rfl
  | cons b bytes ih => rw [List.map_cons, List.cons_append, leading, ih, List.cons_append]

lemma exists_of_leading_prefix {bytes : List UInt8} {outcomes : List ReadOutcome}
    (h : bytes <+: leading outcomes) : ∃ tail, outcomes = bytes.map .byte ++ tail := by
  obtain ⟨tail, htail, _⟩ := exists_leading outcomes
  obtain ⟨more, hmore⟩ := h
  exact ⟨more.map .byte ++ tail, by rw [← List.append_assoc, ← List.map_append, hmore, ← htail]⟩

lemma receive_complete_sound {cmdId len : UInt8} (hlen : len ≠ 0) {data : List UInt8}
    (hdata : data.length = len.toNat) {low high eof : UInt8} {tail : List UInt8} {f : Frame}
    (h : (receive (frameSof :: cmdId :: len :: (data ++ low :: high :: eof :: tail))).value
      = some f) :
    0 < f.2.length ∧
      readFrame (frameSof :: cmdId :: len :: (data ++ low :: high :: eof :: tail))
        = some (f, (receive (frameSof :: cmdId :: len ::
            (data ++ low :: high :: eof :: tail))).width) := by
  obtain ⟨hwidth, hvalue⟩ := receive_complete cmdId hlen hdata low high eof tail
  rw [hvalue] at h
  rw [hwidth, readFrame_candidate hdata, frameOverhead]
  split at h
  · next hok =>
      obtain rfl := Option.some.inj h
      refine ⟨?_, ?_⟩
      · show 0 < data.length
        rw [hdata]
        exact Nat.pos_of_ne_zero fun hzero => hlen (UInt8.toNat_inj.mp hzero)
      · rw [if_pos hok]
        congr 2
        omega
  · exact absurd h (by simp)

/-- A value the receiver reports is a frame with data, read where the receiver looked. -/
lemma receive_sound {bytes : List UInt8} {f : Frame} (h : (receive bytes).value = some f) :
    0 < f.2.length ∧ readFrame bytes = some (f, (receive bytes).width) := by
  rcases bytes with _ | ⟨b, bytes⟩
  · exact absurd h (by simp [receive, candidate, Verdict.width])
  · by_cases hb : b = frameSof
    · subst hb
      rcases bytes with _ | ⟨cmdId, _ | ⟨len, rest⟩⟩
      · exact absurd h (by simp [receive, candidate, Verdict.width])
      · exact absurd h (by simp [receive, candidate, Verdict.width])
      · by_cases hlen : len = 0
        · subst hlen
          exact absurd h (by simp [receive_zero])
        · by_cases hshort : rest.length < len.toNat + 3
          · exact absurd h (by simp [receive_short hlen hshort])
          · obtain ⟨data, low, high, eof, tail, rfl, hdata⟩ :=
              exists_candidate (not_lt.mp hshort)
            exact receive_complete_sound hlen hdata h
    · exact absurd h (by simp [receive_of_ne hb])

/-- A frame with data is reported where it is. -/
lemma receive_bytes {f : Frame} (hfits : f.Fits) (hpos : 0 < f.2.length) (more : List UInt8) :
    (receive (f.bytes ++ more)).value = some f ∧
      (receive (f.bytes ++ more)).width = f.bytes.length := by
  have hdata : f.2.length = f.2.length.toUInt8.toNat := (Frame.toNat_len hfits).symm
  have hlen : f.2.length.toUInt8 ≠ 0 := fun hzero => by
    rw [hzero] at hdata
    exact absurd hdata (Nat.ne_of_gt hpos)
  obtain ⟨hwidth, hvalue⟩ := receive_complete f.1 hlen hdata (crcLow f.crc)
    (crcHigh f.crc) frameEof more
  have hbytes : f.bytes ++ more = frameSof :: f.1 :: f.2.length.toUInt8 ::
      (f.2 ++ crcLow f.crc :: crcHigh f.crc :: frameEof :: more) := by
    rw [Frame.bytes_eq]
    simp
  rw [hbytes, hvalue, hwidth, Frame.length_bytes, frameOverhead]
  exact ⟨if_pos ⟨((crcJoin_eq_iff _ _ _).mpr ⟨rfl, rfl⟩).symm, rfl⟩, by omega⟩

/-- What the receiver reports of the reads is a frame with data, all of it received. -/
lemma attempt_sound {outcomes : List ReadOutcome} {f : Frame}
    (h : (attempt outcomes).value = some f) :
    f.Fits ∧ 0 < f.2.length ∧ (attempt outcomes).width = f.bytes.length ∧
      ∃ tail, outcomes = f.bytes.map .byte ++ tail := by
  obtain ⟨hpos, hread⟩ := receive_sound h
  obtain ⟨hpre, hfits, hwidth⟩ := readFrame_iff.mp hread
  exact ⟨hfits, hpos, hwidth, exists_of_leading_prefix hpre⟩

/-! ## The invariant -/

/-- Where a value found among the reads is handed on, in terms of the bytes received. -/
def located (reads : List ReadOutcome) (h : Hit Frame) : ℕ × Frame :=
  ((received (reads.take h.stop)).length, h.value)

/-- All that a run over these reads can dispatch, in terms of the scanner. -/
def dispatchable (reads : List ReadOutcome) : List (ℕ × Frame) :=
  (hits attempt 0 reads).map (located reads)

/-- What a run over `reads` has not come to after `p` of them. -/
def ahead (reads : List ReadOutcome) (p : ℕ) : List (ℕ × Frame) :=
  (hits attempt p (reads.drop p)).map (located reads)

/-- The invariant of a run over `reads`: some of them have ended, the trace says so, and what has
been dispatched together with what lies ahead is all there is. -/
structure ReceiveInv (reads : List ReadOutcome) (l : Link) : Prop where
  data : l.data.length = 255
  split : ∃ p, l.reads = reads.drop p ∧ readsOf l.trace = reads.take p ∧
    dispatches 0 l.trace ++ ahead reads p = dispatchable reads

/-- The link of a thread that has just been started. -/
def Link.start (opens : List Bool) (reads : List ReadOutcome) (data : Vector UInt8 255) : Link where
  opens := opens
  reads := reads
  isOpen := false
  data := data.toList
  trace := []

variable {reads : List ReadOutcome} {l l' : Link}

lemma receiveInv_start (opens : List Bool) (reads : List ReadOutcome) (data : Vector UInt8 255) :
    ReceiveInv reads (Link.start opens reads data) where
  data := by simp [Link.start]
  split := ⟨0, rfl, rfl, rfl⟩

/-- The link after a call of `open`. -/
def Link.reopened (l : Link) (ok : Bool) (rest : List Bool) : Link :=
  { l with opens := rest, isOpen := ok, trace := l.trace ++ [.opened ok] }

lemma ReceiveInv.reopened (h : ReceiveInv reads l) (ok : Bool) (rest : List Bool) :
    ReceiveInv reads (l.reopened ok rest) where
  data := h.data
  split := by
    obtain ⟨p, hreads, hread, hall⟩ := h.split
    refine ⟨p, hreads, ?_, ?_⟩
    · rw [Link.reopened, readsOf_append, hread, readsOf, readsOf, List.append_nil]
    · rw [Link.reopened, dispatches_append, dispatches, dispatches, List.append_nil, hall]

/-! ### One iteration -/

/-- Taking up a candidate moves what it stands for from what lies ahead to what is dispatched. -/
lemma ahead_step {p : ℕ} (hfull : (attempt (reads.drop p)).width ≤ (reads.drop p).length) :
    ahead reads p
      = (attempt (reads.drop p)).value.toList.map
          (fun f => ((received (reads.take (p + (attempt (reads.drop p)).width))).length, f))
        ++ ahead reads (p + (attempt (reads.drop p)).width) := by
  cases hxs : reads.drop p with
  | nil =>
      rw [hxs, List.length_nil, Verdict.width] at hfull
      exact absurd hfull (Nat.not_succ_le_zero _)
  | cons x xs =>
      rw [ahead, ahead, ← List.drop_drop, hxs]
      cases hv : (attempt (x :: xs)).value with
      | none =>
          rw [hits_of_none hv]
          rfl
      | some f =>
          rw [hits_of_some hv]
          rfl

/-- The thread waits only where there is nothing left to dispatch. -/
lemma ahead_of_waits {p : ℕ} (h : (reads.drop p).length < (attempt (reads.drop p)).width) :
    ahead reads p = [] := by
  cases hxs : reads.drop p with
  | nil => rw [ahead, hxs, hits_nil, List.map_nil]
  | cons x xs =>
      rw [hxs] at h
      have hnone : (attempt (x :: xs)).value = none := by
        refine Option.eq_none_iff_forall_ne_some.mpr fun f hv => ?_
        obtain ⟨_, _, hwidth, tail, htail⟩ := attempt_sound hv
        rw [hwidth, htail, List.length_append, List.length_map] at h
        omega
      rw [ahead, hxs, hits_of_none hnone, List.drop_of_length_le (Nat.le_of_lt h), hits_nil,
        List.map_nil]

/-- **One iteration keeps the invariant**, on an open port, and some reads have ended. -/
lemma ReceiveInv.receiveFrame (h : ReceiveInv reads l) (hopen : l.isOpen = true)
    (hrun : receiveFrame l = some ((), l')) :
    ReceiveInv reads l' ∧ l'.isOpen = true ∧ l'.reads.length < l.reads.length := by
  obtain ⟨p, hreads, hread, hall⟩ := h.split
  obtain ⟨data, hdata, htakes⟩ := receiveFrame_takes hopen h.data
  rw [hrun, hreads] at htakes
  split at htakes
  · exact absurd htakes (by simp)
  · next hfull =>
      obtain rfl := congrArg Prod.snd (Option.some.inj htakes)
      replace hfull := not_lt.mp hfull
      set w := (attempt (reads.drop p)).width with hw
      have hpos : 0 < w := Nat.succ_pos _
      have htrace : (((l.consume w).withData data).handle (attempt (reads.drop p)).value).trace
          = l.trace ++ ((reads.drop p).take w).map .read
            ++ (attempt (reads.drop p)).value.toList.map .handled := by
        rw [← hreads]
        rfl
      have hreads' : (((l.consume w).withData data).handle
          (attempt (reads.drop p)).value).reads = reads.drop (p + w) := by
        show l.reads.drop w = _
        rw [hreads, List.drop_drop]
      have hread' : readsOf (l.trace ++ ((reads.drop p).take w).map .read)
          = reads.take (p + w) := by
        rw [readsOf_append, readsOf_map, hread, List.take_add]
      refine ⟨⟨hdata, p + w, hreads', ?_, ?_⟩, hopen, ?_⟩
      · rw [htrace, readsOf_append, readsOf_handled, List.append_nil, hread']
      · rw [htrace, dispatches_append, hread', dispatches_append, dispatches_reads,
          dispatches_handled, List.append_nil, Nat.zero_add, List.append_assoc,
          ← ahead_step hfull, hall]
      · rw [hreads', hreads, ← List.drop_drop, List.length_drop]
        omega

lemma portIsOpen_eq {ok : Bool} (h : l.isOpen = ok) : portIsOpen l = some (ok, l) := by
  rw [portIsOpen, h]

lemma portOpen_cons {ok : Bool} {rest : List Bool} (h : l.opens = ok :: rest) :
    portOpen l = some (ok, l.reopened ok rest) := by
  rw [portOpen, h]
  rfl

lemma portOpen_nil (h : l.opens = []) : portOpen l = none := by
  rw [portOpen, h]

/-- The link an iteration reads on: the port is open, or is opened now. -/
def ReadsOn (l m : Link) : Prop :=
  (l.isOpen = true ∧ m = l) ∨
    (l.isOpen = false ∧ ∃ rest, l.opens = true :: rest ∧ m = l.reopened true rest)

lemma ReadsOn.receivePass {m : Link} (h : ReadsOn l m) : receivePass l = receiveFrame m := by
  rcases h with ⟨hopen, rfl⟩ | ⟨hclosed, rest, hopens, rfl⟩
  · rw [SerialComm.receivePass, Rx.bind_some (portIsOpen_eq hopen)]
    rfl
  · rw [SerialComm.receivePass, Rx.bind_some (portIsOpen_eq hclosed)]
    exact Rx.bind_some (portOpen_cons hopens)

lemma ReadsOn.inv {m : Link} (h : ReadsOn l m) (hinv : ReceiveInv reads l) :
    ReceiveInv reads m ∧ m.isOpen = true ∧ m.reads = l.reads := by
  rcases h with ⟨hopen, rfl⟩ | ⟨_, rest, _, rfl⟩
  · exact ⟨hinv, hopen, rfl⟩
  · exact ⟨hinv.reopened true rest, rfl, rfl⟩

/-- What an iteration can begin with. -/
inductive Begins (l : Link) : Prop
  /-- It reads. -/
  | reads (m : Link) (h : ReadsOn l m)
  /-- The port does not open; the loop goes round. -/
  | refused (rest : List Bool) (hclosed : l.isOpen = false) (hopens : l.opens = false :: rest)
    (h : SerialComm.receivePass l = some ((), l.reopened false rest))
  /-- It waits for the port to open. -/
  | waits (hclosed : l.isOpen = false) (hopens : l.opens = []) (h : SerialComm.receivePass l = none)

lemma begins (l : Link) : Begins l := by
  cases hopen : l.isOpen with
  | true => exact .reads l (.inl ⟨hopen, rfl⟩)
  | false =>
      have hpass {x : Option (Unit × Link)}
          (h : (portOpen >>= fun ok => if ok = true then SerialComm.receiveFrame else pure ()) l
            = x) : receivePass l = x := by
        rw [receivePass, Rx.bind_some (portIsOpen_eq hopen)]
        exact h
      match hopens : l.opens with
      | [] => exact .waits hopen hopens (hpass (Rx.bind_none (portOpen_nil hopens)))
      | true :: rest => exact .reads _ (.inr ⟨hopen, rest, hopens, rfl⟩)
      | false :: rest =>
          exact .refused rest hopen hopens (hpass (Rx.bind_some (portOpen_cons hopens)))

/-! ### Runs -/

/-- **A run keeps the invariant.** -/
theorem receiveLoop_inv (n : ℕ) (h : ReceiveInv reads l) : ReceiveInv reads (receiveLoop n l) := by
  induction n generalizing l with
  | zero => exact h
  | succ n ih =>
      rw [receiveLoop]
      cases hpass : receivePass l with
      | none => exact h
      | some r =>
          refine ih ?_
          cases begins l with
          | reads m hm =>
              obtain ⟨hinv, hopen, _⟩ := hm.inv h
              rw [hm.receivePass] at hpass
              exact (hinv.receiveFrame hopen hpass).1
          | refused rest _ _ hrefused =>
              rw [hrefused] at hpass
              obtain rfl := Option.some.inj hpass
              exact h.reopened false rest
          | waits _ _ hwaits => exact absurd (hwaits ▸ hpass) (by simp)

/-- The port is open, or opens after at most `k` failures. -/
def OpensWithin (k : ℕ) (l : Link) : Prop :=
  l.isOpen = true ∨ ∃ j ≤ k, ∃ rest, l.opens = List.replicate j false ++ true :: rest

lemma ReceiveInv.done (h : ReceiveInv reads l)
    (hahead : ∀ p, l.reads = reads.drop p → ahead reads p = []) :
    dispatches 0 l.trace = dispatchable reads := by
  obtain ⟨p, hreads, _, hall⟩ := h.split
  rw [← hall, hahead p hreads, List.append_nil]

lemma ahead_of_receiveFrame_none (hopen : l.isOpen = true) (hdata : l.data.length = 255)
    (hrun : receiveFrame l = none) {p : ℕ} (hreads : l.reads = reads.drop p) :
    ahead reads p = [] := by
  obtain ⟨data, _, htakes⟩ := receiveFrame_takes hopen hdata
  rw [hrun, hreads] at htakes
  split at htakes
  · next hwaits => exact ahead_of_waits hwaits
  · exact absurd htakes (by simp)

/-- **A long run dispatches all there is.**  The iterations needed are the failures to open, and
one for each read at the most. -/
theorem receiveLoop_complete {k n : ℕ} (h : ReceiveInv reads l) (hopens : OpensWithin k l)
    (hn : k + l.reads.length ≤ n) : dispatches 0 (receiveLoop n l).trace = dispatchable reads := by
  induction n generalizing k l with
  | zero =>
      have hnil : l.reads = [] := List.eq_nil_of_length_eq_zero (by omega)
      exact h.done fun p hp => by rw [ahead, ← hp, hnil, hits_nil, List.map_nil]
  | succ n ih =>
      rw [receiveLoop]
      cases begins l with
      | reads m hm =>
          obtain ⟨hinv, hopen, hreads⟩ := hm.inv h
          rw [hm.receivePass]
          cases hrun : receiveFrame m with
          | none =>
              exact h.done fun p hp =>
                ahead_of_receiveFrame_none hopen hinv.data hrun (hreads.trans hp)
          | some r =>
              obtain ⟨hinv', hopen', hlt⟩ := hinv.receiveFrame hopen hrun
              have hle : 0 + r.2.reads.length ≤ n := by
                rw [hreads] at hlt
                omega
              exact ih hinv' (.inl hopen') hle
      | refused rest hclosed hopens' hpass =>
          rw [hpass]
          rcases hopens with hopen | ⟨j, hj, rest', hrest⟩
          · exact absurd (hopen.symm.trans hclosed) (by simp)
          · rw [hopens'] at hrest
            cases j with
            | zero => exact absurd hrest (by simp)
            | succ j =>
                rw [List.replicate_succ, List.cons_append, List.cons.injEq] at hrest
                refine ih (k := k - 1) (h.reopened false rest)
                  (.inr ⟨j, by omega, rest', hrest.2⟩) ?_
                show k - 1 + l.reads.length ≤ n
                omega
      | waits hclosed hnil _ =>
          rcases hopens with hopen | ⟨j, _, rest', hrest⟩
          · exact absurd (hopen.symm.trans hclosed) (by simp)
          · exact absurd (hnil.symm.trans hrest) (by simp)

end SentryNav.SerialComm
