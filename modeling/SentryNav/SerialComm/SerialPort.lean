import SentryNav.SerialComm.Frame

/-!
# The serial port as the receive thread sees it

`SerialPort` wraps a descriptor, `select` and `read_some`.  What these do is up to the operating
system, so a run is given two lists: the results of the successive `open` calls, and the outcomes
of the successive one-byte reads.  A `Link` holds what is left of them, the state of the port, the
receive buffer of the thread, and a trace of everything that has happened.

`Rx` is a computation of the receive thread on a link.  It has no result when it is still inside
a call whose outcome has not come.
-/

namespace SentryNav.SerialComm

/-- How `SerialPort::read` of one byte ends on an open port. -/
inductive ReadOutcome
  /-- `select` returns `0`. -/
  | timeout
  /-- `select` returns a negative value. -/
  | selectError
  /-- `read_some` sets the error code. -/
  | readError
  /-- `read_some` delivers a byte. -/
  | byte (b : UInt8)
deriving DecidableEq

/-- The byte `readByte` delivers; without one it returns `false`. -/
def ReadOutcome.byte? : ReadOutcome → Option UInt8
  | .byte b => some b
  | _ => none

/-- The bytes received in a sequence of reads. -/
def received (outcomes : List ReadOutcome) : List UInt8 := outcomes.filterMap ReadOutcome.byte?

/-- What the receive thread does to the outside. -/
inductive PortEvent
  | opened (ok : Bool)
  | read (outcome : ReadOutcome)
  | handled (f : Frame)
deriving DecidableEq

/-- The port, the environment's answers still to come, and what has happened so far. -/
structure Link where
  opens : List Bool
  reads : List ReadOutcome
  isOpen : Bool
  /-- The thread's `uint8_t data[FRAME_MAX_DATA_LEN]`, with whatever it holds. -/
  data : List UInt8
  trace : List PortEvent

/-- A computation of the receive thread; `none` while it waits inside a call. -/
abbrev Rx (α : Type) := StateT Link Option α

lemma Rx.bind_some {α β : Type} {x : Rx α} {k : α → Rx β} {l l' : Link} {a : α}
    (h : x l = some (a, l')) : (x >>= k) l = k a l' := by
  simp only [Bind.bind, StateT.bind, h, Option.bind]

lemma Rx.bind_none {α β : Type} {x : Rx α} {k : α → Rx β} {l : Link}
    (h : x l = none) : (x >>= k) l = none := by
  simp only [Bind.bind, StateT.bind, h, Option.bind]

@[simp] lemma Rx.pure_apply {α : Type} (a : α) (l : Link) : (pure a : Rx α) l = some (a, l) := rfl

/-! ## The calls -/

/-- `SerialPort::isOpen`. -/
def portIsOpen : Rx Bool := fun l => some (l.isOpen, l)

/-- `SerialPort::open`: an exception on the way closes the port again and gives `false`. -/
def portOpen : Rx Bool := fun l =>
  match l.opens with
  | [] => none
  | ok :: rest =>
      some (ok, { l with opens := rest, isOpen := ok, trace := l.trace ++ [.opened ok] })

/-- `n` reads have ended. -/
def Link.consume (l : Link) (n : ℕ) : Link :=
  { l with
    reads := l.reads.drop n
    trace := l.trace ++ (l.reads.take n).map .read }

/-- `SerialPort::readByte`: on a closed port it fails at once. -/
def readByte : Rx (Option UInt8) := fun l =>
  if l.isOpen then
    match l.reads with
    | [] => none
    | outcome :: _ => some (outcome.byte?, l.consume 1)
  else some (none, l)

/-- The link with another content of the receive buffer. -/
def Link.withData (l : Link) (data : List UInt8) : Link := { l with data := data }

/-- `data[i] = b`. -/
def storeByte (i b : UInt8) : Rx Unit := fun l => some ((), l.withData (l.data.set i.toNat b))

/-- The first bytes of the receive buffer, as the code copies them into a vector. -/
def loadBytes (len : UInt8) : Rx (List UInt8) := fun l => some (l.data.take len.toNat, l)

/-- `SerialCommNode::handleFrame`, as far as the link is concerned. -/
def handleFrame (cmdId : UInt8) (data : List UInt8) : Rx Unit := fun l =>
  some ((), { l with trace := l.trace ++ [.handled (cmdId, data)] })

/-! ## Reads -/

section Consume

variable (l : Link) (m n : ℕ) (data data' : List UInt8)

@[simp] lemma Link.consume_isOpen : (l.consume n).isOpen = l.isOpen := rfl
@[simp] lemma Link.consume_opens : (l.consume n).opens = l.opens := rfl
@[simp] lemma Link.consume_data : (l.consume n).data = l.data := rfl
@[simp] lemma Link.consume_reads : (l.consume n).reads = l.reads.drop n := rfl

@[simp] lemma Link.withData_isOpen : (l.withData data).isOpen = l.isOpen := rfl
@[simp] lemma Link.withData_opens : (l.withData data).opens = l.opens := rfl
@[simp] lemma Link.withData_reads : (l.withData data).reads = l.reads := rfl
@[simp] lemma Link.withData_trace : (l.withData data).trace = l.trace := rfl
@[simp] lemma Link.withData_data : (l.withData data).data = data := rfl
@[simp] lemma Link.withData_withData : (l.withData data).withData data' = l.withData data' := rfl
@[simp] lemma Link.withData_consume :
    (l.withData data).consume n = (l.consume n).withData data := rfl
@[simp] lemma Link.withData_self : l.withData l.data = l := rfl

lemma Link.consume_zero : l.consume 0 = l := by
  simp [Link.consume]

lemma Link.consume_consume : (l.consume m).consume n = l.consume (m + n) := by
  simp only [Link.consume, List.drop_drop, List.take_add, List.map_append, List.append_assoc]

end Consume

variable {l : Link}

lemma readByte_byte (hopen : l.isOpen = true) {b : UInt8} {rest : List ReadOutcome}
    (hreads : l.reads = .byte b :: rest) : readByte l = some (some b, l.consume 1) := by
  rw [readByte, if_pos hopen, hreads]
  rfl

/-- A read that is cut off: it waits, or ends without a byte. -/
lemma readByte_nil (hopen : l.isOpen = true) (hreads : l.reads = []) : readByte l = none := by
  rw [readByte, if_pos hopen, hreads]

lemma readByte_fail (hopen : l.isOpen = true) {o : ReadOutcome} {rest : List ReadOutcome}
    (hreads : l.reads = o :: rest) (ho : o.byte? = none) :
    readByte l = some (none, l.consume 1) := by
  rw [readByte, if_pos hopen, hreads]
  simp only [ho]

end SentryNav.SerialComm
