import SentryNav.SerialComm.ReceiveRun

/-!
# Getting a lost device back

`receiveLoop` opens the port whenever it finds it closed, and is meant to reconnect by itself.  But
a read that ends in an error is answered like one that times out, and nothing closes the port: once
open, it is open for good (`linkHistory_loop`).  `recoverable_iff` says what that means at the top
of every iteration, and `device_lost` is a run in which the loop goes on reading from a lost device.
-/

namespace SentryNav.SerialComm

open Scan

/-- A read has ended in an error of `select` or of `read_some`. -/
def ReadOutcome.isError : ReadOutcome → Bool
  | .selectError | .readError => true
  | .timeout | .byte _ => false

/-- The reads on the descriptor opened last, in the order they ended. -/
def sinceOpened (outcomes : List ReadOutcome) : PortEvent → List ReadOutcome
  | .opened _ => []
  | .read outcome => outcomes ++ [outcome]
  | .handled _ => outcomes

/-- The reads on the descriptor opened last. -/
def readsSinceOpened (trace : List PortEvent) : List ReadOutcome := trace.foldl sinceOpened []

/-- At the top of an iteration, the port is open only if no read on its descriptor has ended in an
error. -/
def Recoverable (l : Link) : Prop :=
  l.isOpen = true → ∀ outcome ∈ readsSinceOpened l.trace, outcome.isError = false

lemma foldl_sinceOpened_reads (outcomes more : List ReadOutcome) :
    (more.map PortEvent.read).foldl sinceOpened outcomes = outcomes ++ more := by
  induction more generalizing outcomes with
  | nil => rw [List.map_nil, List.foldl_nil, List.append_nil]
  | cons o more ih =>
      rw [List.map_cons, List.foldl_cons, ih, sinceOpened, List.append_assoc, List.singleton_append]

lemma foldl_sinceOpened_handled (outcomes : List ReadOutcome) (f? : Option Frame) :
    (f?.toList.map PortEvent.handled).foldl sinceOpened outcomes = outcomes := by
  cases f? <;> rfl

/-- Before the port is open nothing is read, and from then on it stays open. -/
structure LinkHistory (l : Link) : Prop where
  data : l.data.length = 255
  closed : l.isOpen = false → readsOf l.trace = []
  opened : l.isOpen = true → readsSinceOpened l.trace = readsOf l.trace

variable {l : Link}

lemma linkHistory_start (opens : List Bool) (reads : List ReadOutcome) (data : Vector UInt8 255) :
    LinkHistory (Link.start opens reads data) where
  data := by simp [Link.start]
  closed _ := rfl
  opened h := absurd h (by simp [Link.start])

/-- Opening a port that was closed. -/
lemma LinkHistory.reopened (h : LinkHistory l) (hclosed : l.isOpen = false) (ok : Bool)
    (rest : List Bool) : LinkHistory (l.reopened ok rest) where
  data := h.data
  closed _ := by
    rw [Link.reopened, readsOf_append, h.closed hclosed]
    rfl
  opened _ := by
    rw [Link.reopened, readsOf_append, h.closed hclosed, readsSinceOpened, List.foldl_append]
    rfl

/-- Taking up some reads on an open port, and handing on a frame or none. -/
lemma LinkHistory.takes (h : LinkHistory l) (hopen : l.isOpen = true) (n : ℕ)
    {data : List UInt8} (hdata : data.length = 255) (f? : Option Frame) :
    LinkHistory (((l.consume n).withData data).handle f?) where
  data := hdata
  closed hclosed := absurd (hopen.symm.trans hclosed) (by simp)
  opened _ := by
    have htrace : (((l.consume n).withData data).handle f?).trace
        = l.trace ++ (l.reads.take n).map .read ++ f?.toList.map .handled := rfl
    have hreads : l.trace.foldl sinceOpened [] = readsOf l.trace := h.opened hopen
    rw [htrace, readsSinceOpened, List.foldl_append, List.foldl_append, hreads,
      foldl_sinceOpened_reads, foldl_sinceOpened_handled, readsOf_append, readsOf_append,
      readsOf_map, readsOf_handled, List.append_nil]

/-- An iteration on an open port. -/
lemma LinkHistory.receiveFrame {l' : Link} (h : LinkHistory l) (hopen : l.isOpen = true)
    (hrun : receiveFrame l = some ((), l')) : LinkHistory l' := by
  obtain ⟨data, hdata, htakes⟩ := receiveFrame_takes hopen h.data
  rw [hrun] at htakes
  split at htakes
  · exact absurd htakes (by simp)
  · obtain rfl := congrArg Prod.snd (Option.some.inj htakes)
    exact h.takes hopen _ hdata _

/-- **A run never closes the port.** -/
theorem linkHistory_loop (n : ℕ) (h : LinkHistory l) : LinkHistory (receiveLoop n l) := by
  induction n generalizing l with
  | zero => exact h
  | succ n ih =>
      rw [receiveLoop]
      cases hpass : receivePass l with
      | none => exact h
      | some r =>
          refine ih ?_
          cases begins l with
          | reads m hm =>
              rw [hm.receivePass] at hpass
              rcases hm with ⟨hopen, rfl⟩ | ⟨hclosed, rest, -, rfl⟩
              · exact h.receiveFrame hopen hpass
              · exact (h.reopened hclosed true rest).receiveFrame rfl hpass
          | refused rest hclosed _ hrefused =>
              rw [hrefused] at hpass
              obtain rfl := Option.some.inj hpass
              exact h.reopened hclosed false rest
          | waits _ _ hwaits => exact absurd (hwaits ▸ hpass) (by simp)

/-- With such a history, no error on the open port means no error at all. -/
lemma LinkHistory.noticed_iff (h : LinkHistory l) :
    Recoverable l ↔ ∀ outcome ∈ readsOf l.trace, outcome.isError = false := by
  cases hopen : l.isOpen with
  | true =>
      rw [Recoverable, h.opened hopen]
      exact imp_iff_right hopen
  | false =>
      refine iff_of_true (fun hopen' => absurd (hopen.symm.trans hopen') Bool.false_ne_true) ?_
      rw [h.closed hopen]
      exact fun _ hmem => absurd hmem List.not_mem_nil

/-- **When a lost device is noticed.**  At the top of every iteration of a run the port is open only
if no read on its descriptor has ended in an error, just when no read of the run has. -/
theorem recoverable_iff (opens : List Bool) (reads : List ReadOutcome) (data : Vector UInt8 255) :
    (∀ n, Recoverable (receiveLoop n (Link.start opens reads data))) ↔
      ∀ n, ∀ outcome ∈ readsOf (receiveLoop n (Link.start opens reads data)).trace,
        outcome.isError = false :=
  forall_congr' fun n => (linkHistory_loop n (linkHistory_start opens reads data)).noticed_iff

/-- **A lost device is not noticed.**  The port opens, the first read ends in an error, and at the
top of the next iteration the port is open. -/
theorem device_lost :
    ¬ ∀ (opens : List Bool) (reads : List ReadOutcome) (data : Vector UInt8 255) (n : ℕ),
      Recoverable (receiveLoop n (Link.start opens reads data)) := by
  intro hrecoverable
  have hlost := hrecoverable [true] [.readError] (Vector.replicate 255 0) 1 rfl .readError
    List.mem_cons_self
  exact absurd hlost.symm Bool.false_ne_true

end SentryNav.SerialComm
