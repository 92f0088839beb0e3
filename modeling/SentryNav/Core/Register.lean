import Mathlib.Data.List.Induction

/-!
# Registers

A register holds what was written to it last.  A system that handles one event after the other has
such a register in its state if every event either writes it or leaves it alone; then
`foldl_eq_last` says what it holds after any history, in terms of the history only: which other
registers are written, and in which portions the events come, makes no difference.
-/

namespace Register

variable {σ ε α : Type*} {written : ε → Option α}

/-- What was written last in a history, oldest event first; `start` if nothing was. -/
def last (written : ε → Option α) (start : α) (events : List ε) : α :=
  (events.reverse.findSome? written).getD start

@[simp] lemma last_nil (start : α) : last written start [] = start := rfl

lemma last_concat (start : α) (events : List ε) (e : ε) :
    last written start (events ++ [e]) = (written e).getD (last written start events) := by
  rw [last, last, List.reverse_append, List.reverse_singleton, List.singleton_append,
    List.findSome?_cons]
  cases written e <;> rfl

/-- **A register holds what was written to it last.** -/
theorem foldl_eq_last {step : σ → ε → σ} {read : σ → α}
    (h : ∀ s e, read (step s e) = (written e).getD (read s)) (s : σ) (events : List ε) :
    read (events.foldl step s) = last written (read s) events := by
  induction events using List.reverseRecOn with
  | nil => rfl
  | append_singleton events e ih =>
      rw [List.foldl_append, List.foldl_cons, List.foldl_nil, h, ih, last_concat]

end Register
