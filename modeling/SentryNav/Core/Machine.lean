import Mathlib.Data.List.Basic
import Mathlib.Tactic.Common

/-!
# Machines that react to events

A node of a message-passing system is a step function: an event, handled in a state, gives the
next state and what is sent out meanwhile.  Claims about such a node are about everything it
sends in every run, and often about what it had been told or had sent by then; so an output is
kept together with its circumstances, an `Emission`.

* `emissions` is what a run sends out.
* `Admissible` says that every step of a run meets a condition, which may look at the events so far.
* `emissions_safe` is the rule the proofs use: an invariant of state and past, kept by each
  admissible step, under which each output is as it should be.
-/

namespace Machine

variable {σ ε ω : Type*}

/-- What has happened in a run: the events handled and the outputs sent, newest first. -/
structure Past (ε ω : Type*) where
  events : List ε
  outputs : List ω

/-- Nothing has happened yet. -/
def Past.start : Past ε ω := ⟨[], []⟩

/-- An event has been handled and has sent out something. -/
def Past.step (past : Past ε ω) (e : ε) (outputs : List ω) : Past ε ω :=
  ⟨e :: past.events, outputs.reverse ++ past.outputs⟩

/-- An output with its circumstances: what happened before, the event that caused it included, and
the state before and after that event. -/
structure Emission (σ ε ω : Type*) where
  past : Past ε ω
  before : σ
  after : σ
  output : ω

/-- The outputs of one event, each with what had been sent before it. -/
def sent (past : Past ε ω) (before : σ) (e : ε) (after : σ) (outputs : List ω) :
    List (Emission σ ε ω) :=
  outputs.mapIdx fun i o => ⟨past.step e (outputs.take i), before, after, o⟩

/-- What a run sends out, oldest first. -/
def emissions (step : σ → ε → σ × List ω) :
    (past : Past ε ω) → (s : σ) → List ε → List (Emission σ ε ω)
  | _, _, [] => []
  | past, s, e :: events =>
      sent past s e (step s e).1 (step s e).2
        ++ emissions step (past.step e (step s e).2) (step s e).1 events

/-- Every step of a run meets a condition on the past, the state and the event. -/
def Admissible (step : σ → ε → σ × List ω) (Guard : Past ε ω → σ → ε → Prop) :
    (past : Past ε ω) → (s : σ) → List ε → Prop
  | _, _, [] => True
  | past, s, e :: events =>
      Guard past s e ∧ Admissible step Guard (past.step e (step s e).2) (step s e).1 events

variable {step : σ → ε → σ × List ω} {Guard : Past ε ω → σ → ε → Prop}

lemma admissible_of_forall_mem {events : List ε} (h : ∀ past s, ∀ e ∈ events, Guard past s e)
    (past : Past ε ω) (s : σ) : Admissible step Guard past s events := by
  induction events generalizing past s with
  | nil => trivial
  | cons e events ih =>
      refine ⟨h past s e List.mem_cons_self, ih ?_ _ _⟩
      exact fun past s x hx => h past s x (List.mem_cons_of_mem e hx)

lemma admissible_of_forall (h : ∀ past s e, Guard past s e) (past : Past ε ω) (s : σ)
    (events : List ε) : Admissible step Guard past s events :=
  admissible_of_forall_mem (fun past s e _ => h past s e) past s

lemma admissible_iff_forall_mem {Good : ε → Prop} {events : List ε} {past : Past ε ω} {s : σ} :
    Admissible step (fun _ _ e => Good e) past s events ↔ ∀ e ∈ events, Good e := by
  induction events generalizing past s with
  | nil => simp [Admissible]
  | cons e events ih => simp [Admissible, ih]

/-- **Two conditions are met by the same runs**, if they are the same of every step under what holds
anyway. -/
theorem admissible_congr {Guard' : Past ε ω → σ → ε → Prop} (Inv : Past ε ω → σ → Prop)
    (hkeep : ∀ past s e, Inv past s → Inv (past.step e (step s e).2) (step s e).1)
    (hstep : ∀ past s e, Inv past s → (Guard past s e ↔ Guard' past s e)) :
    ∀ (events : List ε) (past : Past ε ω) (s : σ), Inv past s →
      (Admissible step Guard past s events ↔ Admissible step Guard' past s events) := by
  intro events
  induction events with
  | nil => exact fun _ _ _ => Iff.rfl
  | cons e events ih =>
      intro past s hinv
      rw [Admissible, Admissible, hstep past s e hinv, ih _ _ (hkeep past s e hinv)]

/-- What a run sends out, from the outcome of its first step. -/
lemma emissions_cons {s s' : σ} {e : ε} {outputs : List ω} (h : step s e = (s', outputs))
    (past : Past ε ω) (events : List ε) :
    emissions step past s (e :: events)
      = sent past s e s' outputs ++ emissions step (past.step e outputs) s' events := by
  rw [emissions, h]

lemma mem_sent {past : Past ε ω} {s s' : σ} {e : ε} {outputs : List ω} {m : Emission σ ε ω} :
    m ∈ sent past s e s' outputs ↔
      ∃ sooner o later, outputs = sooner ++ o :: later ∧ m = ⟨past.step e sooner, s, s', o⟩ := by
  rw [sent, List.mem_mapIdx]
  constructor
  · rintro ⟨i, hi, rfl⟩
    exact ⟨outputs.take i, outputs[i], outputs.drop (i + 1),
      by rw [← List.drop_eq_getElem_cons hi, List.take_append_drop], rfl⟩
  · rintro ⟨sooner, o, later, rfl, rfl⟩
    exact ⟨sooner.length, by simp, by simp⟩

/-- The output of an event that sends out one thing. -/
lemma only_output {sooner later : List ω} {o output : ω} (h : [output] = sooner ++ o :: later) :
    sooner = [] ∧ o = output := by
  cases sooner with
  | nil =>
      rw [List.nil_append, List.cons.injEq] at h
      exact ⟨rfl, h.1.symm⟩
  | cons x xs => exact absurd (congrArg List.length h) (by simp)

/-- **Safety of all outputs of all runs.**  If an invariant of past and state is kept by every
admissible step, and under it every output of such a step is good, then every output of an
admissible run is good. -/
theorem emissions_safe (Inv : Past ε ω → σ → Prop) (Good : Emission σ ε ω → Prop)
    (hkeep : ∀ past s e, Inv past s → Guard past s e →
      Inv (past.step e (step s e).2) (step s e).1)
    (hgood : ∀ past s e, Inv past s → Guard past s e → ∀ sooner o later,
      (step s e).2 = sooner ++ o :: later → Good ⟨past.step e sooner, s, (step s e).1, o⟩) :
    ∀ (events : List ε) (past : Past ε ω) (s : σ), Inv past s →
      Admissible step Guard past s events → ∀ m ∈ emissions step past s events, Good m := by
  intro events
  induction events with
  | nil => exact fun _ _ _ _ m hm => absurd hm List.not_mem_nil
  | cons e events ih =>
      rintro past s hinv ⟨hguard, hrest⟩ m hm
      rcases List.mem_append.mp hm with hm | hm
      · obtain ⟨sooner, o, later, houtputs, rfl⟩ := mem_sent.mp hm
        exact hgood past s e hinv hguard sooner o later houtputs
      · exact ih _ _ (hkeep past s e hinv hguard) hrest m hm

lemma forall_mem_sent {past : Past ε ω} {s s' : σ} {e : ε} {outputs : List ω}
    {Good : Emission σ ε ω → Prop} :
    (∀ m ∈ sent past s e s' outputs, Good m) ↔
      ∀ sooner o later, outputs = sooner ++ o :: later → Good ⟨past.step e sooner, s, s', o⟩ := by
  constructor
  · exact fun h sooner o later houtputs => h _ (mem_sent.mpr ⟨sooner, o, later, houtputs, rfl⟩)
  · rintro h m hm
    obtain ⟨sooner, o, later, houtputs, rfl⟩ := mem_sent.mp hm
    exact h sooner o later houtputs

/-- **Exactly the runs that meet a condition send out good outputs only**, if the outputs of a step
are good just when it meets the condition.  `Inv` is what holds anyway. -/
theorem emissions_good_iff (Inv : Past ε ω → σ → Prop) (Good : Emission σ ε ω → Prop)
    (hkeep : ∀ past s e, Inv past s → Inv (past.step e (step s e).2) (step s e).1)
    (hstep : ∀ past s e, Inv past s →
      ((∀ m ∈ sent past s e (step s e).1 (step s e).2, Good m) ↔ Guard past s e)) :
    ∀ (events : List ε) (past : Past ε ω) (s : σ), Inv past s →
      ((∀ m ∈ emissions step past s events, Good m) ↔ Admissible step Guard past s events) := by
  intro events
  induction events with
  | nil => exact fun _ _ _ => iff_of_true (fun _ hm => absurd hm List.not_mem_nil) trivial
  | cons e events ih =>
      intro past s hinv
      rw [emissions, List.forall_mem_append, hstep past s e hinv, ih _ _ (hkeep past s e hinv)]
      rfl

/-- What has happened by the time of an output has happened by the end of the run. -/
lemma past_suffix_of_mem {events : List ε} {past : Past ε ω} {s : σ} {m : Emission σ ε ω}
    (hm : m ∈ emissions step past s events) : m.past.events <:+ events.reverse ++ past.events := by
  induction events generalizing past s with
  | nil => exact absurd hm List.not_mem_nil
  | cons e events ih =>
      rw [List.reverse_cons, List.append_assoc, List.singleton_append]
      rcases List.mem_append.mp hm with hm | hm
      · obtain ⟨sooner, o, later, -, rfl⟩ := mem_sent.mp hm
        exact List.suffix_append _ _
      · exact ih hm

/-! ## Machines that only change their state -/

/-- The state after a run. -/
def run (step : σ → ε → σ) : σ → List ε → σ
  | s, [] => s
  | s, e :: events => run step (step s e) events

lemma run_concat (step : σ → ε → σ) (s : σ) (events : List ε) (e : ε) :
    run step s (events ++ [e]) = step (run step s events) e := by
  induction events generalizing s with
  | nil => rfl
  | cons first events ih => exact ih _

/-- Every step of a run meets a condition on the state before it and the event. -/
def Guarded (step : σ → ε → σ) (Guard : σ → ε → Prop) : σ → List ε → Prop
  | _, [] => True
  | s, e :: events => Guard s e ∧ Guarded step Guard (step s e) events

/-- **Safety of all states of all runs.**  What is kept by every step that meets the condition holds
after every run of such steps. -/
theorem run_inv {step : σ → ε → σ} {Guard : σ → ε → Prop} (Inv : σ → Prop)
    (hkeep : ∀ s e, Inv s → Guard s e → Inv (step s e)) :
    ∀ (events : List ε) (s : σ), Inv s → Guarded step Guard s events → Inv (run step s events) := by
  intro events
  induction events with
  | nil => exact fun s hinv _ => hinv
  | cons e events ih =>
      rintro s hinv ⟨hguard, hrest⟩
      exact ih _ (hkeep s e hinv hguard) hrest

/-- **Exactly the runs that meet a condition are safe all along**, if a step from a safe state leads
to a safe state just when it meets the condition.  `Base` is what holds of the states anyway. -/
theorem guarded_iff {step : σ → ε → σ} {Guard : σ → ε → Prop} (Base Inv : σ → Prop)
    (hbase : ∀ s e, Base s → Base (step s e))
    (hstep : ∀ s e, Base s → Inv s → (Inv (step s e) ↔ Guard s e)) :
    ∀ (events : List ε) (s : σ), Base s → Inv s →
      ((∀ first, first <+: events → Inv (run step s first)) ↔ Guarded step Guard s events) := by
  intro events
  induction events with
  | nil =>
      intro s _ hinv
      refine ⟨fun _ => trivial, fun _ first hfirst => ?_⟩
      rw [List.prefix_nil.mp hfirst]
      exact hinv
  | cons e events ih =>
      intro s hs hinv
      constructor
      · intro hsafe
        have hnext : Inv (step s e) := hsafe [e] ⟨events, rfl⟩
        refine ⟨(hstep s e hs hinv).mp hnext, (ih _ (hbase s e hs) hnext).mp ?_⟩
        rintro first ⟨rest, rfl⟩
        exact hsafe (e :: first) ⟨rest, rfl⟩
      · rintro ⟨hguard, hrest⟩ first hfirst
        rcases first with _ | ⟨other, first⟩
        · exact hinv
        · obtain ⟨rfl, hprefix⟩ := List.cons_prefix_cons.mp hfirst
          have hnext := (hstep s other hs hinv).mpr hguard
          exact (ih _ (hbase s other hs) hnext).mpr hrest first hprefix

lemma guarded_of_forall {step : σ → ε → σ} {Guard : σ → ε → Prop} (h : ∀ s e, Guard s e) :
    ∀ (s : σ) (events : List ε), Guarded step Guard s events
  | _, [] => trivial
  | s, e :: events => ⟨h s e, guarded_of_forall h _ events⟩

/-- What every step keeps, whatever the event, holds after every run. -/
theorem run_keeps {step : σ → ε → σ} (Inv : σ → Prop) (hkeep : ∀ s e, Inv s → Inv (step s e))
    (events : List ε) (s : σ) (hinv : Inv s) : Inv (run step s events) := by
  have hguarded : Guarded step (fun _ _ => True) s events :=
    guarded_of_forall (fun _ _ => trivial) s events
  exact run_inv Inv (fun s e hinv _ => hkeep s e hinv) events s hinv hguarded

end Machine
