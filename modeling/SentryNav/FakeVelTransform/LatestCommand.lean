import SentryNav.FakeVelTransform.Node
import SentryNav.RealMath

/-!
# Which command is published

`cmdVelCallback` stores a command for `syncCallback` unless it publishes it at once, and then it
leaves an older stored one where it is.  `published_is_latest` is what holds in every run in which
`syncCallback` is not called on such a leftover; `stale_command_published` is a run in which it is,
and a stopped robot is told to drive on.
-/

namespace SentryNav.FakeVelTransform

open Machine

section Invariant

variable {K : Type*} [Field K] [LinearOrder K]

/-- What the members say about the events so far. -/
structure Tracks (past : List (Event K)) (s : State K) : Prop where
  activation : s.lastControllerActivateTime = lastActivation past
  waited : someWaited past = false → s.latestCmdVel = none
  latest : overtaken past = false → ∀ msg, s.latestCmdVel = some msg →
    lastReceived past = some msg

lemma tracks_init (initSpinSpeed angle : K) : Tracks [] (State.init initSpinSpeed angle) where
  activation := rfl
  waited _ := rfl
  latest _ _ h := absurd h (by simp [State.init])

variable {m : Libm K} {narrow : K → K} {past : List (Event K)} {s : State K}

/-- What `cmdVelCallback` does, by the path it takes. -/
lemma cmdVelCallback_eq (h : Tracks past s) (msg : Twist K) (now : ℤ) :
    cmdVelCallback m narrow msg now s
      = if publishedDirectly past msg now
        then (s, [transformVelocity m s.spinSpeed msg (narrow s.currentRobotBaseAngle)])
        else ({ s with latestCmdVel := some msg }, []) := by
  rw [cmdVelCallback, h.activation, publishedDirectly]

/-- Every callback keeps track. -/
lemma Tracks.step (h : Tracks past s) (e : Event K) :
    Tracks (e :: past) (step m narrow s e).1 := by
  cases e with
  | cmdSpin data => exact ⟨h.activation, h.waited, h.latest⟩
  | localPlan now => exact ⟨rfl, h.waited, h.latest⟩
  | odometry yaw now =>
      rw [FakeVelTransform.step, odometryCallback]
      split
      · exact ⟨h.activation, h.waited, h.latest⟩
      · exact ⟨h.activation, h.waited, h.latest⟩
  | sync yaw =>
      rw [FakeVelTransform.step, syncCallback]
      split
      · exact ⟨h.activation, h.waited, h.latest⟩
      · exact ⟨h.activation, h.waited, h.latest⟩
  | cmdVel msg now =>
      rw [FakeVelTransform.step, cmdVelCallback_eq h]
      cases hdirect : publishedDirectly past msg now with
      | true =>
          -- the stored command stays, and is an older one from now on
          refine ⟨h.activation, fun hwaited => h.waited ?_, fun hover v hv => ?_⟩
          · simpa only [someWaited, hdirect, Bool.not_true, Bool.false_or] using hwaited
          · rw [overtaken, hdirect, Bool.true_and] at hover
            exact absurd hv (by simp [h.waited hover])
      | false =>
          refine ⟨h.activation, fun hwaited => ?_, fun _ v hv => ?_⟩
          · simp only [someWaited, hdirect, Bool.not_false, Bool.true_or] at hwaited
            exact absurd hwaited (by simp)
          · rw [lastReceived]
            exact hv

/-- `syncCallback` is not called when the command received last was published directly after
another had been stored. -/
def SyncInTime (past : Past (Event K) (Twist K)) (_ : State K) : Event K → Prop
  | .sync _ => overtaken past.events = false
  | _ => True

/-- A published command is the one received last, in terms of the angle and the spin speed the node
has afterwards. -/
def PublishesLatest (m : Libm K) (narrow : K → K) (e : Emission (State K) (Event K) (Twist K)) :
    Prop :=
  ∃ msg, lastReceived e.past.events = some msg ∧
    e.output = transformVelocity m e.after.spinSpeed msg (narrow e.after.currentRobotBaseAngle)

lemma step_publishesLatest {past : Past (Event K) (Twist K)} (h : Tracks past.events s)
    (e : Event K) (hsync : SyncInTime past s e) {sooner : List (Twist K)} {o : Twist K}
    (ho : o ∈ (step m narrow s e).2) :
    PublishesLatest m narrow ⟨past.step e sooner, s, (step m narrow s e).1, o⟩ := by
  cases e with
  | cmdSpin data => exact absurd ho List.not_mem_nil
  | localPlan now => exact absurd ho List.not_mem_nil
  | odometry yaw now => exact absurd ho List.not_mem_nil
  | cmdVel msg now =>
      rw [FakeVelTransform.step, cmdVelCallback] at ho ⊢
      split at ho
      · next hdirect =>
          rw [if_pos hdirect]
          exact ⟨msg, rfl, List.mem_singleton.mp ho⟩
      · exact absurd ho List.not_mem_nil
  | sync yaw =>
      rw [FakeVelTransform.step, syncCallback] at ho ⊢
      cases hstored : s.latestCmdVel with
      | none =>
          rw [hstored] at ho
          exact absurd ho List.not_mem_nil
      | some msg =>
          rw [hstored] at ho
          exact ⟨msg, h.latest hsync msg hstored, List.mem_singleton.mp ho⟩

/-- **No stale command.**  In every run, from any initial angle, in which `syncCallback` is not
called on a command that a directly published one has overtaken, everything published on the chassis
topic is `transformVelocity` of the command received last. -/
theorem published_is_latest (m : Libm K) (narrow : K → K) (initSpinSpeed angle : K)
    (events : List (Event K))
    (hsync : Admissible (step m narrow) SyncInTime .start (State.init initSpinSpeed angle)
      events) :
    ∀ e ∈ emissions (step m narrow) .start (State.init initSpinSpeed angle) events,
      PublishesLatest m narrow e := by
  refine emissions_safe (fun past s => Tracks past.events s) (PublishesLatest m narrow)
    (fun _ _ e h _ => h.step e) (fun past s e h hg sooner o later ho => ?_) events .start _
    (tracks_init initSpinSpeed angle) hsync
  exact step_publishesLatest h e hg (ho ▸ List.mem_append_right sooner List.mem_cons_self)

end Invariant

/-! ## Two runs -/

/-- A command to drive forward. -/
def forward : Twist ℝ := ⟨⟨1, 0, 0⟩, ⟨0, 0, 0⟩⟩

/-- A command to stop. -/
def stop : Twist ℝ := ⟨⟨0, 0, 0⟩, ⟨0, 0, 0⟩⟩

lemma isZeroVel_forward : isZeroVel forward = false := by
  have hbig : ¬ |(1 : ℝ)| < 1e-5 := by norm_num
  simp only [isZeroVel, forward, epsilon, hbig, decide_false, Bool.false_and]

lemma isZeroVel_stop : isZeroVel stop = true := by
  norm_num [isZeroVel, stop, epsilon]

/-- Forward is stored when a local plan has come in the last half second. -/
lemma step_forward : step realLibm id ⟨0, none, 0, 1000000000⟩ (.cmdVel forward 1100000000)
    = (⟨0, some forward, 0, 1000000000⟩, []) := by
  rw [step, cmdVelCallback, isZeroVel_forward]
  rfl

lemma step_stop : step realLibm id ⟨0, some forward, 0, 1000000000⟩ (.cmdVel stop 1200000000)
    = (⟨0, some forward, 0, 1000000000⟩, [transformVelocity realLibm 0 stop 0]) := by
  rw [step, cmdVelCallback, isZeroVel_stop]
  rfl

lemma step_sync : step realLibm id ⟨0, some forward, 0, 1000000000⟩ (.sync 0)
    = (⟨0, some forward, 0, 1000000000⟩, [transformVelocity realLibm 0 forward 0]) := rfl

lemma step_localPlan : step realLibm id (State.init 0 0) (.localPlan 1000000000)
    = (⟨0, none, 0, 1000000000⟩, []) := rfl

/-- A command is stored and published with the next pair of odometry and local plan. -/
theorem published_is_latest_forward :
    ∃ e ∈ emissions (step realLibm id) .start (State.init 0 0)
        [.localPlan 1000000000, .cmdVel forward 1100000000, .sync 0],
      e.output = transformVelocity realLibm 0 forward 0 ∧ PublishesLatest realLibm id e := by
  have hsync : Admissible (step realLibm id) SyncInTime .start (State.init 0 0)
      [.localPlan 1000000000, .cmdVel forward 1100000000, .sync 0] := by
    refine ⟨trivial, trivial, ?_, trivial⟩
    show (publishedDirectly _ forward 1100000000 && someWaited [.localPlan 1000000000]) = false
    simp only [someWaited, Bool.and_false]
  have hlatest := published_is_latest realLibm id 0 0 _ hsync
  rw [emissions_cons step_localPlan, emissions_cons step_forward, emissions_cons step_sync]
    at hlatest ⊢
  exact ⟨_, List.mem_cons_self, rfl, hlatest _ List.mem_cons_self⟩

/-- The readings of the clock in a run. -/
def clockReadings {K : Type*} (events : List (Event K)) : List ℤ :=
  events.filterMap fun
    | .odometry _ now | .cmdVel _ now | .localPlan now => some now
    | .cmdSpin _ | .sync _ => none

/-- **A stale command is published.**  Forward is stored, stop is published at once, and the next
pair of odometry and local plan publishes forward again. -/
theorem stale_command_published :
    ¬ ∀ (initSpinSpeed angle : ℝ) (events : List (Event ℝ)),
      (clockReadings events).Pairwise (· ≤ ·) →
      ∀ e ∈ emissions (step realLibm id) .start (State.init initSpinSpeed angle) events,
        PublishesLatest realLibm id e := by
  intro hlatest
  have hrun := hlatest 0 0 [.localPlan 1000000000, .cmdVel forward 1100000000,
    .cmdVel stop 1200000000, .sync 0] (by decide)
  rw [emissions_cons step_localPlan, emissions_cons step_forward, emissions_cons step_stop,
    emissions_cons step_sync] at hrun
  obtain ⟨msg, hmsg, houtput⟩ := hrun _ (List.mem_cons_of_mem _ List.mem_cons_self)
  obtain rfl : stop = msg := Option.some.inj hmsg
  have hx := congrArg (fun twist => twist.linear.x) houtput
  simp [transformVelocity, forward, stop, realLibm] at hx

end SentryNav.FakeVelTransform
