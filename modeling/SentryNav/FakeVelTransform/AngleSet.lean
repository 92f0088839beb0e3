import SentryNav.FakeVelTransform.LatestCommand

/-!
# Which angle a command is turned by

`current_robot_base_angle_` is written on two paths: by `odometryCallback`, once the controller has
timed out, and by `syncCallback`, if a command waits.  It is read by `cmdVelCallback` too, which
does not ask whether it has been written.  `turned_by_odometry` is what holds in every run in which
no command that moves the robot is published directly before; `turned_by_nothing` is a run in which
the first command is, and is turned by whatever the member happened to contain.
-/

namespace SentryNav.FakeVelTransform

open Machine

section Invariant

variable {K : Type*} [Field K] [LinearOrder K]

/-- The yaws of the odometry messages received, alone or in a synchronised pair. -/
def yaws : List (Event K) → List K
  | [] => []
  | .odometry yaw _ :: past => yaw :: yaws past
  | .sync yaw :: past => yaw :: yaws past
  | _ :: past => yaws past

/-- The commands received. -/
def commands : List (Event K) → List (Twist K)
  | [] => []
  | .cmdVel msg _ :: past => msg :: commands past
  | _ :: past => commands past

/-- Some odometry message has set the angle. -/
def angleSet : List (Event K) → Bool
  | [] => false
  | .odometry _ now :: past => timedOut (lastActivation past) now || angleSet past
  | .sync _ :: past => someWaited past || angleSet past
  | _ :: past => angleSet past

/-- A velocity in the plane, rotated by minus an angle. -/
def turned (m : Libm K) (angle : K) (v : Vector3 K) : K × K :=
  (v.x * m.cos angle + v.y * m.sin angle, -v.x * m.sin angle + v.y * m.cos angle)

/-- The linear part of what is published is that of a command received, rotated by minus the yaw of
an odometry message received. -/
def TurnedByOdometry (m : Libm K) (narrow : K → K)
    (e : Emission (State K) (Event K) (Twist K)) : Prop :=
  ∃ msg ∈ commands e.past.events, ∃ yaw ∈ yaws e.past.events,
    (e.output.linear.x, e.output.linear.y) = turned m (narrow yaw) msg.linear

/-- A command is published directly only after the angle has been set, unless it has no linear part
and some odometry has been received. -/
def AngleInTime (past : Past (Event K) (Twist K)) (_ : State K) : Event K → Prop
  | .cmdVel msg now => publishedDirectly past.events msg now = true →
      angleSet past.events = true ∨
        (msg.linear.x = 0 ∧ msg.linear.y = 0 ∧ yaws past.events ≠ [])
  | _ => True

/-- What the members say about the commands and the yaws. -/
structure Sources (past : List (Event K)) (s : State K) : Prop where
  tracks : Tracks past s
  waiting : someWaited past = true → s.latestCmdVel ≠ none
  stored : ∀ msg, s.latestCmdVel = some msg → msg ∈ commands past
  angle : angleSet past = true → s.currentRobotBaseAngle ∈ yaws past

lemma sources_init (initSpinSpeed angle : K) : Sources [] (State.init initSpinSpeed angle) where
  tracks := tracks_init initSpinSpeed angle
  waiting h := absurd h Bool.false_ne_true
  stored _ h := absurd h nofun
  angle h := absurd h Bool.false_ne_true

variable {m : Libm K} {narrow : K → K} {past : List (Event K)} {s : State K}

/-- A command that has been left for `syncCallback` stays. -/
lemma Sources.waiting_step (h : Sources past s) (e : Event K)
    (hwaited : someWaited (e :: past) = true) : (step m narrow s e).1.latestCmdVel ≠ none := by
  cases e with
  | cmdSpin data => exact h.waiting hwaited
  | localPlan now => exact h.waiting hwaited
  | odometry yaw now =>
      rw [step, odometryCallback]
      split <;> exact h.waiting hwaited
  | sync yaw =>
      rw [step, syncCallback]
      split <;> exact h.waiting hwaited
  | cmdVel msg now =>
      rw [step, cmdVelCallback_eq h.tracks]
      rw [someWaited] at hwaited
      cases hdirect : publishedDirectly past msg now with
      | true =>
          rw [hdirect, Bool.not_true, Bool.false_or] at hwaited
          exact h.waiting hwaited
      | false => exact Option.some_ne_none msg

/-- What waits has been received. -/
lemma Sources.stored_step (h : Sources past s) (e : Event K) (msg : Twist K)
    (hstored : (step m narrow s e).1.latestCmdVel = some msg) : msg ∈ commands (e :: past) := by
  cases e with
  | cmdSpin data => exact h.stored msg hstored
  | localPlan now => exact h.stored msg hstored
  | odometry yaw now =>
      rw [step, odometryCallback] at hstored
      split at hstored <;> exact h.stored msg hstored
  | sync yaw =>
      rw [step, syncCallback] at hstored
      split at hstored <;> exact h.stored msg hstored
  | cmdVel received now =>
      rw [step, cmdVelCallback_eq h.tracks] at hstored
      cases hdirect : publishedDirectly past received now with
      | true =>
          rw [hdirect] at hstored
          exact List.mem_cons_of_mem received (h.stored msg hstored)
      | false =>
          rw [hdirect] at hstored
          obtain rfl : received = msg := Option.some.inj hstored
          exact List.mem_cons_self

/-- Once set, the angle is the yaw of a message received. -/
lemma Sources.angle_step (h : Sources past s) (e : Event K) (hset : angleSet (e :: past) = true) :
    (step m narrow s e).1.currentRobotBaseAngle ∈ yaws (e :: past) := by
  cases e with
  | cmdSpin data => exact h.angle hset
  | localPlan now => exact h.angle hset
  | odometry yaw now =>
      rw [angleSet] at hset
      rw [yaws, step, odometryCallback, h.tracks.activation]
      cases hout : timedOut (lastActivation past) now with
      | true => exact List.mem_cons_self
      | false =>
          rw [hout, Bool.false_or] at hset
          exact List.mem_cons_of_mem yaw (h.angle hset)
  | sync yaw =>
      rw [angleSet] at hset
      rw [yaws, step, syncCallback]
      cases hstored : s.latestCmdVel with
      | none =>
          have hnone : someWaited past = false :=
            Bool.eq_false_of_not_eq_true fun hwaited => h.waiting hwaited hstored
          rw [hnone, Bool.false_or] at hset
          exact List.mem_cons_of_mem yaw (h.angle hset)
      | some msg => exact List.mem_cons_self
  | cmdVel msg now =>
      rw [step, cmdVelCallback_eq h.tracks]
      split <;> exact h.angle hset

/-- Every callback keeps to what the node has been told. -/
lemma Sources.step (h : Sources past s) (e : Event K) :
    Sources (e :: past) (step m narrow s e).1 :=
  ⟨h.tracks.step e, h.waiting_step e, h.stored_step e, h.angle_step e⟩

omit [LinearOrder K] in
lemma turned_of_zero (m : Libm K) (angle : K) {v : Vector3 K} (hx : v.x = 0) (hy : v.y = 0) :
    turned m angle v = (0, 0) := by
  simp [turned, hx, hy]

lemma step_turnedByOdometry {past : Past (Event K) (Twist K)} (h : Sources past.events s)
    (e : Event K) (htime : AngleInTime past s e) {sooner : List (Twist K)} {o : Twist K}
    (ho : o ∈ (step m narrow s e).2) :
    TurnedByOdometry m narrow ⟨past.step e sooner, s, (step m narrow s e).1, o⟩ := by
  cases e with
  | cmdSpin data => exact absurd ho List.not_mem_nil
  | localPlan now => exact absurd ho List.not_mem_nil
  | odometry yaw now => exact absurd ho List.not_mem_nil
  | cmdVel msg now =>
      rw [FakeVelTransform.step, cmdVelCallback_eq h.tracks] at ho
      split at ho
      · next hdirect =>
          obtain rfl := List.mem_singleton.mp ho
          rcases htime hdirect with hset | ⟨hx, hy, hyaws⟩
          · exact ⟨msg, List.mem_cons_self, _, h.angle hset, rfl⟩
          · -- a zero velocity is the same in every direction
            obtain ⟨yaw, hyaw⟩ := List.exists_mem_of_ne_nil _ hyaws
            refine ⟨msg, List.mem_cons_self, yaw, hyaw, ?_⟩
            exact (turned_of_zero m _ hx hy).trans (turned_of_zero m _ hx hy).symm
      · exact absurd ho List.not_mem_nil
  | sync yaw =>
      rw [FakeVelTransform.step, syncCallback] at ho
      cases hstored : s.latestCmdVel with
      | none =>
          rw [hstored] at ho
          exact absurd ho List.not_mem_nil
      | some msg =>
          rw [hstored] at ho
          obtain rfl := List.mem_singleton.mp ho
          exact ⟨msg, h.stored msg hstored, yaw, List.mem_cons_self, rfl⟩

/-- **No velocity before odometry.**  In every run, whatever the angle contains at first, in which
no command is published directly before an odometry message has set the angle, commands without a
linear part apart, everything published is a command received, rotated by minus a yaw received. -/
theorem turned_by_odometry (m : Libm K) (narrow : K → K) (initSpinSpeed angle : K)
    (events : List (Event K))
    (htime : Admissible (step m narrow) AngleInTime .start (State.init initSpinSpeed angle)
      events) :
    ∀ e ∈ emissions (step m narrow) .start (State.init initSpinSpeed angle) events,
      TurnedByOdometry m narrow e := by
  refine emissions_safe (fun past s => Sources past.events s) (TurnedByOdometry m narrow)
    (fun _ _ e h _ => h.step e) (fun past s e h hg sooner o later ho => ?_) events .start _
    (sources_init initSpinSpeed angle) htime
  exact step_turnedByOdometry h e hg (ho ▸ List.mem_append_right sooner List.mem_cons_self)

end Invariant

/-! ## Two runs -/

lemma step_odometry : step realLibm id (State.init 0 0) (.odometry 0 1000000000)
    = (⟨0, none, 0, 0⟩, []) := rfl

/-- Nothing has been heard of a controller for a second, so a command is published directly. -/
lemma step_forward_directly (angle : ℝ) :
    step realLibm id ⟨0, none, angle, 0⟩ (.cmdVel forward 1100000000)
      = (⟨0, none, angle, 0⟩, [transformVelocity realLibm 0 forward angle]) := by
  rw [step, cmdVelCallback, isZeroVel_forward]
  rfl

/-- Odometry comes first, and then a command. -/
theorem turned_by_odometry_forward :
    ∃ e ∈ emissions (step realLibm id) .start (State.init 0 0)
        [.odometry 0 1000000000, .cmdVel forward 1100000000],
      e.output = transformVelocity realLibm 0 forward 0 ∧ TurnedByOdometry realLibm id e := by
  have htime : Admissible (step realLibm id) AngleInTime .start (State.init 0 0)
      [.odometry 0 1000000000, .cmdVel forward 1100000000] :=
    ⟨trivial, fun _ => .inl rfl, trivial⟩
  have hturned := turned_by_odometry realLibm id 0 0 _ htime
  rw [emissions_cons step_odometry, emissions_cons (step_forward_directly 0)] at hturned ⊢
  exact ⟨_, List.mem_cons_self, rfl, hturned _ List.mem_cons_self⟩

/-- **A command is turned by nothing.**  The first message is a command, and is published, turned by
an angle that no odometry has set. -/
theorem turned_by_nothing :
    ¬ ∀ (initSpinSpeed angle : ℝ) (events : List (Event ℝ)),
      ∀ e ∈ emissions (step realLibm id) .start (State.init initSpinSpeed angle) events,
        TurnedByOdometry realLibm id e := by
  intro hturned
  have hrun := hturned 0 1 [.cmdVel forward 1100000000]
  have hfirst : step realLibm id (State.init 0 1) (.cmdVel forward 1100000000) = _ :=
    step_forward_directly 1
  rw [emissions_cons hfirst] at hrun
  obtain ⟨msg, -, yaw, hyaw, -⟩ := hrun _ List.mem_cons_self
  exact absurd hyaw List.not_mem_nil

end SentryNav.FakeVelTransform
