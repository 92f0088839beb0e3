import SentryNav.Core.Machine
import SentryNav.Nav2Plugins.BackUpFreeSpace
import SentryNav.RealMath

/-!
# Runs of `BackUpFreeSpace`

What the behaviour does to the robot from a successful `onRun` on.

* **How it ends.**  Three of the four ends of `onCycleUpdate` stop the robot; the one for a missing
  pose does not.  `finished_stopped_iff` says which runs leave the robot stopped all the same, and
  `moving_robot_abandoned` is one that does not.
* **Where it goes.**  The free direction is found in the global frame, but its cosine and sine are
  published as a velocity in the frame of the robot.  `published_along_best_iff` says when the robot
  goes in the direction found, and `sideways` is a run in which it does not.
-/

namespace SentryNav.Nav2Plugins.BackUpFreeSpace

open Machine

section Finish

variable {K : Type*} [Field K] [LinearOrder K] [FloorRing K]

/-- A cycle, as a step of the behaviour: it changes no member that is modelled. -/
def cycle (m : Libm K) (s : State K) (call : CycleCall K) : State K × List (Output K) :=
  (s, onCycleUpdate m s call)

/-- The last velocity command is a stop.  Outputs are newest first. -/
def LeftStopped : List (Output K) → Prop
  | [] => False
  | .stopRobot :: _ => True
  | .cmdVel twist :: _ => twist = default
  | .feedback _ :: past => LeftStopped past
  | .returned _ :: past => LeftStopped past

/-- If the behaviour returns that it has ended, the last velocity command issued is a stop. -/
def FinishedStopped (e : Emission (State K) (CycleCall K) (Output K)) : Prop :=
  ∀ status, e.output = .returned status → status ≠ .running → LeftStopped e.past.outputs

/-- The current pose is found, unless it is not asked for or the last command was a stop already. -/
def PoseWhileMoving (past : Past (CycleCall K) (Output K)) (s : State K) (call : CycleCall K) :
    Prop :=
  outOfTime s call = true ∨ call.currentPose.isSome = true ∨ LeftStopped past.outputs

variable {m : Libm K} {s : State K} {call : CycleCall K}

omit [FloorRing K] in
/-- What a cycle does, by where it ends. -/
lemma onCycleUpdate_cases (m : Libm K) (s : State K) (call : CycleCall K) :
    (outOfTime s call = true ∧ onCycleUpdate m s call = [.stopRobot, .returned .failed]) ∨
    (outOfTime s call = false ∧ call.currentPose = none ∧
      onCycleUpdate m s call = [.returned .failed]) ∨
    (∃ pose distance, outOfTime s call = false ∧ call.currentPose = some pose ∧
      ∃ status ≠ Status.running,
        onCycleUpdate m s call = [.feedback distance, .stopRobot, .returned status]) ∨
    (∃ pose distance, outOfTime s call = false ∧ call.currentPose = some pose ∧
      onCycleUpdate m s call = [.feedback distance, .cmdVel (cmdVel s), .returned .running]) := by
  rw [onCycleUpdate]
  cases htime : outOfTime s call with
  | true => exact .inl ⟨rfl, rfl⟩
  | false =>
      cases hpose : call.currentPose with
      | none => exact .inr (.inl ⟨rfl, rfl, rfl⟩)
      | some pose =>
          rw [if_neg Bool.false_ne_true]
          dsimp only
          split
          · exact .inr (.inr (.inl ⟨pose, _, rfl, rfl, .succeeded, nofun, rfl⟩))
          · split
            · exact .inr (.inr (.inl ⟨pose, _, rfl, rfl, .failed, nofun, rfl⟩))
            · exact .inr (.inr (.inr ⟨pose, _, rfl, rfl, rfl⟩))

omit [FloorRing K] in
/-- A cycle ends with the robot stopped, or does not end the behaviour, just when the current pose
is found while it matters. -/
lemma cycle_finishedStopped_iff (past : Past (CycleCall K) (Output K)) :
    (∀ e ∈ sent past s call (cycle m s call).1 (cycle m s call).2, FinishedStopped e) ↔
      PoseWhileMoving past s call := by
  rw [cycle, PoseWhileMoving]
  rcases onCycleUpdate_cases m s call with ⟨htime, heq⟩ | ⟨htime, hpose, heq⟩ |
    ⟨pose, distance, htime, hpose, status, hstatus, heq⟩ | ⟨pose, distance, htime, hpose, heq⟩
  · simp [heq, htime, sent, FinishedStopped, LeftStopped, Past.step]
  · simp [heq, htime, hpose, sent, FinishedStopped, Past.step]
  · simp [heq, htime, hpose, sent, FinishedStopped, LeftStopped, Past.step]
  · simp [heq, htime, hpose, sent, FinishedStopped, LeftStopped, Past.step]

/-- **When a finished back-up leaves the robot stopped.**  From a successful `onRun` on, every
`SUCCEEDED` or `FAILED` comes with a stop as the last velocity command, just when the current pose
is found in every cycle in which the time is not used up and the last command was not a stop. -/
theorem finished_stopped_iff (m : Libm K) (s : State K) (call : RunCall K)
    (cycles : List (CycleCall K)) :
    ((onRun m s call).2 = .succeeded →
      ∀ e ∈ emissions (cycle m) .start (onRun m s call).1 cycles, FinishedStopped e) ↔
    ((onRun m s call).2 = .succeeded →
      Admissible (cycle m) PoseWhileMoving .start (onRun m s call).1 cycles) := by
  refine imp_congr_right fun _ => ?_
  exact emissions_good_iff (fun _ _ => True) FinishedStopped (fun _ _ _ _ => trivial)
    (fun past s call _ => cycle_finishedStopped_iff past) cycles .start _ trivial

end Finish

/-! ## A robot that is left moving -/

/-- A costmap without obstacles. -/
def freeMap : Costmap ℝ := ⟨1, 0, 0, 10, 10, fun _ => 0, one_pos⟩

/-- A call of `onRun` in the middle of it, to back up by one metre at one metre per second. -/
def backUpCall (theta : ℝ) : RunCall ℝ where
  command := ⟨1, 1, 0⟩
  serviceReady := true
  costmap := some freeMap
  pose := some ⟨5, 5, theta⟩
  now := 0
  initialPose := some ⟨5, 5, theta⟩

/-- Members that have not been set. -/
def idle : State ℝ := ⟨1, ⟨0, 0, 0⟩, 0, 0, 0, 0, 0⟩

/-- The members after the call. -/
noncomputable def backingUp (theta : ℝ) : State ℝ :=
  let best := bestAngle realLibm freeMap ⟨5, 5, theta⟩ 1
  ⟨1, ⟨5, 5, theta⟩, Real.cos best * 1, Real.sin best * 1, 1, 0, 0 + 0⟩

lemma onRun_backUpCall (theta : ℝ) :
    onRun realLibm idle (backUpCall theta) = (backingUp theta, .succeeded) := rfl

/-- A cycle at a pose, or without one. -/
def cycleAt (pose : Option (Pose2D ℝ)) : CycleCall ℝ := ⟨0, pose, fun _ _ _ => true⟩

/-- The robot, where it started, is told to move. -/
lemma onCycleUpdate_start (theta : ℝ) :
    onCycleUpdate realLibm (backingUp theta) (cycleAt (some ⟨5, 5, theta⟩))
      = [.feedback 0, .cmdVel (cmdVel (backingUp theta)), .returned .running] := by
  have htime : outOfTime (backingUp theta) (cycleAt (some ⟨5, 5, theta⟩)) = false := by
    simp [outOfTime, backingUp, cycleAt]
  have hstart : realLibm.hypot (5 - 5) (5 - 5) = 0 := by simp [realLibm]
  have hfar : ¬ |(1 : ℝ)| ≤ 0 := by norm_num
  rw [onCycleUpdate, htime, if_neg Bool.false_ne_true]
  simp only [cycleAt, backingUp, hstart, hfar, if_false, Bool.not_true, Bool.false_eq_true]

lemma onCycleUpdate_lost (theta : ℝ) :
    onCycleUpdate realLibm (backingUp theta) (cycleAt none) = [.returned .failed] := by
  simp [onCycleUpdate, outOfTime, backingUp, cycleAt]

/-- A velocity of one metre per second is not a stop. -/
lemma cmdVel_backingUp_ne (theta : ℝ) : cmdVel (backingUp theta) ≠ default := by
  intro hstop
  have hlinear := congrArg Twist.linear hstop
  have hx : Real.cos (bestAngle realLibm freeMap ⟨5, 5, theta⟩ 1) * 1 = 0 :=
    congrArg Vector3.x hlinear
  have hy : Real.sin (bestAngle realLibm freeMap ⟨5, 5, theta⟩ 1) * 1 = 0 :=
    congrArg Vector3.y hlinear
  rw [mul_one] at hx hy
  have hunit := Real.cos_sq_add_sin_sq (bestAngle realLibm freeMap ⟨5, 5, theta⟩ 1)
  rw [hx, hy] at hunit
  norm_num at hunit

/-- **A moving robot is abandoned.**  The robot is told to move, then its pose is lost, and the
behaviour fails without stopping it. -/
theorem moving_robot_abandoned :
    ¬ ∀ (s : State ℝ) (call : RunCall ℝ) (cycles : List (CycleCall ℝ)),
      (onRun realLibm s call).2 = .succeeded →
      ∀ e ∈ emissions (cycle realLibm) .start (onRun realLibm s call).1 cycles,
        FinishedStopped e := by
  intro hstopped
  have hrun := hstopped idle (backUpCall 0) [cycleAt (some ⟨5, 5, 0⟩), cycleAt none] rfl
  have hstart : cycle realLibm (backingUp 0) (cycleAt (some ⟨5, 5, 0⟩)) = _ :=
    congrArg (Prod.mk _) (onCycleUpdate_start 0)
  have hlost : cycle realLibm (backingUp 0) (cycleAt none) = _ :=
    congrArg (Prod.mk _) (onCycleUpdate_lost 0)
  rw [onRun_backUpCall, emissions_cons hstart, emissions_cons hlost] at hrun
  have hfailed := hrun _ (List.mem_append_right _ List.mem_cons_self) .failed rfl nofun
  exact cmdVel_backingUp_ne 0 hfailed

/-! ## The direction -/

/-- A velocity given in the frame of the robot, turned into the global frame. -/
noncomputable def toGlobal (theta : ℝ) (v : Vector3 ℝ) : ℝ × ℝ :=
  (Real.cos theta * v.x - Real.sin theta * v.y, Real.sin theta * v.x + Real.cos theta * v.y)

/-- A speed times the unit vector at an angle. -/
noncomputable def along (speed angle : ℝ) : ℝ × ℝ :=
  (speed * Real.cos angle, speed * Real.sin angle)

/-- A vector is turned into itself if it is zero or turned by full turns. -/
lemma toGlobal_eq_along_iff (theta speed angle : ℝ) :
    toGlobal theta ⟨Real.cos angle * speed, Real.sin angle * speed, 0⟩ = along speed angle ↔
      speed = 0 ∨ ∃ turns : ℤ, (turns : ℝ) * (2 * Real.pi) = theta := by
  have hunit := Real.cos_sq_add_sin_sq angle
  rw [toGlobal, along, Prod.mk.injEq, ← Real.cos_eq_one_iff]
  constructor
  · rintro ⟨hx, hy⟩
    have hprod : speed * (Real.cos theta - 1) = 0 := by
      calc speed * (Real.cos theta - 1)
          = speed * (Real.cos theta - 1) * (Real.cos angle ^ 2 + Real.sin angle ^ 2) := by
            rw [hunit, mul_one]
        _ = 0 := by linear_combination Real.cos angle * hx + Real.sin angle * hy
    rcases mul_eq_zero.mp hprod with hspeed | hcos
    · exact .inl hspeed
    · exact .inr (sub_eq_zero.mp hcos)
  · rintro (rfl | hcos)
    · simp
    · have hsin : Real.sin theta = 0 := by
        have hsquare := Real.sin_sq_add_cos_sq theta
        rw [hcos] at hsquare
        nlinarith
      rw [hcos, hsin]
      constructor
      · ring
      · ring

/-- What a successful `onRun` has got and set. -/
lemma onRun_succeeded {K : Type*} [Field K] [LinearOrder K] [FloorRing K] {m : Libm K}
    {s : State K} {call : RunCall K} (h : (onRun m s call).2 = .succeeded) :
    ∃ costmap pose, call.costmap = some costmap ∧ call.pose = some pose ∧
      (onRun m s call).1.twistX
        = m.cos (bestAngle m costmap pose s.maxRadius) * call.command.speed ∧
      (onRun m s call).1.twistY
        = m.sin (bestAngle m costmap pose s.maxRadius) * call.command.speed := by
  obtain ⟨command, ready, costmap, pose, now, initialPose⟩ := call
  rw [onRun] at h ⊢
  cases ready with
  | false => exact absurd h nofun
  | true =>
      cases costmap with
      | none => exact absurd h nofun
      | some costmap =>
          cases pose with
          | none => exact absurd h nofun
          | some pose =>
              cases initialPose with
              | none => exact absurd h nofun
              | some initialPose => exact ⟨costmap, pose, rfl, rfl, rfl, rfl⟩

/-- What a cycle publishes is what `onRun` prepared. -/
lemma eq_of_cmdVel_mem {K : Type*} [Field K] [LinearOrder K] {m : Libm K} {s : State K}
    {call : CycleCall K} {twist : Twist K} (h : .cmdVel twist ∈ onCycleUpdate m s call) :
    twist = cmdVel s := by
  rcases onCycleUpdate_cases m s call with ⟨-, heq⟩ | ⟨-, -, heq⟩ |
    ⟨pose, distance, -, -, status, -, heq⟩ | ⟨pose, distance, -, -, heq⟩
  · simp [heq] at h
  · simp [heq] at h
  · simp [heq] at h
  · simpa [heq] using h

/-- **When the robot goes in the direction found.**  The velocity published, in the global frame, is
along the direction that `findBestDirection` has found just when there is no speed or the robot's
frame is not turned against the global one. -/
theorem published_along_best_iff (s : State ℝ) (call : RunCall ℝ) {costmap : Costmap ℝ}
    {pose : Pose2D ℝ} (hrun : (onRun realLibm s call).2 = .succeeded)
    (hcostmap : call.costmap = some costmap) (hpose : call.pose = some pose)
    (now : ℤ) (current : Pose2D ℝ) (free : ℝ → Twist ℝ → Pose2D ℝ → Bool) {twist : Twist ℝ}
    (htwist : .cmdVel twist ∈
      onCycleUpdate realLibm (onRun realLibm s call).1 ⟨now, some current, free⟩) :
    toGlobal current.theta twist.linear
        = along call.command.speed (bestAngle realLibm costmap pose s.maxRadius) ↔
      call.command.speed = 0 ∨ ∃ turns : ℤ, (turns : ℝ) * (2 * Real.pi) = current.theta := by
  obtain ⟨costmap', pose', hcostmap', hpose', hx, hy⟩ := onRun_succeeded hrun
  obtain rfl : costmap = costmap' := Option.some.inj (hcostmap.symm.trans hcostmap')
  obtain rfl : pose = pose' := Option.some.inj (hpose.symm.trans hpose')
  rw [eq_of_cmdVel_mem htwist, cmdVel, hx, hy]
  exact toGlobal_eq_along_iff _ _ _

/-- A robot that is not turned goes in the direction found. -/
theorem published_along_best_unturned :
    toGlobal 0 (cmdVel (backingUp 0)).linear
      = along 1 (bestAngle realLibm freeMap ⟨5, 5, 0⟩ 1) := by
  have htwist : Output.cmdVel (cmdVel (backingUp 0)) ∈
      onCycleUpdate realLibm (onRun realLibm idle (backUpCall 0)).1 (cycleAt (some ⟨5, 5, 0⟩)) := by
    rw [onRun_backUpCall, onCycleUpdate_start]
    simp
  exact (published_along_best_iff idle (backUpCall 0) rfl rfl rfl 0 ⟨5, 5, 0⟩ _ htwist).mpr
    (.inr ⟨0, by simp⟩)

/-- **A robot that is turned goes sideways.**  With the robot turned by a quarter, the velocity
published does not go in the direction found. -/
theorem sideways :
    ¬ ∀ (s : State ℝ) (call : RunCall ℝ) (costmap : Costmap ℝ) (pose : Pose2D ℝ),
      (onRun realLibm s call).2 = .succeeded → call.costmap = some costmap →
      call.pose = some pose →
      ∀ (now : ℤ) (current : Pose2D ℝ) (free : ℝ → Twist ℝ → Pose2D ℝ → Bool) (twist : Twist ℝ),
        .cmdVel twist ∈
          onCycleUpdate realLibm (onRun realLibm s call).1 ⟨now, some current, free⟩ →
        toGlobal current.theta twist.linear
          = along call.command.speed (bestAngle realLibm costmap pose s.maxRadius) := by
  intro hdirection
  have htwist : Output.cmdVel (cmdVel (backingUp (Real.pi / 2))) ∈
      onCycleUpdate realLibm (onRun realLibm idle (backUpCall (Real.pi / 2))).1
        (cycleAt (some ⟨5, 5, Real.pi / 2⟩)) := by
    rw [onRun_backUpCall, onCycleUpdate_start]
    simp
  have hrun := hdirection idle (backUpCall (Real.pi / 2)) freeMap ⟨5, 5, Real.pi / 2⟩ rfl rfl rfl
    0 ⟨5, 5, Real.pi / 2⟩ _ _ htwist
  rcases (toGlobal_eq_along_iff _ _ _).mp hrun with hspeed | hturns
  · exact one_ne_zero hspeed
  · rw [← Real.cos_eq_one_iff, Real.cos_pi_div_two] at hturns
    exact zero_ne_one hturns

end SentryNav.Nav2Plugins.BackUpFreeSpace
