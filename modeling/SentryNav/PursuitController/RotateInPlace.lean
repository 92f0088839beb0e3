import SentryNav.PursuitController.FreshStart
import SentryNav.PursuitController.LookAhead
import SentryNav.PursuitController.SpeedEnvelope

/-!
# Rotating in place

When the plan ends in a heading too far from that of the robot, the controller sets the distance to
go to zero, so that the robot turns before it drives.  But a PID controller without an error still
has its memory: the integral, and the error of the cycle before.  The robot stands still while it
turns just when the two come to nothing.

`rotates_in_place` says so for all runs; that it is also necessary takes a positive floor under the
speed, as declared.  `drives_while_rotating` is a run with the declared parameters in which the
robot drives backwards at full speed.
-/

namespace SentryNav.PursuitController

open Limiter Machine

section Defs

variable {K : Type*} [Field K] [LinearOrder K]

/-- The heading at the end of the plan is too far from that of the robot. -/
def Rotating (nav2 : Nav2 K) (p : Params K) (plan : Path K) : Prop :=
  p.useRotateToHeading = true ∧ p.useRotateToHeadingTreshold
    < |nav2.getYaw (plan.poses.getLast?.getD default).pose.orientation|

instance (nav2 : Nav2 K) (p : Params K) (plan : Path K) : Decidable (Rotating nav2 p plan) :=
  inferInstanceAs (Decidable (_ ∧ _))

/-- A command that is given while the robot is to rotate has no linear part. -/
def Cycle.RotatesInPlace (nav2 : Nav2 K) (p : Params K) : Cycle K → Prop
  | .driven plan _ (.ok cmd) => Rotating nav2 p plan → cmd.twist.linear = ⟨0, 0, 0⟩
  | _ => True

instance (nav2 : Nav2 K) (p : Params K) : (cycle : Cycle K) →
    Decidable (cycle.RotatesInPlace nav2 p)
  | .driven plan _ (.ok cmd) =>
      inferInstanceAs (Decidable (Rotating nav2 p plan → cmd.twist.linear = ⟨0, 0, 0⟩))
  | .driven _ _ (.error _) => inferInstanceAs (Decidable True)
  | .unplanned _ => inferInstanceAs (Decidable True)

/-- The integral and the derivative that a PID controller remembers cancel out, once its output is
restricted. -/
def PID.AtRest (pid : PID K) : Prop :=
  pid.restrict (pid.ki * pid.integral - pid.kd * (pid.preError / pid.dt)) = 0

/-- Before a cycle in which the robot is to rotate, and is not in a collision, the memory of
`move_pid_` is at rest; and the floor under the speed is not negative. -/
def SettledBefore (nav2 : Nav2 K) (p : Params K) (c : Controller K) : Call K → Prop
  | .setPlan _ => True
  | .computeVelocityCommands i =>
      ∀ plan c', transformGlobalPlan nav2 i c = (.ok plan, c') → Rotating nav2 p plan →
        isCollisionDetected i.costmap (costmapFrameLocalPlan i p plan) = false →
          0 ≤ p.minApproachLinearVelocity ∧ c.movePid.AtRest

omit [LinearOrder K] in
/-- Without an error only the memory is left. -/
lemma PID.rawOutput_zero (pid : PID K) :
    pid.rawOutput 0 = pid.ki * pid.integral - pid.kd * (pid.preError / pid.dt) := by
  simp only [PID.rawOutput]
  ring

lemma PID.calculate_zero (pid : PID K) : (pid.calculate 0 0).1 = 0 ↔ pid.AtRest := by
  rw [PID.AtRest, ← PID.rawOutput_zero]
  simp only [PID.calculate, sub_zero]

end Defs

/-! ## One cycle -/

section Cycle

variable {K : Type*} [Field K] [LinearOrder K] [IsStrictOrderedRing K] {p : Params K} {m : Libm K}
  {nav2 : Nav2 K}

/-- A speed that is not positive passes the limiters. -/
lemma limited_of_nonpos (hfloor : 0 ≤ p.minApproachLinearVelocity) (path : Path K)
    (last curvature : K) {v : K} (hv : v ≤ 0) :
    applyApproachVelocityScaling m nav2 p path (applyCurvatureLimitation p last curvature v)
      = v := by
  have hbelow : v ≤ 2 * p.minApproachLinearVelocity := by linarith
  rw [applyCurvatureLimitation_eq, cap_of_le _ hbelow]
  exact applyApproachVelocityScaling_of_le path (hv.trans hfloor)

/-- A positive floor keeps a positive speed positive. -/
lemma limited_pos (hfloor : 0 < p.minApproachLinearVelocity) (path : Path K) (last curvature : K)
    {v : K} (hv : 0 < v) :
    0 < applyApproachVelocityScaling m nav2 p path
      (applyCurvatureLimitation p last curvature v) := by
  have hcurvature : 0 < applyCurvatureLimitation p last curvature v := by
    rw [applyCurvatureLimitation_eq]
    exact (lt_min hv (by linarith)).trans_le (le_cap_floor _ _ _)
  exact (lt_min hcurvature hfloor).trans_le (applyApproachVelocityScaling_bounds path _).1

omit [IsStrictOrderedRing K] in
/-- While the robot is to rotate, `move_pid_` gets no error. -/
lemma pidVel_rotating (m : Libm K) {c : Controller K} (velocity : Twist K) {plan : Path K}
    (h : Rotating nav2 c.params plan) :
    (computeDrive m nav2 velocity plan c).1.pidVel = (c.movePid.calculate 0 0).1 := by
  simp only [computeDrive, h.1, if_true, Bool.true_and, decide_eq_true h.2]

/-- So the speed is zero if the memory of `move_pid_` is at rest. -/
lemma linVel_of_atRest {c : Controller K} (hfloor : 0 ≤ c.params.minApproachLinearVelocity)
    (hrest : c.movePid.AtRest) {velocity : Twist K} {plan : Path K}
    (h : Rotating nav2 c.params plan) : (computeDrive m nav2 velocity plan c).1.linVel = 0 := by
  have hpid := (pidVel_rotating m velocity h).trans
    (c.movePid.calculate_zero.mpr hrest)
  exact (limited_of_nonpos hfloor plan _ _ hpid.le).trans hpid

/-- With a positive floor, only then. -/
lemma atRest_of_linVel {c : Controller K} (hfloor : 0 < c.params.minApproachLinearVelocity)
    {velocity : Twist K} {plan : Path K} (h : Rotating nav2 c.params plan)
    (hzero : (computeDrive m nav2 velocity plan c).1.linVel = 0) : c.movePid.AtRest := by
  rw [← PID.calculate_zero, ← pidVel_rotating m velocity h]
  rcases le_or_gt (computeDrive m nav2 velocity plan c).1.pidVel 0 with hbackward | hforward
  · exact (limited_of_nonpos hfloor.le plan _ _ hbackward).symm.trans hzero
  · exact absurd hzero (limited_pos hfloor plan _ _ hforward).ne'

end Cycle

/-! ## Histories -/

section History

variable {p : Params ℝ} {nav2 : Nav2 ℝ} {c : Controller ℝ}

/-- The linear part of a command is zero just when the speed is. -/
lemma linear_eq_zero_iff {i : CycleInput ℝ} {plan : Path ℝ} {drive : Drive ℝ}
    {cmd : TwistStamped ℝ} (h : command realLibm i p plan drive = .ok cmd) :
    cmd.twist.linear = ⟨0, 0, 0⟩ ↔ drive.linVel = 0 := by
  have hnorm := norm_command h
  rw [command] at h
  split at h
  · exact absurd h (by simp)
  · obtain rfl := Except.ok.inj h
    constructor
    · intro hzero
      rw [Vector3.mk.injEq] at hzero
      simpa [hzero.1, hzero.2.1] using hnorm.symm
    · intro hzero
      simp [hzero]

/-- **What a cycle owes**: if it drives on a plan and the robot is to rotate, a command that it
gives is without a linear part just when the speed is zero. -/
lemma rotatesInPlace_iff {plan : Path ℝ} {c' : Controller ℝ} {i : CycleInput ℝ}
    (h : transformGlobalPlan nav2 i c = (.ok plan, c')) (hparams : c.params = p) :
    (runCycle realLibm nav2 i c).1.RotatesInPlace nav2 p ↔
      (Rotating nav2 p plan →
        isCollisionDetected i.costmap (costmapFrameLocalPlan i p plan) = false →
          (computeDrive realLibm nav2 i.velocity plan c').1.linVel = 0) := by
  rw [runCycle_driven realLibm h, hparams]
  cases hcommand : command realLibm i p plan
      (computeDrive realLibm nav2 i.velocity plan c').1 with
  | error reason =>
      refine iff_of_true trivial fun _ hfree => ?_
      obtain ⟨cmd, hok⟩ := (command_ok_iff (m := realLibm)).mpr hfree
      exact absurd (hcommand.symm.trans hok) (by simp)
  | ok cmd =>
      have hfree : isCollisionDetected i.costmap (costmapFrameLocalPlan i p plan) = false :=
        command_ok_iff.mp ⟨cmd, hcommand⟩
      simp only [Cycle.RotatesInPlace, linear_eq_zero_iff hcommand, hfree, forall_const]

/-- A cycle on a settled memory rotates in place. -/
lemma rotatesInPlace_of_settled {i : CycleInput ℝ} (hparams : c.params = p)
    (h : SettledBefore nav2 p c (.computeVelocityCommands i)) :
    (runCycle realLibm nav2 i c).1.RotatesInPlace nav2 p := by
  obtain ⟨globalPlan, hkeeps⟩ := transformGlobalPlan_keeps nav2 i c
  rcases htransform : transformGlobalPlan nav2 i c with ⟨result, c'⟩
  rw [htransform] at hkeeps
  obtain rfl : c' = { c with globalPlan := globalPlan } := hkeeps
  cases result with
  | error reason =>
      rw [runCycle_unplanned realLibm htransform]
      trivial
  | ok plan =>
      rw [rotatesInPlace_iff htransform hparams]
      intro hrotating hfree
      obtain ⟨hfloor, hrest⟩ := h plan _ htransform hrotating hfree
      subst hparams
      exact linVel_of_atRest (c := { c with globalPlan := globalPlan }) hfloor hrest hrotating

/-- With a positive floor, it rotates in place on a settled memory only. -/
lemma settled_of_rotatesInPlace {i : CycleInput ℝ} (hfloor : 0 < p.minApproachLinearVelocity)
    (hparams : c.params = p) (h : (runCycle realLibm nav2 i c).1.RotatesInPlace nav2 p) :
    SettledBefore nav2 p c (.computeVelocityCommands i) := by
  intro plan c' htransform hrotating hfree
  rw [rotatesInPlace_iff htransform hparams] at h
  obtain ⟨globalPlan, hkeeps⟩ := transformGlobalPlan_keeps nav2 i c
  rw [htransform] at hkeeps
  obtain rfl : c' = { c with globalPlan := globalPlan } := hkeeps
  subst hparams
  exact ⟨hfloor.le, atRest_of_linVel (c := { c with globalPlan := globalPlan }) hfloor hrotating
    (h hrotating hfree)⟩

/-- **When the robot rotates in place**: in every history of plans and cycles in which the memory of
`move_pid_` is at rest whenever the robot is to rotate, no command that is given then has a linear
part.  With a positive floor under the speed these are the only such histories. -/
theorem rotates_in_place (p : Params ℝ) (nav2 : Nav2 ℝ) (c : Controller ℝ)
    (calls : List (Call ℝ)) :
    (Admissible (call realLibm nav2) (fun _ => SettledBefore nav2 p) .start (configure p c) calls →
        ∀ e ∈ emissions (call realLibm nav2) .start (configure p c) calls,
          e.output.RotatesInPlace nav2 p) ∧
      (0 < p.minApproachLinearVelocity →
        (∀ e ∈ emissions (call realLibm nav2) .start (configure p c) calls,
          e.output.RotatesInPlace nav2 p) →
        Admissible (call realLibm nav2) (fun _ => SettledBefore nav2 p) .start (configure p c)
          calls) := by
  have hkeep : ∀ past c x, Carries p past c →
      Carries p (past.step x (call realLibm nav2 c x).2) (call realLibm nav2 c x).1 :=
    fun past c x hcarries => hcarries.call x
  constructor
  · refine cycles_safe (Carries p) (fun e => e.output.RotatesInPlace nav2 p)
      (fun past c x hcarries _ => hkeep past c x hcarries) ?_ (carries_configure p c)
    intro past c i hcarries hsettled
    exact rotatesInPlace_of_settled hcarries.params hsettled
  · intro hfloor
    refine (emissions_good_iff (Carries p) (fun e => e.output.RotatesInPlace nav2 p) hkeep ?_ calls
      .start (configure p c) (carries_configure p c)).mp
    intro past c x hcarries
    rw [forall_mem_sent_call]
    cases x with
    | setPlan path => exact iff_of_true (fun i hi => absurd hi nofun) trivial
    | computeVelocityCommands i =>
        constructor
        · exact fun hgood => settled_of_rotatesInPlace hfloor hcarries.params (hgood i rfl)
        · rintro hsettled i' hi'
          obtain rfl := Call.computeVelocityCommands.inj hi'
          exact rotatesInPlace_of_settled hcarries.params hsettled

end History

/-! ### A turn after a straight line -/

/-- **The robot drives while it is to rotate**: with the parameters as declared it goes one cycle
towards a pose a metre ahead, and then gets a plan that ends looking back. -/
theorem drives_while_rotating :
    ¬ ∀ e ∈ emissions (call exactLibm turnedBack) .start (configuredWith (.declared 20 2.5) ahead)
        [.computeVelocityCommands onFreeMap, .setPlan (planOf [backAt 1 0]),
          .computeVelocityCommands onFreeMap],
      e.output.RotatesInPlace turnedBack (.declared 20 2.5) := by
  decide +kernel

end SentryNav.PursuitController
