import SentryNav.PursuitController.FreshStart
import SentryNav.Core.Machine
import Mathlib.Algebra.Order.Field.Basic

/-!
# The accumulated error

A PID controller adds `error * dt` to its integral, uses the sum, and only then holds it to
`[-1, 1]` for the next cycle; the bound that is configured, `min_max_sum_error`, does not reach it.
So what is multiplied by `ki` in a cycle is the held sum of the cycles before and the whole step of
this one.

`sums_within_iff` says for all runs when these values are within the configured bound, in terms of
the errors alone; `sums_within_of_small` is a bound on the single errors that is enough.
-/

namespace SentryNav.PursuitController

open Limiter Machine

section Sums

variable {K : Type*} [Field K] [LinearOrder K]

/-- The accumulated error that is multiplied by `ki` in a call of `calculate` with an error. -/
def PID.sumUsed (pid : PID K) (error : K) : K := pid.integral + error * pid.dt

/-- It is what the output is made from, next to the error and its change. -/
lemma PID.calculate_output (pid : PID K) (error : K) :
    (pid.calculate error 0).1 = pid.restrict (pid.kp * error + pid.ki * pid.sumUsed error
      + pid.kd * ((error - pid.preError) / pid.dt)) := by
  simp only [PID.calculate, sub_zero]
  rfl

/-- What is left of it for the next call. -/
lemma PID.calculate_integral [IsStrictOrderedRing K] (pid : PID K) (error : K) :
    (pid.calculate error 0).2.integral = clamp (pid.sumUsed error) (-1) 1 := by
  have hbounds : (-1 : K) ≤ 1 := neg_one_lt_zero.le.trans zero_le_one
  have hheld : (pid.calculate error 0).2.integral
      = if 1 < pid.sumUsed error then 1
        else if pid.sumUsed error < -1 then -1 else pid.sumUsed error := by
    simp only [PID.calculate, sub_zero]
    rfl
  rw [hheld, clamp]
  rcases lt_or_ge (pid.sumUsed error) (-1) with hlow | hlow
  · rw [if_neg (not_lt.mpr (hlow.le.trans hbounds)), if_pos hlow, if_pos hlow]
  · rw [if_neg (not_lt.mpr hlow), if_neg (not_lt.mpr hlow)]

/-- The steps by which the integral of `move_pid_` has grown, newest first. -/
def moveSteps (p : Params K) : List (Cycle K) → List K
  | [] => []
  | .driven _ drive _ :: past => drive.linDist * p.controlDuration :: moveSteps p past
  | .unplanned _ :: past => moveSteps p past

/-- The steps by which that of `heading_pid_` has grown. -/
def headingSteps (p : Params K) : List (Cycle K) → List K
  | [] => []
  | .driven _ drive _ :: past =>
      if p.enableRotation then drive.angleToGoal * p.controlDuration :: headingSteps p past
      else headingSteps p past
  | .unplanned _ :: past => headingSteps p past

/-- The accumulated errors that a cycle uses are within the bound that is configured. -/
def SumsWithin (p : Params K) (e : Emission (Controller K) (Call K) (Cycle K)) : Prop :=
  match e.output with
  | .driven _ drive _ =>
      |e.before.movePid.sumUsed drive.linDist| ≤ p.minMaxSumError ∧
        (p.enableRotation = true →
          |e.before.headingPid.sumUsed drive.angleToGoal| ≤ p.minMaxSumError)
  | .unplanned _ => True

/-- The errors of the cycles before, added up and held to `[-1, 1]` after each, leave room for the
step of this cycle. -/
def RoomLeft (p : Params K) (e : Emission (Controller K) (Call K) (Cycle K)) : Prop :=
  match e.output with
  | .driven _ drive _ =>
      |heldSum (-1) 1 (moveSteps p e.past.outputs) + drive.linDist * p.controlDuration|
          ≤ p.minMaxSumError ∧
        (p.enableRotation = true →
          |heldSum (-1) 1 (headingSteps p e.past.outputs) + drive.angleToGoal * p.controlDuration|
            ≤ p.minMaxSumError)
  | .unplanned _ => True

instance (p : Params K) : (e : Emission (Controller K) (Call K) (Cycle K)) →
    Decidable (SumsWithin p e)
  | ⟨_, _, _, .driven _ _ _⟩ => inferInstanceAs (Decidable (_ ∧ (_ → _)))
  | ⟨_, _, _, .unplanned _⟩ => inferInstanceAs (Decidable True)

/-- The steps of a cycle are no larger than a bound. -/
def Cycle.ErrorsSmall (p : Params K) (bound : K) : Cycle K → Prop
  | .driven _ drive _ => |drive.linDist * p.controlDuration| ≤ bound ∧
      |drive.angleToGoal * p.controlDuration| ≤ bound
  | .unplanned _ => True

end Sums

/-! ## What the integrals remember -/

section Runs

variable {K : Type*} [Field K] [LinearOrder K] {p : Params K} {m : Libm K} {nav2 : Nav2 K}
  {past : Past (Call K) (Cycle K)} {c : Controller K}

/-- The integrals are the held sums of the errors of the cycles so far. -/
structure Accumulated (p : Params K) (past : Past (Call K) (Cycle K)) (c : Controller K) :
    Prop where
  params : c.params = p
  moveDt : c.movePid.dt = p.controlDuration
  headingDt : c.headingPid.dt = p.controlDuration
  moveIntegral : c.movePid.integral = heldSum (-1) 1 (moveSteps p past.outputs)
  headingIntegral : c.headingPid.integral = heldSum (-1) 1 (headingSteps p past.outputs)

lemma accumulated_configure (p : Params K) (c : Controller K) :
    Accumulated p (.start : Past (Call K) (Cycle K)) (configure p c) := ⟨rfl, rfl, rfl, rfl, rfl⟩

variable [IsStrictOrderedRing K]

/-- A cycle adds its step to each integral. -/
lemma Accumulated.drive (h : Accumulated p past c) (velocity : Twist K) (plan : Path K)
    (x : Call K) (result : Except String (TwistStamped K)) :
    Accumulated p (past.step x [.driven plan (computeDrive m nav2 velocity plan c).1 result])
      (computeDrive m nav2 velocity plan c).2 := by
  have hmove : (computeDrive m nav2 velocity plan c).2.movePid
      = (c.movePid.calculate (computeDrive m nav2 velocity plan c).1.linDist 0).2 := rfl
  have hheading : (computeDrive m nav2 velocity plan c).2.headingPid
      = if p.enableRotation then
          (c.headingPid.calculate (computeDrive m nav2 velocity plan c).1.angleToGoal 0).2
        else c.headingPid := by
    rw [← h.params]
    exact apply_ite Prod.snd _ _ _
  refine ⟨h.params, h.moveDt, ?_, ?_, ?_⟩
  · rw [hheading]
    split <;> exact h.headingDt
  · rw [hmove, PID.calculate_integral, PID.sumUsed, h.moveIntegral, h.moveDt]
    rfl
  · rw [hheading, Past.step, List.reverse_singleton, List.singleton_append, headingSteps]
    split
    · rw [PID.calculate_integral, PID.sumUsed, h.headingIntegral, h.headingDt]
      rfl
    · exact h.headingIntegral

lemma Accumulated.call (h : Accumulated p past c) (x : Call K) :
    Accumulated p (past.step x (call m nav2 c x).2) (call m nav2 c x).1 := by
  cases x with
  | setPlan path => exact ⟨h.params, h.moveDt, h.headingDt, h.moveIntegral, h.headingIntegral⟩
  | computeVelocityCommands i =>
      rw [PursuitController.call]
      obtain ⟨globalPlan, ⟨reason, hcycle⟩ | ⟨plan, hcycle⟩⟩ := runCycle_cases m nav2 i c
      · rw [hcycle]
        exact ⟨h.params, h.moveDt, h.headingDt, h.moveIntegral, h.headingIntegral⟩
      · rw [hcycle]
        have hplanned : Accumulated p past { c with globalPlan := globalPlan } :=
          ⟨h.params, h.moveDt, h.headingDt, h.moveIntegral, h.headingIntegral⟩
        exact hplanned.drive i.velocity plan _ _

omit [IsStrictOrderedRing K] in
/-- In a state that has accumulated the past, a cycle uses what the condition speaks of. -/
lemma Accumulated.sumsWithin_iff (h : Accumulated p past c) (x : Call K) (c' : Controller K)
    (cycle : Cycle K) :
    SumsWithin p ⟨past.step x [], c, c', cycle⟩ ↔ RoomLeft p ⟨past.step x [], c, c', cycle⟩ := by
  cases cycle with
  | unplanned reason => exact Iff.rfl
  | driven plan drive result =>
      simp only [SumsWithin, RoomLeft, PID.sumUsed, h.moveIntegral, h.headingIntegral, h.moveDt,
        h.headingDt]
      rfl

/-- In every history each cycle uses what the condition speaks of. -/
lemma emissions_within_iff (m : Libm K) (nav2 : Nav2 K) (p : Params K) (c : Controller K)
    (calls : List (Call K)) :
    ∀ e ∈ emissions (call m nav2) .start (configure p c) calls, SumsWithin p e ↔ RoomLeft p e := by
  refine cycles_safe (Accumulated p) (fun e => SumsWithin p e ↔ RoomLeft p e)
    (fun past c x h (_ : True) => h.call x) ?_ (accumulated_configure p c)
    (admissible_of_forall (fun _ _ _ => trivial) _ _ _)
  intro past c i h _
  exact h.sumsWithin_iff (.computeVelocityCommands i) _ _

/-- **When the accumulated errors are within the configured bound**: in a history of plans and
cycles all of them are, just when in every cycle the held sum of the errors before leaves room for
the step.  The accumulated error is what `ki` multiplies in the output. -/
theorem sums_within_iff (m : Libm K) (nav2 : Nav2 K) (p : Params K) (c : Controller K)
    (calls : List (Call K)) :
    (∀ (pid : PID K) (error : K), (pid.calculate error 0).1 = pid.restrict
      (pid.kp * error + pid.ki * pid.sumUsed error
        + pid.kd * ((error - pid.preError) / pid.dt))) ∧
    ((∀ e ∈ emissions (call m nav2) .start (configure p c) calls, SumsWithin p e) ↔
      ∀ e ∈ emissions (call m nav2) .start (configure p c) calls, RoomLeft p e) :=
  ⟨PID.calculate_output, forall₂_congr (emissions_within_iff m nav2 p c calls)⟩

/-- Held between -1 and 1, a sum leaves room for a step that is as small as what the bound exceeds
one by. -/
lemma abs_heldSum_add_le {bound step : K} (steps : List K) (h : |step| ≤ bound - 1) :
    |heldSum (-1) 1 steps + step| ≤ bound := by
  have hheld : |heldSum (-1) 1 steps| ≤ 1 :=
    abs_le.mpr (heldSum_bounds (neg_nonpos.mpr zero_le_one) zero_le_one steps)
  calc |heldSum (-1) 1 steps + step|
      ≤ |heldSum (-1) 1 steps| + |step| := abs_add_le _ _
    _ ≤ 1 + (bound - 1) := add_le_add hheld h
    _ = bound := add_sub_cancel _ _

/-- **Small errors never wind up**: if no step is larger than what the configured bound exceeds one
by, then all accumulated errors are within the bound. -/
theorem sums_within_of_small (m : Libm K) (nav2 : Nav2 K) (p : Params K) (c : Controller K)
    (calls : List (Call K))
    (h : ∀ e ∈ emissions (call m nav2) .start (configure p c) calls,
      e.output.ErrorsSmall p (p.minMaxSumError - 1)) :
    ∀ e ∈ emissions (call m nav2) .start (configure p c) calls, SumsWithin p e := by
  intro e he
  rw [emissions_within_iff m nav2 p c calls e he]
  obtain ⟨past, before, after, reason | ⟨plan, drive, result⟩⟩ := e
  · trivial
  · obtain ⟨hmove, hheading⟩ := h _ he
    exact ⟨abs_heldSum_add_le _ hmove, fun _ => abs_heldSum_add_le _ hheading⟩

end Runs

/-! ### Two cycles towards a pose -/

/-- A cycle towards the pose, at the rate of the controller server. -/
theorem sums_within_iff_ahead :
    (∀ e ∈ emissions (call exactLibm shortPlan) .start
          (configure (.declared 20 2.5) (configuredWith (.declared 20 2.5) ahead))
          [.setPlan ahead, .computeVelocityCommands onFreeMap], SumsWithin (.declared 20 2.5) e) ↔
      ∀ e ∈ emissions (call exactLibm shortPlan) .start
          (configure (.declared 20 2.5) (configuredWith (.declared 20 2.5) ahead))
          [.setPlan ahead, .computeVelocityCommands onFreeMap], RoomLeft (.declared 20 2.5) e :=
  (sums_within_iff exactLibm shortPlan (.declared 20 2.5)
    (configuredWith (.declared 20 2.5) ahead)
    [.setPlan ahead, .computeVelocityCommands onFreeMap]).2

/-- **The integral is used before it is held**: once a second towards a pose a metre ahead, the
accumulated error is two metres in the second cycle, under a bound of one. -/
theorem wound_up :
    ¬ ∀ e ∈ emissions (call exactLibm shortPlan) .start (configuredWith (.declared 1 2.5) ahead)
        [.computeVelocityCommands onFreeMap, .computeVelocityCommands onFreeMap],
      SumsWithin (.declared 1 2.5) e := by
  decide +kernel

end SentryNav.PursuitController
