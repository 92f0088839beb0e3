import SentryNav.Core.Limiter
import Mathlib.Algebra.Field.Defs

/-!
# `PID`

The controller of `pid.cpp`, in exact arithmetic.  The integral enters the output before it is
clamped to `[-1, 1]`, so a call uses the clamped value of the call before plus one step.
-/

namespace SentryNav.PursuitController

variable {K : Type*} [Field K] [LinearOrder K]

/-- The members of `PID`. -/
structure PID (K : Type*) where
  dt : K
  max : K
  min : K
  kp : K
  kd : K
  ki : K
  preError : K
  integral : K

/-- `PID::PID(dt, max, min, kp, kd, ki)`. -/
def PID.make (dt max min kp kd ki : K) : PID K where
  dt := dt
  max := max
  min := min
  kp := kp
  kd := kd
  ki := ki
  preError := 0
  integral := 0

/-- The sum of the three terms, before it is restricted. -/
def PID.rawOutput (pid : PID K) (error : K) : K :=
  let pOut := pid.kp * error
  let iOut := pid.ki * (pid.integral + error * pid.dt)
  let derivative := (error - pid.preError) / pid.dt
  let dOut := pid.kd * derivative
  pOut + iOut + dOut

/-- Restrict to max/min: the upper bound is tested first. -/
def PID.restrict (pid : PID K) (output : K) : K :=
  if pid.max < output then pid.max else if output < pid.min then pid.min else output

/-- `PID::calculate(set_point, pv)`: the output, and the members afterwards. -/
def PID.calculate (pid : PID K) (setPoint pv : K) : K × PID K :=
  let error := setPoint - pv
  let integral := pid.integral + error * pid.dt
  (pid.restrict (pid.rawOutput error),
    { pid with
      integral := if 1 < integral then 1 else if integral < -1 then -1 else integral
      preError := error })

/-- `PID::setSumError`. -/
def PID.setSumError (pid : PID K) (sumError : K) : PID K := { pid with integral := sumError }

variable (pid : PID K) (setPoint pv : K)

/-- The output stays within the bounds the controller was made with. -/
theorem PID.calculate_bounds (h : pid.min ≤ pid.max) :
    pid.min ≤ (pid.calculate setPoint pv).1 ∧ (pid.calculate setPoint pv).1 ≤ pid.max := by
  simp only [PID.calculate, PID.restrict]
  split
  · exact ⟨h, le_refl _⟩
  · next hmax =>
      split
      · exact ⟨le_refl _, h⟩
      · next hmin => exact ⟨not_lt.mp hmin, not_lt.mp hmax⟩

end SentryNav.PursuitController
