import SentryNav.Core.Machine
import SentryNav.PursuitController.Cycle
import SentryNav.RealMath
import Mathlib.Tactic.NormNum

/-!
# The envelope of the speed limiters

The speed of a cycle goes through three limiters: the bounds of `move_pid_`, the limitation for
curvature, which carries the last speed over to the next cycle, and the scaling for the approach.
`Envelope` says between which bounds each of the three values lies, in terms of the one before and
the last speed; `computeDrive_envelope` is one cycle, and `speed_envelope` every cycle of every
history of calls, in exact arithmetic.
-/

namespace SentryNav.PursuitController

open Limiter Machine

section Cycle

variable {K : Type*} [Field K] [LinearOrder K]

/-- By how much the curvature limitation lets the speed change in one cycle. -/
def Params.slewRate (p : Params K) : K := p.maxVelocityScalingFactorRate * p.controlDuration

/-- What a parameter set has to satisfy for the limiters to make sense. -/
structure Params.Sound (p : Params K) : Prop where
  bounds : p.vLinearMin ≤ p.vLinearMax
  floor : 0 ≤ p.minApproachLinearVelocity
  rate : 0 ≤ p.slewRate

/-- Between which bounds the speeds of a cycle lie, `last` being the last speed before it. -/
structure Envelope (p : Params K) (last : K) (d : Drive K) : Prop where
  pid : p.vLinearMin ≤ d.pidVel ∧ d.pidVel ≤ p.vLinearMax
  curvature : min d.pidVel (2 * p.minApproachLinearVelocity) ≤ d.curvatureVel ∧
    d.curvatureVel ≤ d.pidVel
  approach : min d.pidVel p.minApproachLinearVelocity ≤ d.linVel ∧ d.linVel ≤ d.curvatureVel
  negative : d.pidVel < 0 → d.curvatureVel = d.pidVel ∧ d.linVel = d.pidVel
  slew : p.curvatureMin < d.curvature →
    min d.pidVel (last - p.slewRate) ≤ d.curvatureVel ∧
      d.curvatureVel ≤ max (last + p.slewRate) (2 * p.minApproachLinearVelocity)

/-- The declared defaults make sense, at any control frequency. -/
lemma Params.declared_sound [IsStrictOrderedRing K] {controlFrequency : K}
    (h : 0 ≤ controlFrequency) (costmapMaxExtent : K) :
    (Params.declared controlFrequency costmapMaxExtent).Sound where
  bounds := by norm_num [Params.declared]
  floor := by norm_num [Params.declared]
  rate := mul_nonneg (by norm_num [Params.declared]) (one_div_nonneg.mpr h)

variable {p : Params K} {m : Libm K} {nav2 : Nav2 K}

/-- The speed that the curvature allows. -/
def curvatureLimit (p : Params K) (last curvature linearVel : K) : K :=
  if p.curvatureMin < curvature then
    Limiter.slew last (linearVel * reductionRatio p curvature) p.slewRate
  else linearVel

/-- The approach scaling never goes below its floor, and never raises the speed. -/
lemma applyApproachVelocityScaling_bounds (path : Path K) (linearVel : K) :
    min linearVel p.minApproachLinearVelocity
        ≤ applyApproachVelocityScaling m nav2 p path linearVel ∧
      applyApproachVelocityScaling m nav2 p path linearVel ≤ linearVel := by
  refine ⟨min_le_min_left linearVel ?_, min_le_left _ _⟩
  split
  · exact le_refl _
  · next hfloor => exact not_lt.mp hfloor

/-- A speed below the floor passes the approach scaling. -/
lemma applyApproachVelocityScaling_of_le (path : Path K) {linearVel : K}
    (h : linearVel ≤ p.minApproachLinearVelocity) :
    applyApproachVelocityScaling m nav2 p path linearVel = linearVel := by
  obtain ⟨hge, hle⟩ := applyApproachVelocityScaling_bounds (m := m) (p := p) path linearVel
  rw [min_eq_left h] at hge
  exact le_antisymm hle hge

variable [IsStrictOrderedRing K]

lemma applyCurvatureLimitation_eq (p : Params K) (last curvature linearVel : K) :
    applyCurvatureLimitation p last curvature linearVel
      = cap linearVel (curvatureLimit p last curvature linearVel)
          (2 * p.minApproachLinearVelocity) := by
  have htwo : (2.0 : K) = 2 := by norm_num
  simp only [applyCurvatureLimitation, curvatureLimit, cap, Limiter.slew, Params.slewRate, neg_mul,
    htwo]

lemma curvatureLimit_slew (h : p.Sound) {curvature : K} (hc : p.curvatureMin < curvature)
    (last linearVel : K) :
    last - p.slewRate ≤ curvatureLimit p last curvature linearVel ∧
      curvatureLimit p last curvature linearVel ≤ last + p.slewRate := by
  rw [curvatureLimit, if_pos hc]
  exact ⟨slew_ge h.rate last _, slew_le h.rate last _⟩

/-- **One cycle stays in the envelope.** -/
theorem computeDrive_envelope (h : p.Sound) {c : Controller K} (hparams : c.params = p)
    (hmin : c.movePid.min = p.vLinearMin) (hmax : c.movePid.max = p.vLinearMax)
    (velocity : Twist K) (plan : Path K) :
    Envelope p c.lastVelocityScalingFactor (computeDrive m nav2 velocity plan c).1 := by
  set d := (computeDrive m nav2 velocity plan c).1 with hd
  set last := c.lastVelocityScalingFactor
  have hpid : p.vLinearMin ≤ d.pidVel ∧ d.pidVel ≤ p.vLinearMax := by
    have hbounds := c.movePid.calculate_bounds d.linDist 0 (by rw [hmin, hmax]; exact h.bounds)
    rwa [hmin, hmax] at hbounds
  have hcurvature : d.curvatureVel = cap d.pidVel (curvatureLimit p last d.curvature d.pidVel)
      (2 * p.minApproachLinearVelocity) := by
    rw [← applyCurvatureLimitation_eq, ← hparams]
    rfl
  have hlin : d.linVel = applyApproachVelocityScaling m nav2 p plan d.curvatureVel := by
    rw [← hparams]
    rfl
  have hfloor : p.minApproachLinearVelocity ≤ 2 * p.minApproachLinearVelocity := by
    rw [two_mul]
    exact le_add_of_nonneg_right h.floor
  have hge : min d.pidVel (2 * p.minApproachLinearVelocity) ≤ d.curvatureVel := by
    rw [hcurvature]
    exact le_cap_floor _ _ _
  have hle : d.curvatureVel ≤ d.pidVel := by
    rw [hcurvature]
    exact cap_le_demand _ _ _
  have hlin_bounds : min d.curvatureVel p.minApproachLinearVelocity ≤ d.linVel ∧
      d.linVel ≤ d.curvatureVel := by
    rw [hlin]
    exact applyApproachVelocityScaling_bounds plan d.curvatureVel
  refine ⟨hpid, ⟨hge, hle⟩, ⟨?_, hlin_bounds.2⟩, fun hneg => ?_, fun hc => ?_⟩
  · refine le_trans (le_min ?_ (min_le_right _ _)) hlin_bounds.1
    exact (min_le_min_left d.pidVel hfloor).trans hge
  · have hpass : d.curvatureVel = d.pidVel := by
      rw [hcurvature]
      exact cap_of_le _ (hneg.le.trans (h.floor.trans hfloor))
    refine ⟨hpass, ?_⟩
    rw [hlin, hpass]
    exact applyApproachVelocityScaling_of_le plan (hneg.le.trans h.floor)
  · obtain ⟨hslew_ge, hslew_le⟩ := curvatureLimit_slew h hc last d.pidVel
    rw [hcurvature]
    exact ⟨(min_le_min_left d.pidVel hslew_ge).trans (le_cap_limit _ _ _),
      (cap_le_limit _ _ _).trans (max_le_max_right _ hslew_le)⟩

end Cycle

/-! ## Histories -/

section History

variable {K : Type*} [Field K] [LinearOrder K]

/-- The speed after the curvature limitation in the last cycle that came to it. -/
def lastSpeed : List (Cycle K) → Option K
  | [] => none
  | .driven _ drive _ :: _ => some drive.curvatureVel
  | .unplanned _ :: past => lastSpeed past

/-- What stays as configured, and what is carried over from the last cycle. -/
structure Carries (p : Params K) (past : Past (Call K) (Cycle K)) (c : Controller K) : Prop where
  params : c.params = p
  min : c.movePid.min = p.vLinearMin
  max : c.movePid.max = p.vLinearMax
  last : ∀ v, lastSpeed past.outputs = some v → c.lastVelocityScalingFactor = v

variable {p : Params K} {m : Libm K} {nav2 : Nav2 K} {past : Past (Call K) (Cycle K)}
  {c : Controller K}

omit [LinearOrder K] in
lemma carries_configure (p : Params K) (c : Controller K) :
    Carries p (.start : Past (Call K) (Cycle K)) (configure p c) where
  params := rfl
  min := rfl
  max := rfl
  last _ h := absurd h (by simp [Past.start, lastSpeed])

/-- Every call carries on. -/
lemma Carries.call (h : Carries p past c) (x : Call K) :
    Carries p (past.step x (call m nav2 c x).2) (call m nav2 c x).1 := by
  cases x with
  | setPlan path => exact ⟨h.params, h.min, h.max, h.last⟩
  | computeVelocityCommands i =>
      rw [PursuitController.call]
      obtain ⟨globalPlan, ⟨reason, hcycle⟩ | ⟨plan, hcycle⟩⟩ := runCycle_cases m nav2 i c
      · rw [hcycle]
        exact ⟨h.params, h.min, h.max, h.last⟩
      · rw [hcycle]
        exact ⟨h.params, h.min, h.max, fun v hv => Option.some.inj hv⟩

/-- What holds of a cycle that has come to drive: its speeds are in the envelope of the last speed,
which is that of the last such cycle if there was one, and the linear part of its command is as long
as the final speed is large. -/
def InEnvelope (p : Params ℝ) (e : Emission (Controller ℝ) (Call ℝ) (Cycle ℝ)) : Prop :=
  ∀ plan drive result, e.output = .driven plan drive result →
    Envelope p e.before.lastVelocityScalingFactor drive ∧
    (∀ v, lastSpeed e.past.outputs = some v → e.before.lastVelocityScalingFactor = v) ∧
    ∀ cmd, result = .ok cmd →
      √(cmd.twist.linear.x ^ 2 + cmd.twist.linear.y ^ 2) = |drive.linVel|

end History

/-- The linear part of a command is as long as the speed is large. -/
lemma norm_command {i : CycleInput ℝ} {p : Params ℝ} {plan : Path ℝ} {drive : Drive ℝ}
    {cmd : TwistStamped ℝ} (h : command realLibm i p plan drive = .ok cmd) :
    √(cmd.twist.linear.x ^ 2 + cmd.twist.linear.y ^ 2) = |drive.linVel| := by
  rw [command] at h
  split at h
  · exact absurd h (by simp)
  · obtain rfl := Except.ok.inj h
    have hsquare : (drive.linVel * Real.cos drive.thetaDist) ^ 2
        + (drive.linVel * Real.sin drive.thetaDist) ^ 2 = drive.linVel ^ 2 := by
      rw [mul_pow, mul_pow, ← mul_add, Real.cos_sq_add_sin_sq, mul_one]
    rw [← Real.sqrt_sq_eq_abs, ← hsquare]
    rfl

/-- A cycle that runs in a state carried over from the past is in the envelope. -/
lemma Carries.inEnvelope {p : Params ℝ} {nav2 : Nav2 ℝ} {past : Past (Call ℝ) (Cycle ℝ)}
    {c : Controller ℝ} (hcarries : Carries p past c) (h : p.Sound) (x : Call ℝ) (i : CycleInput ℝ) :
    InEnvelope p ⟨past.step x [], c, (runCycle realLibm nav2 i c).2,
      (runCycle realLibm nav2 i c).1⟩ := by
  rintro plan drive result (houtput : (runCycle realLibm nav2 i c).1 = _)
  obtain ⟨globalPlan, ⟨reason, hcycle⟩ | ⟨plan', hcycle⟩⟩ := runCycle_cases realLibm nav2 i c
  · rw [hcycle] at houtput
    exact absurd houtput (by simp)
  · rw [hcycle] at houtput
    obtain ⟨rfl, rfl, rfl⟩ := Cycle.driven.inj houtput
    refine ⟨?_, hcarries.last, fun cmd hcmd => norm_command hcmd⟩
    exact computeDrive_envelope (c := { c with globalPlan := globalPlan }) h hcarries.params
      hcarries.min hcarries.max i.velocity plan'

/-- **The speed limiters keep their envelope**, in exact arithmetic: for every sound parameter set,
whatever the members of the controller held before it was configured, and for every history of plans
and cycles, with any poses, speeds, costmaps and transforms. -/
theorem speed_envelope (p : Params ℝ) (h : p.Sound) (nav2 : Nav2 ℝ) (c : Controller ℝ)
    (calls : List (Call ℝ)) :
    ∀ e ∈ emissions (call realLibm nav2) .start (configure p c) calls, InEnvelope p e := by
  have hkeep : ∀ past c x, Carries p past c → True →
      Carries p (past.step x (call realLibm nav2 c x).2) (call realLibm nav2 c x).1 :=
    fun past c x hcarries _ => hcarries.call x
  have hcycle : ∀ past c i, Carries p past c → True →
      InEnvelope p ⟨past.step (.computeVelocityCommands i) [], c, (runCycle realLibm nav2 i c).2,
        (runCycle realLibm nav2 i c).1⟩ :=
    fun past c i hcarries _ => hcarries.inEnvelope h (.computeVelocityCommands i) i
  exact cycles_safe (Carries p) (InEnvelope p) hkeep hcycle (carries_configure p c)
    (admissible_of_forall (fun _ _ _ => trivial) _ _ _)

/-- A plan of one pose, one metre ahead, in the frame that the robot's pose is in. -/
def aheadPlan : Path ℝ where
  header := { stamp := 0, frameId := "odom" }
  poses := [{ header := { stamp := 0, frameId := "odom" }
              pose := { position := ⟨1, 0, 0⟩, orientation := ⟨0, 0, 0, 1⟩ } }]

/-- The robot at the origin, standing still on a free costmap, all frames being the same. -/
def standingStill : CycleInput ℝ where
  pose := { header := { stamp := 0, frameId := "odom" }, pose := default }
  velocity := default
  costmap :=
    { sizeInMetersX := 5.0
      sizeInMetersY := 5.0
      worldToMap := fun _ _ => some (0, 0)
      getCost := fun _ _ => 0
      globalFrameId := "odom"
      baseFrameId := "odom" }
  transform _ _ _ ps := some ps

/-- A controller that has not run. -/
noncomputable def parked : Controller ℝ where
  params := .declared 20 2.5
  movePid := .make 0 0 0 0 0 0
  headingPid := .make 0 0 0 0 0 0
  lastVelocityScalingFactor := 0
  globalPlan := { header := default, poses := [] }

/-- What the functions of `nav2_util` and `tf2` give on a plan of one pose without a turn. -/
noncomputable def onePose : Nav2 ℝ where
  euclideanDistance a b := √((b.pose.position.x - a.pose.position.x) ^ 2
    + (b.pose.position.y - a.pose.position.y) ^ 2)
  firstAfterIntegratedDistance poses _ := poses.length
  minBy _ _ := 0
  calculatePathLength _ := 0
  getYaw _ := 0

lemma isCollisionDetected_standingStill (plan : List (PoseStamped ℝ)) :
    isCollisionDetected standingStill.costmap plan = false := by
  induction plan with
  | nil => rfl
  | cons ps rest ih => exact ih

/-- The one pose is near enough to be taken into the robot frame. -/
lemma transformGlobalPlan_ahead (c : Controller ℝ) :
    ∃ plan c',
      transformGlobalPlan onePose standingStill (setPlan aheadPlan c) = (.ok plan, c') := by
  have hnear : (aheadPlan.poses.takeWhile fun ps => ¬ getCostmapMaxExtent standingStill.costmap
      < onePose.euclideanDistance ps standingStill.pose) = aheadPlan.poses := by
    norm_num [aheadPlan, getCostmapMaxExtent, standingStill, onePose, default]
  have hrobot : transformPose standingStill c.params.transformTolerance .robotPose
      aheadPlan.header.frameId standingStill.pose default = (true, standingStill.pose) := if_pos rfl
  rw [transformGlobalPlan, if_neg (by simp [setPlan, aheadPlan])]
  simp only [setPlan, hrobot]
  rw [show onePose.minBy = fun _ _ => 0 from rfl]
  simp only [List.drop_zero, hnear]
  exact ⟨_, _, rfl⟩

lemma runCycle_ahead (c : Controller ℝ) : ∃ plan drive cmd,
    (runCycle realLibm onePose standingStill (setPlan aheadPlan c)).1
      = .driven plan drive (.ok cmd) := by
  obtain ⟨plan, c', hplan⟩ := transformGlobalPlan_ahead c
  rw [runCycle, hplan]
  dsimp only
  rw [command, if_neg (by rw [isCollisionDetected_standingStill]; simp)]
  exact ⟨_, _, _, rfl⟩

/-- A cycle on a plan, from the declared defaults. -/
theorem speed_envelope_ahead :
    ∃ e ∈ emissions (call realLibm onePose) .start (configure (.declared 20 2.5) parked)
        [.setPlan aheadPlan, .computeVelocityCommands standingStill],
      (∃ plan drive cmd, e.output = .driven plan drive (.ok cmd)) ∧
        InEnvelope (.declared 20 2.5) e := by
  have henvelope := speed_envelope (.declared 20 2.5) (Params.declared_sound (by norm_num) 2.5)
    onePose parked [.setPlan aheadPlan, .computeVelocityCommands standingStill]
  exact ⟨_, List.mem_cons_self, runCycle_ahead _, henvelope _ List.mem_cons_self⟩

end SentryNav.PursuitController
