import SentryNav.Core.Lockstep
import SentryNav.PursuitController.PoseProvenance

/-!
# What `configure` leaves from before

`configure` reads the parameters and makes new PID controllers.  It does not touch the plan, and it
does not touch `last_velocity_scaling_factor_`, which no constructor sets either.  So two objects
that were configured alike can still differ in these two members.

* `Alike` is what configuring alike gives, and `runCycle_agree` is when such objects run a cycle
  alike: on one plan, and with one last speed if the cycle looks at it.
* `ReadsNothingOld` is this condition on the members before a call, and `fresh_start` says that it
  is enough for all runs.  It needs a look at the first calls only: from the first plan that is not
  too curved on, the members are equal (`fresh_after_straight`).
-/

namespace SentryNav.PursuitController

open Lockstep

variable {K : Type*} [Field K] [LinearOrder K]

/-- Two controllers with the same parameters and PIDs; that for the heading counts only if there is
to be a rotation. -/
structure Alike (a b : Controller K) : Prop where
  params : a.params = b.params
  movePid : a.movePid = b.movePid
  headingPid : a.params.enableRotation = true → a.headingPid = b.headingPid

/-- The plan is curved enough for the last speed to matter. -/
def Curved (m : Libm K) (nav2 : Nav2 K) (p : Params K) (velocity : Twist K) (plan : Path K) :
    Prop :=
  p.curvatureMin < calculateCurvature m nav2 plan
    (getLookAheadPoint m p.useInterpolation (getLookAheadDistance m p velocity) plan)
    p.curvatureForwardDist p.curvatureBackwardDist

variable {m : Libm K} {nav2 : Nav2 K} {i : CycleInput K} {a b : Controller K} {plan : Path K}

/-- Without a curve the last speed has no influence. -/
lemma applyCurvatureLimitation_straight {p : Params K} {curvature : K}
    (h : ¬ p.curvatureMin < curvature) (last last' linearVel : K) :
    applyCurvatureLimitation p last curvature linearVel
      = applyCurvatureLimitation p last' curvature linearVel := by
  simp only [applyCurvatureLimitation, if_neg h]

/-- The PIDs and the last speed are not looked at when the plan is transformed. -/
lemma transformGlobalPlan_frame (nav2 : Nav2 K) (i : CycleInput K) (c : Controller K)
    (movePid headingPid : PID K) (last : K) :
    transformGlobalPlan nav2 i
        { c with movePid := movePid, headingPid := headingPid, lastVelocityScalingFactor := last }
      = ((transformGlobalPlan nav2 i c).1,
          { (transformGlobalPlan nav2 i c).2 with
            movePid := movePid, headingPid := headingPid, lastVelocityScalingFactor := last }) := by
  simp only [transformGlobalPlan]
  split
  · rfl
  · rcases hrobot : transformPose i c.params.transformTolerance .robotPose
      c.globalPlan.header.frameId i.pose default with ⟨found, robotPose⟩
    cases found with
    | false => rfl
    | true =>
        dsimp only
        split_ifs with hnone hnone'
        · rfl
        · exact absurd hnone hnone'
        · contradiction
        · rfl

/-- Controllers that are alike compute alike, if they remember one last speed or do not look. -/
lemma computeDrive_agree (m : Libm K) (nav2 : Nav2 K) (h : Alike a b) (velocity : Twist K)
    (plan : Path K)
    (hlast : Curved m nav2 a.params velocity plan →
      a.lastVelocityScalingFactor = b.lastVelocityScalingFactor) :
    (computeDrive m nav2 velocity plan a).1 = (computeDrive m nav2 velocity plan b).1 ∧
      Alike (computeDrive m nav2 velocity plan a).2 (computeDrive m nav2 velocity plan b).2 ∧
      (computeDrive m nav2 velocity plan a).2.lastVelocityScalingFactor
        = (computeDrive m nav2 velocity plan b).2.lastVelocityScalingFactor := by
  rcases a with ⟨p, movePid, headingPid, last, globalPlan⟩
  rcases b with ⟨p', movePid', headingPid', last', globalPlan'⟩
  obtain ⟨rfl, rfl, hheading⟩ := h
  have hspeed : ∀ linearVel, applyCurvatureLimitation p last
      (calculateCurvature m nav2 plan
        (getLookAheadPoint m p.useInterpolation (getLookAheadDistance m p velocity) plan)
        p.curvatureForwardDist p.curvatureBackwardDist) linearVel
      = applyCurvatureLimitation p last' (calculateCurvature m nav2 plan
        (getLookAheadPoint m p.useInterpolation (getLookAheadDistance m p velocity) plan)
        p.curvatureForwardDist p.curvatureBackwardDist) linearVel := by
    intro linearVel
    by_cases hcurved : Curved m nav2 p velocity plan
    · obtain rfl : last = last' := hlast hcurved
      rfl
    · exact applyCurvatureLimitation_straight hcurved last last' linearVel
  by_cases hrotation : p.enableRotation = true
  · obtain rfl : headingPid = headingPid' := hheading hrotation
    simp only [computeDrive, hspeed, true_and, and_true]
    exact ⟨rfl, rfl, fun _ => rfl⟩
  · simp only [computeDrive, hspeed, if_neg hrotation, true_and, and_true]
    exact ⟨rfl, rfl, fun h => absurd h hrotation⟩

/-- Controllers that are alike run a cycle alike, on one plan and with one last speed if it matters;
after a cycle with a plan it is one last speed, whatever it was before. -/
lemma runCycle_agree (m : Libm K) (nav2 : Nav2 K) (i : CycleInput K) (h : Alike a b)
    (hplan : a.globalPlan = b.globalPlan)
    (hlast : ∀ plan, (transformGlobalPlan nav2 i a).1 = .ok plan →
      Curved m nav2 a.params i.velocity plan →
        a.lastVelocityScalingFactor = b.lastVelocityScalingFactor) :
    (runCycle m nav2 i a).1 = (runCycle m nav2 i b).1 ∧
      Alike (runCycle m nav2 i a).2 (runCycle m nav2 i b).2 ∧
      (runCycle m nav2 i a).2.globalPlan = (runCycle m nav2 i b).2.globalPlan ∧
      (a.lastVelocityScalingFactor = b.lastVelocityScalingFactor ∨
          (∃ plan, (transformGlobalPlan nav2 i a).1 = .ok plan) →
        (runCycle m nav2 i a).2.lastVelocityScalingFactor
          = (runCycle m nav2 i b).2.lastVelocityScalingFactor) := by
  rcases a with ⟨p, movePid, headingPid, last, globalPlan⟩
  rcases b with ⟨p', movePid', headingPid', last', globalPlan'⟩
  obtain ⟨rfl, rfl, hheading⟩ := h
  obtain rfl : globalPlan = globalPlan' := hplan
  set a : Controller K := ⟨p, movePid, headingPid, last, globalPlan⟩ with ha
  have hframe := transformGlobalPlan_frame nav2 i a movePid headingPid' last'
  obtain ⟨pruned, hkeeps⟩ := transformGlobalPlan_keeps nav2 i a
  rcases htransform : transformGlobalPlan nav2 i a with ⟨result, a'⟩
  rw [htransform] at hframe hkeeps hlast
  obtain rfl : a' = { a with globalPlan := pruned } := hkeeps
  cases result with
  | error reason =>
      rw [runCycle_unplanned m htransform, runCycle_unplanned m hframe]
      refine ⟨rfl, ⟨rfl, rfl, hheading⟩, rfl, ?_⟩
      rintro (hsame | ⟨plan, hplan⟩)
      · exact hsame
      · exact absurd hplan (by simp)
  | ok plan =>
      rw [runCycle_driven m htransform, runCycle_driven m hframe]
      obtain ⟨hdrive, halike, hspeed⟩ := computeDrive_agree m nav2
        (a := { a with globalPlan := pruned })
        (b := ⟨p, movePid, headingPid', last', pruned⟩) ⟨rfl, rfl, hheading⟩ i.velocity plan
        (hlast plan rfl)
      refine ⟨?_, halike, rfl, fun _ => hspeed⟩
      rw [hdrive]

/-! ## Runs -/

/-- A call does not look at what the members held before: it sets the plan, or both controllers have
the plan, and have one last speed if it is to be looked at. -/
def ReadsNothingOld (m : Libm K) (nav2 : Nav2 K) (a b : Controller K) : Call K → Prop
  | .setPlan _ => True
  | .computeVelocityCommands i =>
      a.globalPlan = b.globalPlan ∧
        ∀ plan, (transformGlobalPlan nav2 i a).1 = .ok plan →
          Curved m nav2 a.params i.velocity plan →
            a.lastVelocityScalingFactor = b.lastVelocityScalingFactor

/-- The commands and exceptions of a run. -/
def commands (m : Libm K) (nav2 : Nav2 K) (c : Controller K) (calls : List (Call K)) :
    List (Except String (TwistStamped K)) :=
  (answers (call m nav2) c calls).flatten.map Cycle.outcome

/-- Controllers that are alike answer a call alike, if it does not look at what is old. -/
lemma call_agree (h : Alike a b) (x : Call K) (hx : ReadsNothingOld m nav2 a b x) :
    (call m nav2 a x).2 = (call m nav2 b x).2 ∧ Alike (call m nav2 a x).1 (call m nav2 b x).1 := by
  cases x with
  | setPlan path => exact ⟨rfl, h.params, h.movePid, h.headingPid⟩
  | computeVelocityCommands i =>
      obtain ⟨hcycle, halike, _⟩ := runCycle_agree m nav2 i h hx.1 hx.2
      exact ⟨congrArg (fun cycle => [cycle]) hcycle, halike⟩

omit [LinearOrder K] in
/-- `configure` makes controllers alike. -/
lemma configure_alike (p : Params K) (c₁ c₂ : Controller K) :
    Alike (configure p c₁) (configure p c₂) := ⟨rfl, rfl, fun _ => rfl⟩

/-- **A configured controller starts afresh**, whatever the object held before `configure`, in every
run of which no call looks at the plan or the last speed from before. -/
theorem fresh_start (m : Libm K) (nav2 : Nav2 K) (p : Params K) (c₁ c₂ : Controller K)
    (calls : List (Call K))
    (h : Together (call m nav2) (call m nav2) (ReadsNothingOld m nav2) (configure p c₁)
      (configure p c₂) calls) :
    commands m nav2 (configure p c₁) calls = commands m nav2 (configure p c₂) calls := by
  rw [commands, commands, answers_eq Alike (fun _ _ x halike hx => call_agree halike x hx) calls _ _
    (configure_alike p c₁ c₂) h]

/-- Two controllers that differ in nothing that is looked at. -/
structure Same (a b : Controller K) : Prop extends Alike a b where
  globalPlan : a.globalPlan = b.globalPlan
  last : a.lastVelocityScalingFactor = b.lastVelocityScalingFactor

/-- They stay so. -/
lemma Same.call (h : Same a b) (x : Call K) :
    (call m nav2 a x).2 = (call m nav2 b x).2 ∧ Same (call m nav2 a x).1 (call m nav2 b x).1 := by
  cases x with
  | setPlan path => exact ⟨rfl, ⟨h.params, h.movePid, h.headingPid⟩, rfl, h.last⟩
  | computeVelocityCommands i =>
      obtain ⟨hcycle, halike, hplan, hlast⟩ :=
        runCycle_agree m nav2 i h.toAlike h.globalPlan
          fun _ _ _ => h.last
      exact ⟨congrArg (fun cycle => [cycle]) hcycle, halike, hplan, hlast (.inl h.last)⟩

/-- They give the same commands. -/
lemma Same.commands (m : Libm K) (nav2 : Nav2 K) (h : Same a b) (calls : List (Call K)) :
    commands m nav2 a calls = commands m nav2 b calls := by
  rw [PursuitController.commands, PursuitController.commands,
    answers_eq Same (fun _ _ x hsame (_ : True) => hsame.call x) calls a b h
      (together_of_forall (fun _ _ _ => trivial) a b calls)]

/-- A first cycle on a straight plan wipes out what the objects held before. -/
theorem fresh_after_straight (p : Params K) (c₁ c₂ : Controller K) (path : Path K)
    (calls : List (Call K))
    (hplan : (transformGlobalPlan nav2 i (setPlan path (configure p c₁))).1 = .ok plan)
    (hstraight : ¬ Curved m nav2 p i.velocity plan) :
    commands m nav2 (configure p c₁) (.setPlan path :: .computeVelocityCommands i :: calls)
      = commands m nav2 (configure p c₂)
          (.setPlan path :: .computeVelocityCommands i :: calls) := by
  have halike : Alike (setPlan path (configure p c₁)) (setPlan path (configure p c₂)) :=
    ⟨rfl, rfl, fun _ => rfl⟩
  obtain ⟨hcycle, halike', hplan', hlast⟩ :=
    runCycle_agree m nav2 i halike rfl fun plan' hplan' hcurved => by
      obtain rfl := Except.ok.inj (hplan.symm.trans hplan')
      exact absurd hcurved hstraight
  have hrest := Same.commands m nav2 ⟨halike', hplan', hlast (.inr ⟨_, hplan⟩)⟩
    calls
  simp only [commands, answers, call, List.flatten_cons, List.nil_append,
    List.map_append] at hrest ⊢
  rw [hcycle, hrest]

/-! ## A plan around a corner -/

/-- Parameters for which the circle through the corner has a rational radius. -/
def turning : Params ℚ :=
  { Params.declared 20 2.5 with useInterpolation := false, curvatureForwardDist := 0.4 }

/-- A plan that turns left after a metre. -/
def corner : Path ℚ := planOf [poseAt 0 0, poseAt 1 0, poseAt 1 1]

/-- The robot at the origin of a free map, with all frames known. -/
def onFreeMap : CycleInput ℚ where
  pose := poseAt 0 0
  velocity := default
  costmap := freeMap "odom"
  transform _ _ _ ps := some ps

/-- An object as it may be before `configure`. -/
def remembering (last : ℚ) : Controller ℚ where
  params := turning
  movePid := .make 0 0 0 0 0 0
  headingPid := .make 0 0 0 0 0 0
  lastVelocityScalingFactor := last
  globalPlan := { header := default, poses := [] }

/-- On a straight plan two objects that remember different speeds give the same commands. -/
theorem fresh_start_ahead :
    commands exactLibm shortPlan (configure turning (remembering 0))
        [.setPlan ahead, .computeVelocityCommands onFreeMap]
      = commands exactLibm shortPlan (configure turning (remembering 1))
        [.setPlan ahead, .computeVelocityCommands onFreeMap] := by
  have hahead : (transformGlobalPlan shortPlan onFreeMap
      (setPlan ahead (configure turning (remembering 0)))).1 = .ok ahead := by decide +kernel
  have hstraight : ¬ Curved exactLibm shortPlan turning onFreeMap.velocity ahead := by
    rw [Curved]
    decide +kernel
  refine fresh_start exactLibm shortPlan turning (remembering 0) (remembering 1) _
    ⟨trivial, ⟨rfl, fun plan hplan hcurved => ?_⟩, trivial⟩
  obtain rfl := Except.ok.inj (hahead.symm.trans hplan)
  exact absurd hcurved hstraight

/-- Around the corner they do not. -/
theorem last_speed_matters :
    commands exactLibm shortPlan (configure turning (remembering 0))
        [.setPlan corner, .computeVelocityCommands onFreeMap]
      ≠ commands exactLibm shortPlan (configure turning (remembering 1))
        [.setPlan corner, .computeVelocityCommands onFreeMap] := by
  decide +kernel

end SentryNav.PursuitController
