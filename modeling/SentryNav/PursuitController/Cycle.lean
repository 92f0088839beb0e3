import SentryNav.Core.Machine
import SentryNav.PursuitController.Controller

/-!
# What one cycle can do

The ways out of `transformGlobalPlan` and of `runCycle`, once for all proofs about a cycle: none of
them looks into these two functions again.  A history of calls runs a cycle for each
`computeVelocityCommands`; `cycles_safe` is the rule for what holds of all of them.
-/

namespace SentryNav.PursuitController

open Machine

variable {K : Type*} [Field K] [LinearOrder K]

/-! ## The pieces of `transformGlobalPlan` -/

/-- The lookup of `robot_pose`. -/
def robotPoseLookup (i : CycleInput K) (c : Controller K) : Bool × PoseStamped K :=
  transformPose i c.params.transformTolerance .robotPose c.globalPlan.header.frameId i.pose default

/-- `transformation_begin`, as an index into the plan. -/
def transformationBegin (nav2 : Nav2 K) (c : Controller K) (robotPose : PoseStamped K) : ℕ :=
  let poses := c.globalPlan.poses
  nav2.minBy (poses.take (nav2.firstAfterIntegratedDistance poses c.params.maxRobotPoseSearchDist))
    fun ps => nav2.euclideanDistance robotPose ps

/-- `global_plan_` without the portion that the robot has passed. -/
def Controller.prune (nav2 : Nav2 K) (c : Controller K) (robotPose : PoseStamped K) :
    Controller K :=
  { c with
    globalPlan :=
      { c.globalPlan with
        poses := c.globalPlan.poses.drop (transformationBegin nav2 c robotPose) } }

/-- The poses between `transformation_begin` and `transformation_end`. -/
def nearPart (nav2 : Nav2 K) (i : CycleInput K) (c : Controller K) (robotPose : PoseStamped K) :
    List (PoseStamped K) :=
  (c.prune nav2 robotPose).globalPlan.poses.takeWhile fun ps =>
    ¬ getCostmapMaxExtent i.costmap < nav2.euclideanDistance ps robotPose

/-- `transformed_plan`. -/
def transformedPlan (nav2 : Nav2 K) (i : CycleInput K) (c : Controller K)
    (robotPose : PoseStamped K) : Path K where
  header := { frameId := i.costmap.baseFrameId, stamp := robotPose.header.stamp }
  poses := (nearPart nav2 i c robotPose).mapIdx (transformGlobalPoseToLocal i c robotPose)

/-- The ways out of `transformGlobalPlan`. -/
inductive PlanOutcome (nav2 : Nav2 K) (i : CycleInput K) (c : Controller K) :
    Except String (Path K) → Controller K → Prop
  | noPlan (hplan : c.globalPlan.poses = []) :
      PlanOutcome nav2 i c (.error "Received plan with zero length") c
  | noRobotPose (hplan : c.globalPlan.poses ≠ []) (hrobot : (robotPoseLookup i c).1 = false) :
      PlanOutcome nav2 i c (.error "Unable to transform robot pose into global plan's frame") c
  | nothingNear (robotPose : PoseStamped K) (hplan : c.globalPlan.poses ≠ [])
      (hrobot : robotPoseLookup i c = (true, robotPose))
      (hnear : nearPart nav2 i c robotPose = []) :
      PlanOutcome nav2 i c (.error "Resulting plan has 0 poses in it.") (c.prune nav2 robotPose)
  | planned (robotPose : PoseStamped K) (hplan : c.globalPlan.poses ≠ [])
      (hrobot : robotPoseLookup i c = (true, robotPose))
      (hnear : nearPart nav2 i c robotPose ≠ []) :
      PlanOutcome nav2 i c (.ok (transformedPlan nav2 i c robotPose)) (c.prune nav2 robotPose)

variable {m : Libm K} {nav2 : Nav2 K} {i : CycleInput K} {c c' : Controller K}
  {result : Except String (Path K)} {plan : Path K}

/-- `transformGlobalPlan` ends in one of its ways out. -/
lemma transformGlobalPlan_outcome (h : transformGlobalPlan nav2 i c = (result, c')) :
    PlanOutcome nav2 i c result c' := by
  rw [transformGlobalPlan] at h
  split at h
  · next hplan =>
      obtain ⟨rfl, rfl⟩ := Prod.mk.inj h
      exact .noPlan hplan
  · next hplan =>
      split at h
      · next robotPose hrobot =>
          obtain ⟨rfl, rfl⟩ := Prod.mk.inj h
          exact .noRobotPose hplan (congrArg Prod.fst hrobot)
      · next robotPose hrobot =>
          dsimp only at h
          split at h
          · next hnone =>
              obtain ⟨rfl, rfl⟩ := Prod.mk.inj h
              exact .nothingNear robotPose hplan hrobot (List.mapIdx_eq_nil_iff.mp hnone)
          · next hsome =>
              obtain ⟨rfl, rfl⟩ := Prod.mk.inj h
              exact .planned robotPose hplan hrobot fun hnil =>
                hsome (List.mapIdx_eq_nil_iff.mpr hnil)

/-- What it takes to get a plan, and what the plan then is. -/
lemma transformGlobalPlan_ok (h : transformGlobalPlan nav2 i c = (.ok plan, c')) :
    ∃ robotPose, robotPoseLookup i c = (true, robotPose) ∧ c.globalPlan.poses ≠ [] ∧
      nearPart nav2 i c robotPose ≠ [] ∧ plan = transformedPlan nav2 i c robotPose ∧
      c' = c.prune nav2 robotPose := by
  cases transformGlobalPlan_outcome h with
  | planned robotPose hplan hrobot hnear => exact ⟨robotPose, hrobot, hplan, hnear, rfl, rfl⟩

/-- Transforming the plan changes the plan only. -/
lemma transformGlobalPlan_keeps (nav2 : Nav2 K) (i : CycleInput K) (c : Controller K) :
    ∃ plan, (transformGlobalPlan nav2 i c).2 = { c with globalPlan := plan } := by
  rcases h : transformGlobalPlan nav2 i c with ⟨result, c'⟩
  cases transformGlobalPlan_outcome h with
  | noPlan => exact ⟨c.globalPlan, rfl⟩
  | noRobotPose => exact ⟨c.globalPlan, rfl⟩
  | nothingNear => exact ⟨_, rfl⟩
  | planned => exact ⟨_, rfl⟩

/-! ## A cycle -/

/-- What the caller of `computeVelocityCommands` gets: the command, or the text of the exception. -/
def Cycle.outcome : Cycle K → Except String (TwistStamped K)
  | .unplanned reason => .error reason
  | .driven _ _ result => result

lemma computeVelocityCommands_eq (m : Libm K) (nav2 : Nav2 K) (i : CycleInput K)
    (c : Controller K) :
    (computeVelocityCommands m nav2 i c).1 = (runCycle m nav2 i c).1.outcome := by
  rw [computeVelocityCommands]
  rcases runCycle m nav2 i c with ⟨_ | _, c'⟩ <;> rfl

/-- A cycle whose plan cannot be transformed. -/
lemma runCycle_unplanned {reason : String} (m : Libm K)
    (h : transformGlobalPlan nav2 i c = (.error reason, c')) :
    runCycle m nav2 i c = (.unplanned reason, c') := by
  rw [runCycle, h]

/-- A cycle that drives on a plan. -/
lemma runCycle_driven (m : Libm K) (h : transformGlobalPlan nav2 i c = (.ok plan, c')) :
    runCycle m nav2 i c
      = (.driven plan (computeDrive m nav2 i.velocity plan c').1
          (command m i c.params plan (computeDrive m nav2 i.velocity plan c').1),
        (computeDrive m nav2 i.velocity plan c').2) := by
  obtain ⟨globalPlan, hkeeps⟩ := transformGlobalPlan_keeps nav2 i c
  rw [h] at hkeeps
  subst hkeeps
  rw [runCycle, h]
  rfl

/-- What a cycle is: it throws before it has a plan, or it drives on the plan. -/
lemma runCycle_cases (m : Libm K) (nav2 : Nav2 K) (i : CycleInput K) (c : Controller K) :
    ∃ globalPlan,
      (∃ reason, runCycle m nav2 i c
        = (.unplanned reason, { c with globalPlan := globalPlan })) ∨
      ∃ plan, runCycle m nav2 i c
        = (.driven plan (computeDrive m nav2 i.velocity plan { c with globalPlan := globalPlan }).1
            (command m i c.params plan
              (computeDrive m nav2 i.velocity plan { c with globalPlan := globalPlan }).1),
          (computeDrive m nav2 i.velocity plan { c with globalPlan := globalPlan }).2) := by
  obtain ⟨globalPlan, hkeeps⟩ := transformGlobalPlan_keeps nav2 i c
  refine ⟨globalPlan, ?_⟩
  rcases htransform : transformGlobalPlan nav2 i c with ⟨result, c'⟩
  rw [htransform] at hkeeps
  obtain rfl : c' = { c with globalPlan := globalPlan } := hkeeps
  cases result with
  | error reason => exact .inl ⟨reason, runCycle_unplanned m htransform⟩
  | ok plan => exact .inr ⟨plan, runCycle_driven m htransform⟩

/-- `computeVelocityCommands` when the plan cannot be transformed. -/
lemma computeVelocityCommands_unplanned {reason : String} (m : Libm K)
    (h : transformGlobalPlan nav2 i c = (.error reason, c')) :
    (computeVelocityCommands m nav2 i c).1 = .error reason := by
  rw [computeVelocityCommands_eq, runCycle_unplanned m h, Cycle.outcome]

/-- `computeVelocityCommands` on a plan: all that can still go wrong is a collision. -/
lemma computeVelocityCommands_driven (m : Libm K)
    (h : transformGlobalPlan nav2 i c = (.ok plan, c')) :
    (computeVelocityCommands m nav2 i c).1
      = command m i c.params plan (computeDrive m nav2 i.velocity plan c').1 := by
  rw [computeVelocityCommands_eq, runCycle_driven m h, Cycle.outcome]

omit [LinearOrder K] in
/-- A command is given exactly if no collision is detected. -/
lemma command_ok_iff {p : Params K} {drive : Drive K} :
    (∃ cmd, command m i p plan drive = .ok cmd) ↔
      isCollisionDetected i.costmap (costmapFrameLocalPlan i p plan) = false := by
  rw [command]
  split
  · next hdetected => simp [hdetected]
  · next hfree => simp [hfree]

/-! ## Histories -/

section Histories

variable {m : Libm K}

/-- A call sends out the cycle that it runs, if it runs one. -/
lemma forall_mem_sent_call {past : Past (Call K) (Cycle K)} {x : Call K}
    {Good : Emission (Controller K) (Call K) (Cycle K) → Prop} :
    (∀ e ∈ sent past c x (call m nav2 c x).1 (call m nav2 c x).2, Good e) ↔
      ∀ i, x = .computeVelocityCommands i →
        Good ⟨past.step x [], c, (runCycle m nav2 i c).2, (runCycle m nav2 i c).1⟩ := by
  cases x with
  | setPlan path => exact iff_of_true (fun e he => absurd he List.not_mem_nil) nofun
  | computeVelocityCommands i =>
      have hsent : sent past c (.computeVelocityCommands i) (call m nav2 c
            (.computeVelocityCommands i)).1 (call m nav2 c (.computeVelocityCommands i)).2
          = [⟨past.step (.computeVelocityCommands i) [], c, (runCycle m nav2 i c).2,
              (runCycle m nav2 i c).1⟩] := rfl
      rw [hsent, List.forall_mem_singleton]
      constructor
      · rintro hgood i' hi'
        obtain rfl := Call.computeVelocityCommands.inj hi'
        exact hgood
      · exact fun hgood => hgood i rfl

/-- **Safety of all cycles of a history**: it is enough to look at one cycle, in a state with an
invariant that all calls keep. -/
theorem cycles_safe {Guard : Past (Call K) (Cycle K) → Controller K → Call K → Prop}
    (Inv : Past (Call K) (Cycle K) → Controller K → Prop)
    (Good : Emission (Controller K) (Call K) (Cycle K) → Prop)
    (hkeep : ∀ past c x, Inv past c → Guard past c x →
      Inv (past.step x (call m nav2 c x).2) (call m nav2 c x).1)
    (hcycle : ∀ past c i, Inv past c → Guard past c (.computeVelocityCommands i) →
      Good ⟨past.step (.computeVelocityCommands i) [], c, (runCycle m nav2 i c).2,
        (runCycle m nav2 i c).1⟩)
    {calls : List (Call K)} {past : Past (Call K) (Cycle K)} (hinv : Inv past c)
    (hadmissible : Admissible (call m nav2) Guard past c calls) :
    ∀ e ∈ emissions (call m nav2) past c calls, Good e := by
  refine emissions_safe Inv Good hkeep (fun past c x hinv hguard => ?_) calls past c hinv
    hadmissible
  refine forall_mem_sent.mp (forall_mem_sent_call.mpr ?_)
  rintro i rfl
  exact hcycle past c i hinv hguard

end Histories

end SentryNav.PursuitController
