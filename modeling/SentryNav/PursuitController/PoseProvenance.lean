import SentryNav.PursuitController.CollisionVeto

/-!
# Where the poses of a cycle come from

`transformPose` tells its caller whether the lookup in the tf buffer succeeded.  The caller that
transforms the robot's pose asks and throws; the two that transform the plan and the sampled poses
do not, and go on with whatever the output pose held before, a default-constructed pose.

`FromLookup` is what it means for a pose to be the result of a successful lookup.
`no_command_from_fabricated_poses_iff` says when a cycle that does not throw has only such poses.
-/

namespace SentryNav.PursuitController

variable {K : Type*} [Field K] [LinearOrder K]

/-! ## Lookups -/

/-- A lookup succeeds: there is nothing to look up, or the tf buffer answers. -/
def Answered (i : CycleInput K) (tolerance : K) (call : TfCall) (frame : String)
    (source : PoseStamped K) : Prop :=
  source.header.frameId = frame ∨ (i.transform call tolerance frame source).isSome = true

/-- A pose is the result of a successful lookup for another. -/
def FromLookup (i : CycleInput K) (tolerance : K) (call : TfCall) (frame : String)
    (source result : PoseStamped K) : Prop :=
  source.header.frameId = frame ∧ result = source ∨
    source.header.frameId ≠ frame ∧ i.transform call tolerance frame source = some result

variable {m : Libm K} {nav2 : Nav2 K} {i : CycleInput K} {c c' : Controller K} {plan : Path K}
  {tolerance : K} {call : TfCall} {frame : String} {source result outPose : PoseStamped K}

omit [Field K] [LinearOrder K] in
lemma FromLookup.answered (h : FromLookup i tolerance call frame source result) :
    Answered i tolerance call frame source := by
  rcases h with ⟨hframe, _⟩ | ⟨_, htransform⟩
  · exact .inl hframe
  · exact .inr (by rw [htransform]; rfl)

omit [Field K] [LinearOrder K] in
/-- What `transformPose` writes out after a successful lookup is its result. -/
lemma Answered.fromLookup (h : Answered i tolerance call frame source) (outPose : PoseStamped K) :
    FromLookup i tolerance call frame source
      (transformPose i tolerance call frame source outPose).2 := by
  rw [transformPose]
  by_cases hframe : source.header.frameId = frame
  · rw [if_pos hframe]
    exact .inl ⟨hframe, rfl⟩
  · obtain ⟨transformed, htransform⟩ := Option.isSome_iff_exists.mp (h.resolve_left hframe)
    rw [if_neg hframe, htransform]
    exact .inr ⟨hframe, htransform⟩

/-! ## The poses of a cycle -/

/-- `stamped_pose`. -/
def stampedPose (c : Controller K) (robotPose globalPlanPose : PoseStamped K) : PoseStamped K where
  header := { frameId := c.globalPlan.header.frameId, stamp := robotPose.header.stamp }
  pose := globalPlanPose.pose

/-- A pose, put on the ground. -/
def onGround (ps : PoseStamped K) : PoseStamped K :=
  { ps with pose := { ps.pose with position := { ps.pose.position with z := 0 } } }

/-- The pose of the transformed plan that sample `k` takes. -/
def sampledPose (plan : Path K) (k : ℕ) : PoseStamped K :=
  plan.poses[min (k * plan.poses.length / samplePoints) (plan.poses.length - 1)]?.getD default

/-- Every lookup that a cycle makes for poses of the plan and for samples of it succeeds. -/
structure AllAnswered (nav2 : Nav2 K) (i : CycleInput K) (c : Controller K) (plan : Path K) :
    Prop where
  planPoses : ∀ robotPose k source, robotPoseLookup i c = (true, robotPose) →
    (nearPart nav2 i c robotPose)[k]? = some source →
      Answered i c.params.transformTolerance (.planPose k) i.costmap.baseFrameId
        (stampedPose c robotPose source)
  samples : ∀ k < samplePoints,
    Answered i c.params.transformTolerance (.samplePose k) i.costmap.globalFrameId
      (sampledPose plan k)

/-- Every pose of the transformed plan is the result of a successful lookup for a pose of the global
plan, and every pose that the collision check gets is one for a pose of the transformed plan. -/
structure Genuine (nav2 : Nav2 K) (i : CycleInput K) (c : Controller K) (plan : Path K) :
    Prop where
  planPoses : ∀ k ps, plan.poses[k]? = some ps → ∃ robotPose source result,
    robotPoseLookup i c = (true, robotPose) ∧ (nearPart nav2 i c robotPose)[k]? = some source ∧
      source ∈ c.globalPlan.poses ∧
      FromLookup i c.params.transformTolerance (.planPose k) i.costmap.baseFrameId
        (stampedPose c robotPose source) result ∧ ps = onGround result
  samples : ∀ k ps, (costmapFrameLocalPlan i c.params plan)[k]? = some ps →
    sampledPose plan k ∈ plan.poses ∧
      FromLookup i c.params.transformTolerance (.samplePose k) i.costmap.globalFrameId
        (sampledPose plan k) ps

/-- The transformed plan, pose by pose. -/
lemma transformedPlan_getElem? (nav2 : Nav2 K) (i : CycleInput K) (c : Controller K)
    (robotPose : PoseStamped K) (k : ℕ) :
    (transformedPlan nav2 i c robotPose).poses[k]?
      = (nearPart nav2 i c robotPose)[k]?.map fun source =>
          onGround (transformPose i c.params.transformTolerance (.planPose k)
            i.costmap.baseFrameId (stampedPose c robotPose source) default).2 := by
  rw [transformedPlan, List.getElem?_mapIdx]
  rfl

omit [LinearOrder K] in
/-- The sampled poses, one by one. -/
lemma costmapFrameLocalPlan_getElem? (i : CycleInput K) (p : Params K) (plan : Path K) (k : ℕ) :
    (costmapFrameLocalPlan i p plan)[k]?
      = if k < samplePoints then
          some (transformPose i p.transformTolerance (.samplePose k) i.costmap.globalFrameId
            (sampledPose plan k) default).2
        else none := by
  rw [costmapFrameLocalPlan, List.getElem?_map]
  split
  · next hk => rw [List.getElem?_range hk]; rfl
  · next hk => rw [List.getElem?_eq_none (by simpa using hk)]; rfl

omit [LinearOrder K] in
/-- What is sampled is a pose of the plan. -/
lemma sampledPose_mem (h : plan.poses ≠ []) (k : ℕ) : sampledPose plan k ∈ plan.poses := by
  have hpos := List.length_pos_of_ne_nil h
  have hlt : min (k * plan.poses.length / samplePoints) (plan.poses.length - 1)
      < plan.poses.length := by omega
  rw [sampledPose, List.getElem?_eq_getElem hlt, Option.getD_some]
  exact List.getElem_mem hlt

/-- The poses of a cycle are genuine exactly if all its lookups succeed. -/
lemma genuine_iff (h : transformGlobalPlan nav2 i c = (.ok plan, c')) :
    Genuine nav2 i c plan ↔ AllAnswered nav2 i c plan := by
  obtain ⟨robotPose, hrobot, _, hnear, rfl, _⟩ := transformGlobalPlan_ok h
  constructor
  · intro hgenuine
    constructor
    · rintro robotPose' k source hrobot' hsource
      obtain rfl : robotPose = robotPose' := congrArg Prod.snd (hrobot.symm.trans hrobot')
      have hpose := transformedPlan_getElem? nav2 i c robotPose k
      rw [hsource] at hpose
      obtain ⟨robotPose', source', result, hrobot', hsource', _, hfrom, _⟩ :=
        hgenuine.planPoses k _ hpose
      obtain rfl : robotPose = robotPose' := congrArg Prod.snd (hrobot.symm.trans hrobot')
      obtain rfl : source = source' := Option.some.inj (hsource.symm.trans hsource')
      exact hfrom.answered
    · rintro k hk
      have hpose := costmapFrameLocalPlan_getElem? i c.params
        (transformedPlan nav2 i c robotPose) k
      rw [if_pos hk] at hpose
      exact (hgenuine.samples k _ hpose).2.answered
  · intro hanswered
    constructor
    · rintro k ps hps
      rw [transformedPlan_getElem?, Option.map_eq_some_iff] at hps
      obtain ⟨source, hsource, rfl⟩ := hps
      have hmem : source ∈ c.globalPlan.poses :=
        List.mem_of_mem_drop ((List.takeWhile_prefix _).subset (List.mem_of_getElem? hsource))
      exact ⟨robotPose, source, _, hrobot, hsource, hmem,
        (hanswered.planPoses robotPose k source hrobot hsource).fromLookup default, rfl⟩
    · rintro k ps hps
      rw [costmapFrameLocalPlan_getElem?] at hps
      split at hps
      · next hk =>
          obtain rfl := Option.some.inj hps
          have hposes : (transformedPlan nav2 i c robotPose).poses ≠ [] := by
            rw [transformedPlan, Ne, List.mapIdx_eq_nil_iff]
            exact hnear
          exact ⟨sampledPose_mem hposes k, (hanswered.samples k hk).fromLookup default⟩
      · exact absurd hps (by simp)

/-- **When no command comes from fabricated poses**: a cycle throws, or all its poses are genuine,
exactly if on every plan it gets either a collision is detected, or all lookups for poses of the
plan and for samples succeed. -/
theorem no_command_from_fabricated_poses_iff (m : Libm K) (nav2 : Nav2 K) (i : CycleInput K)
    (c : Controller K) :
    ((∃ reason, (computeVelocityCommands m nav2 i c).1 = .error reason) ∨
        ∀ plan, (transformGlobalPlan nav2 i c).1 = .ok plan → Genuine nav2 i c plan) ↔
      ∀ plan, (transformGlobalPlan nav2 i c).1 = .ok plan →
        isCollisionDetected i.costmap (costmapFrameLocalPlan i c.params plan) = true ∨
          AllAnswered nav2 i c plan := by
  rcases htransform : transformGlobalPlan nav2 i c with ⟨result, c'⟩
  cases result with
  | error reason => simp [computeVelocityCommands_unplanned m htransform]
  | ok plan =>
      have hthrows : (∃ reason, (computeVelocityCommands m nav2 i c).1 = .error reason) ↔
          isCollisionDetected i.costmap (costmapFrameLocalPlan i c.params plan) = true := by
        rw [computeVelocityCommands_driven m htransform, command]
        split <;> simp [*]
      simp only [hthrows, Except.ok.injEq, forall_eq', genuine_iff htransform]

/-! ## A base frame that is not known -/

/-- A map without obstacles, five metres wide and long around the origin. -/
def freeMap (baseFrameId : String) : Costmap ℚ where
  sizeInMetersX := 5.0
  sizeInMetersY := 5.0
  worldToMap x y :=
    if -2.5 ≤ x ∧ x < 2.5 ∧ -2.5 ≤ y ∧ y < 2.5 then some (⌊x + 2.5⌋₊, ⌊y + 2.5⌋₊) else none
  getCost _ _ := 0
  globalFrameId := "odom"
  baseFrameId := baseFrameId

/-- The robot on a free map, with a base frame that the tf buffer knows nothing of. -/
def lostBase : CycleInput ℚ where
  pose := poseAt 0 0
  velocity := default
  costmap := freeMap "base_footprint"
  transform _ _ _ _ := none

/-- The plan it drives on: a default-constructed pose. -/
def fabricated : Path ℚ where
  header := { stamp := 0, frameId := "base_footprint" }
  poses := [default]

/-- Every lookup for the plan fails, and the cycle gives a command. -/
theorem command_from_fabricated_poses :
    (∃ cmd, (computeVelocityCommands exactLibm shortPlan lostBase
        (configuredWith (.declared 20 2.5) ahead)).1 = .ok cmd) ∧
      (transformGlobalPlan shortPlan lostBase (configuredWith (.declared 20 2.5) ahead)).1
        = .ok fabricated ∧
      ¬ Genuine shortPlan lostBase (configuredWith (.declared 20 2.5) ahead) fabricated := by
  have hplan : (transformGlobalPlan shortPlan lostBase
      (configuredWith (.declared 20 2.5) ahead)).1 = .ok fabricated := by decide +kernel
  refine ⟨?_, hplan, fun hgenuine => ?_⟩
  · rw [computeVelocityCommands_driven exactLibm (Prod.ext hplan rfl), command_ok_iff]
    decide +kernel
  · obtain ⟨_, source, result, _, _, _, hfrom, _⟩ := hgenuine.planPoses 0 default rfl
    rcases hfrom with ⟨hframe, _⟩ | ⟨_, htransform⟩
    · exact absurd (show "odom" = "base_footprint" from hframe) (by decide)
    · exact absurd htransform (by simp [lostBase])

end SentryNav.PursuitController
