import SentryNav.Core.Machine
import SentryNav.PursuitController.CollisionVeto

/-!
# Pruning never loses the goal

Every cycle takes away the poses that the robot has passed, up to the one that is nearest to it.
`Remains` is what is left at any time: a suffix of the path, with its last pose still there.  It is
kept by every way out of `transformGlobalPlan`, so by every cycle of every run.
-/

namespace SentryNav.PursuitController

open Machine

section Remains

variable {K : Type*}

/-- What `nav2_util` promises of the positions it returns in a range with poses in it. -/
structure Nav2.Positions (nav2 : Nav2 K) : Prop where
  first_pos : ∀ poses d, poses ≠ [] → 0 < nav2.firstAfterIntegratedDistance poses d
  minBy_lt : ∀ range f, range ≠ [] → nav2.minBy range f < range.length

/-- What is left of a path: some of its end, in the same frame. -/
structure Remains (path left : Path K) : Prop where
  header : left.header = path.header
  ne_nil : left.poses ≠ []
  suffix : left.poses <:+ path.poses

variable {path left : Path K} {nav2 : Nav2 K} {c : Controller K}

lemma Remains.refl (h : path.poses ≠ []) : Remains path path := ⟨rfl, h, List.suffix_refl _⟩

/-- The goal is still there. -/
lemma Remains.getLast? (h : Remains path left) : left.poses.getLast? = path.poses.getLast? := by
  obtain ⟨passed, hpassed⟩ := h.suffix
  rw [← hpassed, List.getLast?_append_of_ne_nil passed h.ne_nil]

/-- The nearest pose is in the plan. -/
lemma transformationBegin_lt (hnav2 : nav2.Positions) (hplan : c.globalPlan.poses ≠ [])
    (robotPose : PoseStamped K) :
    transformationBegin nav2 c robotPose < c.globalPlan.poses.length := by
  have hfirst := hnav2.first_pos c.globalPlan.poses c.params.maxRobotPoseSearchDist hplan
  refine (hnav2.minBy_lt _ _ ?_).trans_le (List.length_take_le' _ _)
  rw [Ne, List.take_eq_nil_iff]
  rintro (hzero | hnil)
  · exact absurd hzero hfirst.ne'
  · exact hplan hnil

/-- Pruning leaves the goal. -/
lemma Remains.prune (h : Remains path c.globalPlan) (hnav2 : nav2.Positions)
    (robotPose : PoseStamped K) : Remains path (c.prune nav2 robotPose).globalPlan where
  header := h.header
  ne_nil hnil := by
    have hlt := transformationBegin_lt hnav2 h.ne_nil robotPose
    exact absurd (List.drop_eq_nil_iff.mp hnil) (not_le.mpr hlt)
  suffix := (List.drop_suffix _ _).trans h.suffix

end Remains

section Run

variable {K : Type*} [Field K] [LinearOrder K]

/-- What one cycle does to the plan, and what it takes from it: `path` is what the plan was set
to. -/
structure PrunesPlan (path : Path K) (e : Emission (Controller K) (Call K) (Cycle K)) :
    Prop where
  remains : Remains path e.after.globalPlan
  pruned : e.after.globalPlan.poses <:+ e.before.globalPlan.poses
  shrinks : e.after.globalPlan.poses.length ≤ e.before.globalPlan.poses.length
  goal : e.after.globalPlan.poses.getLast? = path.poses.getLast?
  /-- Every exception but that of an empty result comes before the closest pose is found. -/
  unchanged : ∀ reason, e.output = .unplanned reason →
    reason ≠ "Resulting plan has 0 poses in it." → e.after.globalPlan = e.before.globalPlan
  /-- The plan driven on has one pose for each pose of a piece from the front of what is left. -/
  driven : ∀ plan drive result, e.output = .driven plan drive result →
    ∃ i robotPose near, e.past.events.head? = some (.computeVelocityCommands i) ∧
      near ≠ [] ∧ near <+: e.after.globalPlan.poses ∧
      plan.poses = near.mapIdx (transformGlobalPoseToLocal i e.before robotPose)

variable {path : Path K} {m : Libm K} {nav2 : Nav2 K} {c : Controller K}

/-- A cycle prunes the plan. -/
lemma runCycle_prunesPlan (hnav2 : nav2.Positions) (h : Remains path c.globalPlan)
    (past : Past (Call K) (Cycle K)) (i : CycleInput K) :
    PrunesPlan path ⟨past.step (.computeVelocityCommands i) [], c, (runCycle m nav2 i c).2,
      (runCycle m nav2 i c).1⟩ := by
  rcases htransform : transformGlobalPlan nav2 i c with ⟨result, c'⟩
  cases transformGlobalPlan_outcome htransform with
  | noPlan hplan => exact absurd hplan h.ne_nil
  | noRobotPose =>
      rw [runCycle_unplanned m htransform]
      exact ⟨h, List.suffix_refl _, le_refl _, h.getLast?, fun _ _ _ => rfl, by simp⟩
  | nothingNear robotPose =>
      rw [runCycle_unplanned m htransform]
      have hprune := h.prune hnav2 robotPose
      have hsuffix : (c.prune nav2 robotPose).globalPlan.poses <:+ c.globalPlan.poses :=
        List.drop_suffix _ _
      refine ⟨hprune, hsuffix, hsuffix.length_le, hprune.getLast?, ?_, by simp⟩
      rintro reason hreason hother
      exact absurd (Cycle.unplanned.inj hreason).symm hother
  | planned robotPose _ _ hnear =>
      rw [runCycle_driven m htransform]
      have hprune := h.prune hnav2 robotPose
      have hsuffix : (c.prune nav2 robotPose).globalPlan.poses <:+ c.globalPlan.poses :=
        List.drop_suffix _ _
      refine ⟨hprune, hsuffix, hsuffix.length_le, hprune.getLast?, by simp, ?_⟩
      rintro plan drive result houtput
      obtain ⟨rfl, _⟩ := Cycle.driven.inj houtput
      exact ⟨i, robotPose, nearPart nav2 i c robotPose, rfl, hnear, List.takeWhile_prefix _, rfl⟩

/-- **Pruning never loses the goal**: whatever path with poses is set, and for every sequence of
cycles after that, with any robot poses, speeds, costmaps and transforms, also where cycles
throw. -/
theorem plan_pruning (m : Libm K) (nav2 : Nav2 K) (hnav2 : nav2.Positions) (path : Path K)
    (hpath : path.poses ≠ []) (c : Controller K) (inputs : List (CycleInput K)) :
    ∀ e ∈ emissions (call m nav2) .start (setPlan path c)
      (inputs.map .computeVelocityCommands), PrunesPlan path e := by
  have hkeep : ∀ (past : Past (Call K) (Cycle K)) c x, Remains path c.globalPlan →
      (∃ i, x = .computeVelocityCommands i) →
        Remains path (call m nav2 c x).1.globalPlan := by
    rintro past c _ h ⟨i, rfl⟩
    exact (runCycle_prunesPlan hnav2 h past i).remains
  refine cycles_safe (fun _ c => Remains path c.globalPlan) (PrunesPlan path) hkeep ?_
    (Remains.refl hpath) (admissible_of_forall_mem ?_ _ _)
  · intro past c i h _
    exact runCycle_prunesPlan hnav2 h past i
  · rintro past c x hx
    obtain ⟨i, _, rfl⟩ := List.mem_map.mp hx
    exact ⟨i, rfl⟩

end Run

/-- The place of the least value. -/
def argmin {α : Type*} (f : α → ℚ) : List α → ℕ
  | [] => 0
  | a :: rest => if ∀ b ∈ rest[argmin f rest]?, f a ≤ f b then 0 else argmin f rest + 1

lemma argmin_lt {α : Type*} (f : α → ℚ) (xs : List α) (h : xs ≠ []) : argmin f xs < xs.length := by
  induction xs with
  | nil => exact absurd rfl h
  | cons a rest ih =>
      rw [argmin]
      split
      · exact Nat.succ_pos _
      next hlater =>
        refine Nat.succ_lt_succ (ih ?_)
        rintro rfl
        exact hlater nofun

/-- The functions of `nav2_util` on a plan along the `x`-axis. -/
def nearestPose : Nav2 ℚ := { shortPlan with minBy := fun range f => argmin f range }

/-- What `nearestPose` returns are positions. -/
lemma nearestPose_positions : nearestPose.Positions where
  first_pos _ _ h := List.length_pos_of_ne_nil h
  minBy_lt range f h := argmin_lt f range h

/-- Four poses, a metre apart. -/
def fourPoses : Path ℚ := planOf [poseAt 0 0, poseAt 1 0, poseAt 2 0, poseAt 3 0]

/-- The robot has come to a place; the map is free. -/
def arrivedAt (x : ℚ) : CycleInput ℚ :=
  { besideMap with
    pose := poseAt x 0
    costmap := { besideMap.costmap with getCost := fun _ _ => 0 } }

/-- The robot's pose is in a frame from which there is no transform. -/
def lost : CycleInput ℚ :=
  { arrivedAt 3 with
    pose := { poseAt 3 0 with header := { stamp := 0, frameId := "map" } }
    transform := fun _ _ _ _ => none }

/-- The robot goes by the first pose and the second, and then it is lost: poses are pruned in the
first two cycles, and none in the third, which throws. -/
theorem plan_pruning_passing :
    let es := emissions (call exactLibm nearestPose) .start
      (setPlan fourPoses (configuredWith (.declared 20 2.5) fourPoses))
      ([arrivedAt 1, arrivedAt 2.25, lost].map .computeVelocityCommands)
    es.map (fun e => e.after.globalPlan.poses.length) = [3, 2, 2] ∧
      ∀ e ∈ es, PrunesPlan fourPoses e :=
  ⟨by decide +kernel,
    plan_pruning exactLibm nearestPose nearestPose_positions fourPoses (List.cons_ne_nil _ _)
      (configuredWith (.declared 20 2.5) fourPoses) [arrivedAt 1, arrivedAt 2.25, lost]⟩

end SentryNav.PursuitController
