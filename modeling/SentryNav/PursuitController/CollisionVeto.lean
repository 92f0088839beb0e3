import SentryNav.PursuitController.Cycle
import Mathlib.Data.Rat.Floor
import Mathlib.Data.Rat.Sqrt

/-!
# The collision veto

`isCollisionDetected` goes along the sampled poses and ends at the first one that decides: a pose
on a cell with the cost of an obstacle, or a pose outside the map.  What it finds on a path is
`isCollisionDetected_iff`.

* **Without a pose outside the map** the veto is complete: a cycle that gives a command has no
  sampled pose on an obstacle.
* **Behind a pose outside the map** nothing is looked at, so an obstacle there is driven into.
  `command_unblocked_iff` says that this is the only way to miss one.
-/

namespace SentryNav.PursuitController

section Check

variable {K : Type*}

/-- The cost of the cell that a pose lies in, if it lies in the map. -/
def Costmap.costAt (costmap : Costmap K) (ps : PoseStamped K) : Option UInt8 :=
  (costmap.worldToMap ps.pose.position.x ps.pose.position.y).map fun cell =>
    costmap.getCost cell.1 cell.2

/-- A pose in the map, on a cell where the robot would touch an obstacle. -/
def Costmap.Blocked (costmap : Costmap K) (ps : PoseStamped K) : Prop :=
  ∃ cost ∈ costmap.costAt ps, inscribedInflatedObstacle ≤ cost

/-- A pose in the map. -/
def Costmap.InView (costmap : Costmap K) (ps : PoseStamped K) : Prop :=
  (costmap.costAt ps).isSome = true

instance (costmap : Costmap K) : DecidablePred costmap.Blocked := fun ps =>
  inferInstanceAs (Decidable (∃ cost ∈ costmap.costAt ps, inscribedInflatedObstacle ≤ cost))

/-- The poses before the first blocked one are all in the map, if there is a blocked one. -/
def Costmap.SeesFirstBlocked (costmap : Costmap K) (path : List (PoseStamped K)) : Prop :=
  ∀ sooner ps later, path = sooner ++ ps :: later → costmap.Blocked ps →
    (∀ q ∈ sooner, ¬ costmap.Blocked q) → ∀ q ∈ sooner, costmap.InView q

variable {costmap : Costmap K} {ps : PoseStamped K} {path : List (PoseStamped K)}

/-! ## What the check finds -/

/-- One pose of the check. -/
lemma isCollisionDetected_cons (ps : PoseStamped K) (rest : List (PoseStamped K)) :
    isCollisionDetected costmap (ps :: rest) = true ↔
      costmap.Blocked ps ∨ costmap.InView ps ∧ isCollisionDetected costmap rest = true := by
  simp only [isCollisionDetected, Costmap.Blocked, Costmap.InView, Costmap.costAt]
  rcases costmap.worldToMap ps.pose.position.x ps.pose.position.y with _ | ⟨mx, my⟩
  · simp
  · simp only [Option.map_some, Option.mem_def, Option.some.injEq, exists_eq_left',
      Option.isSome_some, true_and]
    split
    · next hcost => simp [hcost]
    · next hcost => simp [hcost]

/-- The check finds a blocked pose if all poses before it are in the map. -/
lemma isCollisionDetected_iff :
    isCollisionDetected costmap path = true ↔
      ∃ sooner ps later, path = sooner ++ ps :: later ∧ costmap.Blocked ps ∧
        ∀ q ∈ sooner, costmap.InView q := by
  induction path with
  | nil => simp [isCollisionDetected]
  | cons ps rest ih =>
      rw [isCollisionDetected_cons, ih]
      constructor
      · rintro (hblocked | ⟨hview, sooner, p, later, rfl, hblocked, hsooner⟩)
        · exact ⟨[], ps, rest, rfl, hblocked, fun q hq => absurd hq List.not_mem_nil⟩
        · refine ⟨ps :: sooner, p, later, rfl, hblocked, ?_⟩
          exact List.forall_mem_cons.mpr ⟨hview, hsooner⟩
      · rintro ⟨sooner, p, later, hpath, hblocked, hsooner⟩
        cases sooner with
        | nil =>
            obtain ⟨rfl, _⟩ := List.cons.inj hpath
            exact .inl hblocked
        | cons q sooner =>
            obtain ⟨rfl, rfl⟩ := List.cons.inj hpath
            obtain ⟨hview, hsooner⟩ := List.forall_mem_cons.mp hsooner
            exact .inr ⟨hview, sooner, p, later, rfl, hblocked, hsooner⟩

/-- A path with a blocked pose has a first one. -/
lemma exists_first_blocked (hps : ps ∈ path) (hblocked : costmap.Blocked ps) :
    ∃ sooner first later, path = sooner ++ first :: later ∧ costmap.Blocked first ∧
      ∀ q ∈ sooner, ¬ costmap.Blocked q := by
  induction path with
  | nil => exact absurd hps List.not_mem_nil
  | cons q rest ih =>
      by_cases hq : costmap.Blocked q
      · exact ⟨[], q, rest, rfl, hq, fun r hr => absurd hr List.not_mem_nil⟩
      · rcases List.mem_cons.mp hps with rfl | hrest
        · exact absurd hblocked hq
        · obtain ⟨sooner, first, later, rfl, hfirst, hsooner⟩ := ih hrest
          exact ⟨q :: sooner, first, later, rfl, hfirst, List.forall_mem_cons.mpr ⟨hq, hsooner⟩⟩

/-- The check misses nothing exactly if the first blocked pose comes before all that is outside the
map. -/
lemma passes_unblocked_iff :
    (isCollisionDetected costmap path = false → ∀ ps ∈ path, ¬ costmap.Blocked ps) ↔
      costmap.SeesFirstBlocked path := by
  constructor
  · rintro hpass sooner ps later rfl hblocked hsooner q hq
    have hdetected : isCollisionDetected costmap (sooner ++ ps :: later) = true := by
      by_contra hfalse
      exact hpass (Bool.eq_false_of_not_eq_true hfalse) ps (by simp) hblocked
    obtain ⟨sooner', p, later', hsplit, hp, hsooner'⟩ := isCollisionDetected_iff.mp hdetected
    rcases List.append_eq_append_iff.mp hsplit with ⟨mid, rfl, _⟩ | ⟨mid, hmid, hrest⟩
    · exact hsooner' q (List.mem_append_left mid hq)
    · cases mid with
      | nil =>
          rw [List.append_nil] at hmid
          exact hsooner' q (hmid ▸ hq)
      | cons x mid =>
          obtain ⟨rfl, _⟩ := List.cons.inj hrest
          exact absurd hp (hsooner p (by rw [hmid]; simp))
  · intro hsees hfalse ps hps hblocked
    obtain ⟨sooner, first, later, rfl, hfirst, hsooner⟩ := exists_first_blocked hps hblocked
    have hview := hsees sooner first later rfl hfirst hsooner
    rw [isCollisionDetected_iff.mpr ⟨sooner, first, later, rfl, hfirst, hview⟩] at hfalse
    exact absurd hfalse (by simp)

end Check

/-! ## Commands -/

/-- **When the veto holds**: on a transformed plan, a cycle gives no command over a blocked sampled
pose exactly if the first blocked one comes before every sampled pose outside the map. -/
theorem command_unblocked_iff {K : Type*} [Field K] [LinearOrder K] (m : Libm K) (nav2 : Nav2 K)
    (i : CycleInput K) (c : Controller K) (plan : Path K)
    (h : (transformGlobalPlan nav2 i c).1 = .ok plan) :
    (∀ cmd, (computeVelocityCommands m nav2 i c).1 = .ok cmd →
        ∀ ps ∈ costmapFrameLocalPlan i c.params plan, ¬ i.costmap.Blocked ps) ↔
      i.costmap.SeesFirstBlocked (costmapFrameLocalPlan i c.params plan) := by
  have hplan : transformGlobalPlan nav2 i c = (.ok plan, (transformGlobalPlan nav2 i c).2) :=
    Prod.ext h rfl
  rw [computeVelocityCommands_driven m hplan, ← passes_unblocked_iff, ← command_ok_iff]
  constructor
  · rintro hsafe ⟨cmd, hcmd⟩
    exact hsafe cmd hcmd
  · intro hsafe cmd hcmd
    exact hsafe ⟨cmd, hcmd⟩

/-! ## A plan that begins beside the map -/

/-- The functions of `<cmath>` for points on the `x`-axis ahead, and lengths that are rational. -/
def exactLibm : Libm ℚ where
  sqrt := Rat.sqrt
  cos _ := 1
  sin _ := 0
  hypot x y := Rat.sqrt (x * x + y * y)
  atan2 _ _ := 0

/-- The functions of `nav2_util` and `tf2` on a short plan that begins where the robot is nearest
and does not turn. -/
def shortPlan : Nav2 ℚ where
  euclideanDistance a b := exactLibm.hypot (b.pose.position.x - a.pose.position.x)
    (b.pose.position.y - a.pose.position.y)
  firstAfterIntegratedDistance poses _ := poses.length
  minBy _ _ := 0
  calculatePathLength path := (calculateCumulativeDistances exactLibm path).getLast?.getD 0
  getYaw _ := 0

/-- A pose in the frame of the plan. -/
def poseAt (x y : ℚ) : PoseStamped ℚ where
  header := { stamp := 0, frameId := "odom" }
  pose := { position := ⟨x, y, 0⟩, orientation := ⟨0, 0, 0, 1⟩ }

/-- A plan through some poses. -/
def planOf (poses : List (PoseStamped ℚ)) : Path ℚ where
  header := { stamp := 0, frameId := "odom" }
  poses := poses

/-- The robot at the origin; the map begins half a metre ahead and has one lethal cell, right
there. -/
def besideMap : CycleInput ℚ where
  pose := poseAt 0 0
  velocity := default
  costmap :=
    { sizeInMetersX := 5.0
      sizeInMetersY := 5.0
      worldToMap := fun x y =>
        if 0.5 ≤ x ∧ x < 5.5 ∧ -2.5 ≤ y ∧ y < 2.5 then some (⌊x - 0.5⌋₊, ⌊y + 2.5⌋₊) else none
      getCost := fun mx my => if mx = 0 ∧ my = 2 then 254 else 0
      globalFrameId := "odom"
      baseFrameId := "odom" }
  transform _ _ _ ps := some ps

/-- A controller with the declared parameters and a plan. -/
def configuredWith (p : Params ℚ) (plan : Path ℚ) : Controller ℚ :=
  setPlan plan (configure p
    { params := p
      movePid := .make 0 0 0 0 0 0
      headingPid := .make 0 0 0 0 0 0
      lastVelocityScalingFactor := 0
      globalPlan := { header := default, poses := [] } })

/-- A plan into the lethal cell. -/
def ahead : Path ℚ := planOf [poseAt 1 0]

/-- A plan that begins outside the map and goes on into the lethal cell. -/
def fromBeside : Path ℚ := planOf [poseAt 0.25 0, poseAt 1 0]

lemma transformGlobalPlan_besideMap_ahead :
    (transformGlobalPlan shortPlan besideMap (configuredWith (.declared 20 2.5) ahead)).1
      = .ok ahead := by decide +kernel

/-- On a plan that stays in the map, the veto holds. -/
theorem command_unblocked_iff_ahead :
    (∀ cmd, (computeVelocityCommands exactLibm shortPlan besideMap
        (configuredWith (.declared 20 2.5) ahead)).1 = .ok cmd →
      ∀ ps ∈ costmapFrameLocalPlan besideMap (.declared 20 2.5) ahead,
        ¬ besideMap.costmap.Blocked ps) ↔
    besideMap.costmap.SeesFirstBlocked
      (costmapFrameLocalPlan besideMap (.declared 20 2.5) ahead) :=
  command_unblocked_iff exactLibm shortPlan besideMap (configuredWith (.declared 20 2.5) ahead)
    ahead transformGlobalPlan_besideMap_ahead

/-- Beside the map the check ends, and the command goes into the lethal cell. -/
theorem command_into_obstacle :
    (transformGlobalPlan shortPlan besideMap (configuredWith (.declared 20 2.5) fromBeside)).1
        = .ok fromBeside ∧
      (∃ cmd, (computeVelocityCommands exactLibm shortPlan besideMap
        (configuredWith (.declared 20 2.5) fromBeside)).1 = .ok cmd) ∧
      ∃ ps ∈ costmapFrameLocalPlan besideMap (.declared 20 2.5) fromBeside,
        besideMap.costmap.Blocked ps := by
  have hplan : (transformGlobalPlan shortPlan besideMap
      (configuredWith (.declared 20 2.5) fromBeside)).1 = .ok fromBeside := by decide +kernel
  refine ⟨hplan, ?_, ?_⟩
  · rw [computeVelocityCommands_driven exactLibm (Prod.ext hplan rfl), command_ok_iff]
    decide +kernel
  · exact ⟨poseAt 1 0, by decide +kernel, by decide +kernel⟩

end SentryNav.PursuitController
