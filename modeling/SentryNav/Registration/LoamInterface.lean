import SentryNav.Core.Machine
import SentryNav.Registration.SensorScanGeneration

/-!
# `LoamInterfaceNode`

The adapter for a lidar odometry whose messages are in a frame of its own, which lies where the
lidar was at first.  It looks up the extrinsics of the lidar with the first odometry messages, until
found, and transforms odometry and clouds by them.

`odometryCallback` waits for the extrinsics; `pointCloudCallback` does not ask for them.
`consistent_iff` says which runs come out consistent, everything transformed by one extrinsic that
has been looked up before: those in which no cloud comes too early.
-/

namespace SentryNav.Registration

open Machine

variable {K P : Type*} [CommRing K]

/-! ## The node -/

/-- The frame names the node is configured with. -/
structure LoamConfig where
  odomFrame : String
  lidarFrame : String

/-- The members that change. -/
structure LoamState (K : Type*) [CommRing K] where
  baseFrameToLidarInitialized : Bool
  odomToLidarOdom : Rigid K

/-- What the node is called with; a lookup in the tf buffer that throws is `none`. -/
inductive LoamEvent (K P : Type*) [CommRing K]
  | pointCloud (msg : Cloud (PointXYZI K))
  | odometry (msg : Odometry P) (lookup : Option (Rigid K))

/-- What the node publishes. -/
inductive LoamOutput (K P : Type*)
  | registeredScan (msg : Cloud (PointXYZI K))
  | lidarOdometry (msg : Odometry P)

/-- A node that has been constructed: the transform has not been set. -/
def LoamState.init (odomToLidarOdom : Rigid K) : LoamState K := ⟨false, odomToLidarOdom⟩

namespace LoamInterface

/-- `pointCloudCallback`. -/
def pointCloudCallback (cfg : LoamConfig) (msg : Cloud (PointXYZI K)) (s : LoamState K) :
    LoamState K × List (LoamOutput K P) :=
  (s, [.registeredScan (transformPointCloud cfg.odomFrame s.odomToLidarOdom msg)])

/-- The message that `odometryCallback` publishes. -/
def lidarOdometry (codec : PoseCodec K P) (cfg : LoamConfig) (odomToLidarOdom : Rigid K)
    (msg : Odometry P) : Odometry P where
  header := { stamp := msg.header.stamp, frameId := cfg.odomFrame }
  childFrameId := cfg.lidarFrame
  pose := codec.toMsg (odomToLidarOdom * codec.fromMsg msg.pose)

/-- `odometryCallback`. -/
def odometryCallback (codec : PoseCodec K P) (cfg : LoamConfig) (msg : Odometry P)
    (lookup : Option (Rigid K)) (s : LoamState K) : LoamState K × List (LoamOutput K P) :=
  if s.baseFrameToLidarInitialized then
    (s, [.lidarOdometry (lidarOdometry codec cfg s.odomToLidarOdom msg)])
  else
    match lookup with
    | none => (s, [])
    | some baseFrameToLidar =>
        (⟨true, baseFrameToLidar⟩,
          [.lidarOdometry (lidarOdometry codec cfg baseFrameToLidar msg)])

/-- One callback. -/
def step (codec : PoseCodec K P) (cfg : LoamConfig) (s : LoamState K) :
    LoamEvent K P → LoamState K × List (LoamOutput K P)
  | .pointCloud msg => pointCloudCallback cfg msg s
  | .odometry msg lookup => odometryCallback codec cfg msg lookup s

/-! ## What a node has been told -/

/-- The extrinsic looked up first; it is looked up with each odometry message until found. -/
def lookedUp : List (LoamEvent K P) → Option (Rigid K)
  | [] => none
  | .pointCloud _ :: past => lookedUp past
  | .odometry _ lookup :: past => (lookedUp past).or lookup

/-- Once looked up, the extrinsic stays. -/
lemma lookedUp_of_suffix {past events : List (LoamEvent K P)} {T : Rigid K}
    (hsuffix : past <:+ events) (h : lookedUp past = some T) : lookedUp events = some T := by
  obtain ⟨later, rfl⟩ := hsuffix
  induction later with
  | nil => exact h
  | cons e later ih =>
      cases e with
      | pointCloud msg => exact ih
      | odometry msg lookup => rw [List.cons_append, lookedUp, ih, Option.some_or]

/-- The members say what the node has been told. -/
structure LoamInv (past : Past (LoamEvent K P) (LoamOutput K P)) (s : LoamState K) : Prop where
  initialized : s.baseFrameToLidarInitialized = (lookedUp past.events).isSome
  known : ∀ T, lookedUp past.events = some T → s.odomToLidarOdom = T

variable {codec : PoseCodec K P} {cfg : LoamConfig}
  {past : Past (LoamEvent K P) (LoamOutput K P)} {s : LoamState K}

lemma loamInv_init (odomToLidarOdom : Rigid K) :
    LoamInv (.start : Past (LoamEvent K P) (LoamOutput K P)) (LoamState.init odomToLidarOdom) where
  initialized := rfl
  known _ h := absurd h nofun

/-- What `odometryCallback` does, by what has been looked up. -/
lemma odometryCallback_eq (h : LoamInv past s) (msg : Odometry P) (lookup : Option (Rigid K)) :
    odometryCallback codec cfg msg lookup s
      = match lookedUp (.odometry msg lookup :: past.events) with
        | none => (s, [])
        | some T => (⟨true, T⟩, [.lidarOdometry (lidarOdometry codec cfg T msg)]) := by
  have hinit := h.initialized
  rw [lookedUp]
  cases hlooked : lookedUp past.events with
  | some T =>
      have hmembers : s = ⟨true, T⟩ := by
        rw [hlooked, Option.isSome_some] at hinit
        exact congrArg₂ LoamState.mk hinit (h.known T hlooked)
      rw [hmembers]
      rfl
  | none =>
      have hnot : ¬ s.baseFrameToLidarInitialized = true := by
        rw [hinit, hlooked]
        exact Bool.false_ne_true
      simp only [odometryCallback, if_neg hnot]
      cases lookup <;> rfl

/-- Both callbacks keep the invariant. -/
lemma LoamInv.step (h : LoamInv past s) (e : LoamEvent K P) :
    LoamInv (past.step e (step codec cfg s e).2) (step codec cfg s e).1 := by
  cases e with
  | pointCloud msg => exact ⟨h.initialized, h.known⟩
  | odometry msg lookup =>
      rw [LoamInterface.step, odometryCallback_eq h]
      cases hlooked : lookedUp (.odometry msg lookup :: past.events) with
      | none =>
          have hbefore : lookedUp past.events = none := (Option.or_eq_none_iff.mp hlooked).1
          refine ⟨?_, fun T hT => absurd (hlooked.symm.trans hT) nofun⟩
          rw [h.initialized, hbefore]
          exact congrArg Option.isSome hlooked.symm
      | some T =>
          refine ⟨congrArg Option.isSome hlooked.symm, fun S hS => ?_⟩
          exact Option.some.inj (hlooked.symm.trans hS)

/-! ## Consistent runs -/

/-- A message published has been transformed by an extrinsic that has been looked up. -/
def UsesExtrinsic (codec : PoseCodec K P) (cfg : LoamConfig) (T : Rigid K)
    (m : Emission (LoamState K) (LoamEvent K P) (LoamOutput K P)) : Prop :=
  lookedUp m.past.events = some T ∧
    match m.output with
    | .registeredScan scan => ∃ msg, m.past.events.head? = some (.pointCloud msg) ∧
        scan = transformPointCloud cfg.odomFrame T msg
    | .lidarOdometry odom => ∃ msg lookup, m.past.events.head? = some (.odometry msg lookup) ∧
        odom = lidarOdometry codec cfg T msg

/-- Everything published in a run has been transformed by the same extrinsic. -/
def Consistent (codec : PoseCodec K P) (cfg : LoamConfig)
    (run : List (Emission (LoamState K) (LoamEvent K P) (LoamOutput K P))) : Prop :=
  ∃ T, ∀ m ∈ run, UsesExtrinsic codec cfg T m

/-- A cloud comes only after the extrinsic has been looked up. -/
def CloudInTime (past : Past (LoamEvent K P) (LoamOutput K P)) (_ : LoamState K) :
    LoamEvent K P → Prop
  | .pointCloud _ => lookedUp past.events ≠ none
  | .odometry _ _ => True

/-- What a callback publishes is as it should be just when a cloud comes in time. -/
lemma step_usesExtrinsic_iff (h : LoamInv past s) (e : LoamEvent K P) :
    (∀ m ∈ sent past s e (step codec cfg s e).1 (step codec cfg s e).2,
      ∃ T, UsesExtrinsic codec cfg T m) ↔ CloudInTime past s e := by
  rw [forall_mem_sent]
  cases e with
  | pointCloud msg =>
      constructor
      · intro hgood hnone
        obtain ⟨T, hT, -⟩ := hgood [] _ [] rfl
        exact absurd (hnone.symm.trans hT) nofun
      · intro hlooked sooner o later ho
        obtain ⟨rfl, rfl⟩ := only_output ho
        obtain ⟨T, hT⟩ := Option.ne_none_iff_exists'.mp hlooked
        exact ⟨T, hT, msg, rfl, by rw [h.known T hT]⟩
  | odometry msg lookup =>
      refine ⟨fun _ => trivial, fun _ sooner o later ho => ?_⟩
      rw [step, odometryCallback_eq h] at ho
      cases hlooked : lookedUp (.odometry msg lookup :: past.events) with
      | none =>
          rw [hlooked] at ho
          exact absurd ho (by simp)
      | some T =>
          rw [hlooked] at ho
          obtain ⟨rfl, rfl⟩ := only_output ho
          exact ⟨T, hlooked, msg, lookup, rfl, rfl⟩

/-- **Which runs are consistent.**  Whatever the transform contains at first, everything published
is transformed by one extrinsic, looked up before, just when no cloud comes before that. -/
theorem consistent_iff (codec : PoseCodec K P) (cfg : LoamConfig) (odomToLidarOdom : Rigid K)
    (events : List (LoamEvent K P)) :
    Consistent codec cfg
        (emissions (step codec cfg) .start (LoamState.init odomToLidarOdom) events) ↔
      Admissible (step codec cfg) CloudInTime .start (LoamState.init odomToLidarOdom) events := by
  rw [← emissions_good_iff LoamInv (fun m => ∃ T, UsesExtrinsic codec cfg T m)
    (fun _ _ e h => h.step e) (fun _ _ e h => step_usesExtrinsic_iff h e) events .start _
    (loamInv_init odomToLidarOdom)]
  constructor
  · rintro ⟨T, hall⟩ m hm
    exact ⟨T, hall m hm⟩
  · intro hall
    refine ⟨(lookedUp events.reverse).getD 1, fun m hm => ?_⟩
    obtain ⟨T, hT, hused⟩ := hall m hm
    have hsuffix : m.past.events <:+ events.reverse ++ [] := past_suffix_of_mem hm
    rw [List.append_nil] at hsuffix
    rw [lookedUp_of_suffix hsuffix hT, Option.getD_some]
    exact ⟨hT, hused⟩

/-- **A cloud before its extrinsic.**  The first message is a cloud, and it is published,
transformed by whatever the member contains. -/
theorem cloud_too_early :
    ¬ ∀ (odomToLidarOdom : Rigid ℚ) (events : List (LoamEvent ℚ (Rigid ℚ))),
      Consistent (PoseCodec.plain ℚ) ⟨"odom", "lidar"⟩
        (emissions (step (PoseCodec.plain ℚ) ⟨"odom", "lidar"⟩) .start
          (LoamState.init odomToLidarOdom) events) := by
  intro hconsistent
  obtain ⟨T, hall⟩ := hconsistent 1 [.pointCloud ⟨⟨0, "lidar_odom"⟩, [⟨0, 0⟩]⟩]
  exact absurd (hall _ List.mem_cons_self).1 nofun

end LoamInterface

end SentryNav.Registration
