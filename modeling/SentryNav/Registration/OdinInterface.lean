import SentryNav.Core.Machine
import SentryNav.Registration.SensorScanGeneration

/-!
# `OdinInterfaceNode`

The adapter that makes an Odin sensor look like the lidar odometry the rest of the system was built
for: it composes the odometry of the IMU with the extrinsics of the lidar, publishes that as
`lidar_odometry`, and publishes the raw cloud, transformed, as `registered_scan`.

`registeredScan_law` says what comes of the two together in every run: the node applies the
**inverse** of the pose it has published, so that a scan fits its odometry, and the raw cloud can be
recovered downstream, only where applying the pose twice does nothing to the points.
-/

namespace SentryNav.Registration

open Machine

variable {K P : Type*} [CommRing K]

/-! ## The node -/

/-- The frame names the node is configured with, and the extrinsics to fall back on. -/
structure OdinConfig (K : Type*) [CommRing K] where
  odomFrame : String
  lidarFrame : String
  imuToLidarParam : Rigid K

/-- The members that change. -/
structure OdinState (K : Type*) [CommRing K] where
  imuToLidarCached : Bool
  imuToLidar : Rigid K
  odomToLidarInitialized : Bool
  odomToLidar : Rigid K

/-- What the node is called with; a lookup in the tf buffer that throws is `none`. -/
inductive OdinEvent (K P : Type*) [CommRing K]
  | odometry (msg : Odometry P) (lookup : Option (Rigid K))
  | pointCloud (msg : Cloud (Fin 3 → K))

/-- What the node publishes. -/
inductive OdinOutput (K P : Type*)
  | lidarOdometry (msg : Odometry P)
  | registeredScan (msg : Cloud (PointXYZI K))

/-- A node that has been constructed: the two transforms have not been set. -/
def OdinState.init (imuToLidar odomToLidar : Rigid K) : OdinState K where
  imuToLidarCached := false
  imuToLidar := imuToLidar
  odomToLidarInitialized := false
  odomToLidar := odomToLidar

/-- `getImuToLidar`: the transform, and the members afterwards. -/
def getImuToLidar (cfg : OdinConfig K) (lookup : Option (Rigid K)) (s : OdinState K) :
    Rigid K × OdinState K :=
  if s.imuToLidarCached then (s.imuToLidar, s)
  else
    match lookup with
    | some T => (T, { s with imuToLidar := T, imuToLidarCached := true })
    | none => (cfg.imuToLidarParam, s)

/-- `odometryCallback`. -/
def odometryCallback (codec : PoseCodec K P) (cfg : OdinConfig K) (msg : Odometry P)
    (lookup : Option (Rigid K)) (s : OdinState K) : OdinState K × List (OdinOutput K P) :=
  let odomToImu := codec.fromMsg msg.pose
  let (imuToLidar, s) := getImuToLidar cfg lookup s
  let s := { s with odomToLidar := odomToImu * imuToLidar, odomToLidarInitialized := true }
  (s, [.lidarOdometry
    { header := { stamp := msg.header.stamp, frameId := cfg.odomFrame }
      childFrameId := cfg.lidarFrame
      pose := codec.toMsg s.odomToLidar }])

/-- `pointCloudCallback`: the points are read without their intensities and get new ones. -/
def pointCloudCallback (cfg : OdinConfig K) (msg : Cloud (Fin 3 → K)) (s : OdinState K) :
    OdinState K × List (OdinOutput K P) :=
  if !s.odomToLidarInitialized then (s, [])
  else
    let lidarToOdom := s.odomToLidar⁻¹
    let transformed := msg.points.map fun p => lidarToOdom • p
    (s, [.registeredScan
      { header := { stamp := msg.header.stamp, frameId := cfg.odomFrame }
        points := transformed.map fun p => { xyz := p, intensity := 0 } }])

/-- One callback. -/
def odinStep (codec : PoseCodec K P) (cfg : OdinConfig K) (s : OdinState K) :
    OdinEvent K P → OdinState K × List (OdinOutput K P)
  | .odometry msg lookup => odometryCallback codec cfg msg lookup s
  | .pointCloud msg => pointCloudCallback cfg msg s

/-! ## What a node has been told -/

/-- The pose of the odometry message received last. -/
def lastPose : List (OdinEvent K P) → Option P
  | [] => none
  | .odometry msg _ :: _ => some msg.pose
  | .pointCloud _ :: past => lastPose past

/-- The extrinsics looked up first; they are looked up with each odometry message until found. -/
def lookedUp : List (OdinEvent K P) → Option (Rigid K)
  | [] => none
  | .odometry _ lookup :: past => (lookedUp past).or lookup
  | .pointCloud _ :: past => lookedUp past

/-- The extrinsics in use: what has been looked up, or the parameter. -/
def extrinsics (cfg : OdinConfig K) (past : List (OdinEvent K P)) : Rigid K :=
  (lookedUp past).getD cfg.imuToLidarParam

/-- The message on `lidar_odometry` published last. -/
def lastLidarOdometry : List (OdinOutput K P) → Option (Odometry P)
  | [] => none
  | .lidarOdometry msg :: _ => some msg
  | .registeredScan _ :: past => lastLidarOdometry past

/-! ## The invariant -/

/-- The members say what the node has been told, and what it has published. -/
structure OdinInv (codec : PoseCodec K P) (cfg : OdinConfig K)
    (past : Past (OdinEvent K P) (OdinOutput K P)) (s : OdinState K) : Prop where
  cached : s.imuToLidarCached = (lookedUp past.events).isSome
  known : ∀ T, lookedUp past.events = some T → s.imuToLidar = T
  composed : s.odomToLidarInitialized = true → ∃ pose odom,
    lastPose past.events = some pose ∧ lastLidarOdometry past.outputs = some odom ∧
      s.odomToLidar = codec.fromMsg pose * extrinsics cfg past.events ∧
      odom.pose = codec.toMsg s.odomToLidar

variable {codec : PoseCodec K P} {cfg : OdinConfig K}

lemma odinInv_init (imuToLidar odomToLidar : Rigid K) :
    OdinInv codec cfg .start (OdinState.init imuToLidar odomToLidar) where
  cached := rfl
  known _ h := absurd h (by simp [lookedUp, Past.start])
  composed h := absurd h (by simp [OdinState.init])

variable {past : Past (OdinEvent K P) (OdinOutput K P)} {s : OdinState K}

/-- What `getImuToLidar` gives, and what it remembers. -/
lemma getImuToLidar_spec (h : OdinInv codec cfg past s) (msg : Odometry P)
    (lookup : Option (Rigid K)) :
    (getImuToLidar cfg lookup s).1 = extrinsics cfg (.odometry msg lookup :: past.events) ∧
      (getImuToLidar cfg lookup s).2.imuToLidarCached
        = (lookedUp (.odometry msg lookup :: past.events)).isSome ∧
      ∀ T, lookedUp (.odometry msg lookup :: past.events) = some T →
        (getImuToLidar cfg lookup s).2.imuToLidar = T := by
  cases hlooked : lookedUp past.events with
  | some T =>
      have hcached : s.imuToLidarCached = true := by rw [h.cached, hlooked]; rfl
      have hknown := h.known T hlooked
      simp [getImuToLidar, extrinsics, lookedUp, hcached, hknown, hlooked]
  | none =>
      have hcached : s.imuToLidarCached = false := by rw [h.cached, hlooked]; rfl
      cases lookup with
      | some T => simp [getImuToLidar, extrinsics, lookedUp, hcached, hlooked]
      | none => simp [getImuToLidar, extrinsics, lookedUp, hcached, hlooked]

/-- Both callbacks keep the invariant. -/
lemma OdinInv.step (h : OdinInv codec cfg past s) (e : OdinEvent K P) :
    OdinInv codec cfg (past.step e (odinStep codec cfg s e).2) (odinStep codec cfg s e).1 := by
  cases e with
  | odometry msg lookup =>
      obtain ⟨hvalue, hcached, hknown⟩ := getImuToLidar_spec h msg lookup
      refine ⟨hcached, hknown, fun _ => ⟨msg.pose, _, rfl, rfl, ?_, rfl⟩⟩
      exact congrArg (codec.fromMsg msg.pose * ·) hvalue
  | pointCloud msg =>
      rw [odinStep, pointCloudCallback]
      split
      · exact ⟨h.cached, h.known, h.composed⟩
      · exact ⟨h.cached, h.known, h.composed⟩

/-! ## What comes of a scan -/

/-- A registered scan fits the odometry published for it: it is the raw cloud in the odometry
frame, and the node downstream recovers the raw cloud from it. -/
def Fits (codec : PoseCodec K P) (odom : Odometry P) (scan : Cloud (PointXYZI K))
    (raw : Cloud (Fin 3 → K)) : Prop :=
  scan.positions = raw.points.map (fun p => codec.fromMsg odom.pose • p) ∧
    ∀ (lidarFrame : String) (lidarToRobotBase lidarToChassis : Option (Rigid K)),
      (laserCloudAndOdometryHandler codec lidarFrame lidarToRobotBase lidarToChassis odom
        scan).sensorScan.positions = raw.points

/-- A scan transformed by the inverse of a pose fits that pose iff the pose, applied twice, does
nothing to the raw points. -/
lemma fits_iff {odom : Odometry P} {scan : Cloud (PointXYZI K)} {raw : Cloud (Fin 3 → K)}
    {T : Rigid K} (hpose : codec.fromMsg odom.pose = T)
    (hscan : scan.positions = raw.points.map fun p => T⁻¹ • p) :
    Fits codec odom scan raw ↔ ∀ p ∈ raw.points, T • T • p = p := by
  rw [Fits, hpose, hscan, Rigid.map_inv_eq_map_iff]
  refine and_iff_left_of_imp fun htwice lidarFrame lidarToRobotBase lidarToChassis => ?_
  have hinv := (Rigid.map_inv_eq_map_iff raw.points).mpr htwice
  rw [laserCloudAndOdometryHandler, positions_transformPointCloud, hpose, hscan, hinv,
    Rigid.map_inv_smul_map_smul]

/-- The pose of the lidar in the odometry frame, from what the node has been told. -/
def lidarPose (codec : PoseCodec K P) (cfg : OdinConfig K) (pose : P)
    (past : List (OdinEvent K P)) : Rigid K :=
  codec.fromMsg pose * extrinsics cfg past

/-- **What a published scan is worth.**  It is published for the cloud received last, in the
odometry frame; and it fits the odometry published last iff the pose that this odometry stands for,
composed of the pose received last and the extrinsics, does nothing to the raw points when applied
twice. -/
def ScanLaw (codec : PoseCodec K P) (cfg : OdinConfig K)
    (m : Emission (OdinState K) (OdinEvent K P) (OdinOutput K P)) : Prop :=
  ∀ scan, m.output = .registeredScan scan → ∃ raw pose odom,
    m.past.events.head? = some (.pointCloud raw) ∧
    lastPose m.past.events = some pose ∧
    lastLidarOdometry m.past.outputs = some odom ∧
    scan.header.frameId = cfg.odomFrame ∧
    (Fits codec odom scan raw ↔ ∀ p ∈ raw.points,
      lidarPose codec cfg pose m.past.events • lidarPose codec cfg pose m.past.events • p = p)

lemma OdinInv.scanLaw (h : OdinInv codec cfg past s) (e : OdinEvent K P)
    (sooner later : List (OdinOutput K P)) (o : OdinOutput K P)
    (ho : (odinStep codec cfg s e).2 = sooner ++ o :: later) :
    ScanLaw codec cfg ⟨past.step e sooner, s, (odinStep codec cfg s e).1, o⟩ := by
  intro scan hscan
  cases e with
  | odometry msg lookup =>
      obtain ⟨_, rfl⟩ := only_output ho
      exact absurd hscan (by simp)
  | pointCloud raw =>
      rw [odinStep, pointCloudCallback] at ho
      cases hinit : s.odomToLidarInitialized with
      | false =>
          rw [hinit] at ho
          exact absurd ho (by simp)
      | true =>
          rw [hinit] at ho
          obtain ⟨rfl, rfl⟩ := only_output ho
          obtain rfl := OdinOutput.registeredScan.inj hscan
          obtain ⟨pose, odom, hpose, hodom, hcomposed, hmsg⟩ := h.composed hinit
          refine ⟨raw, pose, odom, rfl, hpose, hodom, rfl, fits_iff ?_ ?_⟩
          · rw [hmsg, codec.fromMsg_toMsg, hcomposed]
            rfl
          · rw [Cloud.positions, List.map_map, List.map_map, hcomposed]
            rfl

/-- In every run of the node, whatever transforms its members held before, the law holds of every
registered scan. -/
theorem registeredScan_law (codec : PoseCodec K P) (cfg : OdinConfig K)
    (imuToLidar odomToLidar : Rigid K) (events : List (OdinEvent K P)) :
    ∀ m ∈ emissions (odinStep codec cfg) .start (OdinState.init imuToLidar odomToLidar) events,
      ScanLaw codec cfg m :=
  emissions_safe (OdinInv codec cfg) (ScanLaw codec cfg) (fun _ _ e h _ => h.step e)
    (fun _ _ e h _ sooner o later ho => h.scanLaw e sooner later o ho) events .start _
    (odinInv_init imuToLidar odomToLidar) (admissible_of_forall (fun _ _ _ => trivial) _ _ _)

/-- One metre ahead. -/
def ahead : Fin 3 → ℚ := ![1, 0, 0]

/-- The odometry says one metre ahead, and the cloud has a point at the lidar. -/
def aheadEvents : List (OdinEvent ℚ (Rigid ℚ)) :=
  [.odometry ⟨⟨0, "odom"⟩, "imu", Rigid.translation ahead⟩ none, .pointCloud ⟨⟨0, "lidar"⟩, [0]⟩]

/-- A scan is published for the cloud, and the law says what it is worth. -/
theorem registeredScan_law_ahead :
    ∃ m ∈ emissions (odinStep (PoseCodec.plain ℚ) ⟨"odom", "lidar", 1⟩) .start (OdinState.init 1 1)
        aheadEvents,
      (∃ scan, m.output = .registeredScan scan) ∧
        ScanLaw (PoseCodec.plain ℚ) ⟨"odom", "lidar", 1⟩ m := by
  have hlaw := registeredScan_law (PoseCodec.plain ℚ) ⟨"odom", "lidar", 1⟩ 1 1 aheadEvents
  exact ⟨_, List.mem_cons_of_mem _ List.mem_cons_self, ⟨_, rfl⟩,
    hlaw _ (List.mem_cons_of_mem _ List.mem_cons_self)⟩

/-- **A scan that does not fit its odometry.**  With the lidar one metre ahead of the origin, the
point at the lidar itself is published one metre behind the origin. -/
theorem registeredScan_misplaced :
    ¬ ∀ (cfg : OdinConfig ℚ) (events : List (OdinEvent ℚ (Rigid ℚ))),
      ∀ m ∈ emissions (odinStep (PoseCodec.plain ℚ) cfg) .start (OdinState.init 1 1) events,
        ∀ scan, m.output = .registeredScan scan → ∃ raw odom,
          m.past.events.head? = some (.pointCloud raw) ∧
          lastLidarOdometry m.past.outputs = some odom ∧
          Fits (PoseCodec.plain ℚ) odom scan raw := by
  intro hfits
  have hahead := hfits ⟨"odom", "lidar", 1⟩ aheadEvents _
    (List.mem_cons_of_mem _ List.mem_cons_self) _ rfl
  obtain ⟨raw, odom, hraw, hodom, hscan, _⟩ := hahead
  obtain rfl := OdinEvent.pointCloud.inj (Option.some.inj hraw).symm
  obtain rfl := (Option.some.inj hodom).symm
  have htwice : (Rigid.translation ahead * 1) • (Rigid.translation ahead * 1) •
      (0 : Fin 3 → ℚ) = 0 :=
    (Rigid.map_inv_eq_map_iff [0]).mp hscan 0 List.mem_cons_self
  rw [mul_one, Rigid.translation_smul, Rigid.translation_smul, zero_add] at htwice
  exact absurd (congrFun htwice 0) (by norm_num [ahead])

end SentryNav.Registration
