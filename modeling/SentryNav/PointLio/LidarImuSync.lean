import SentryNav.PointLio.IVox
import SentryNav.Messages
import SentryNav.RosTime

/-!
# `li_initialization.cpp`: scans and IMU messages

The callbacks put scans and IMU messages in buffers; `sync_packages` hands a scan to the main loop
once an IMU message has come that is not older than its last point.  While the IMU is initialised it
also moves the messages of the scan to `meas.imu`.

Times are rounded as the program rounds them: those of stamps are `double` seconds, those of points
`float` milliseconds.  Coordinates and distances are exact.

The front or the back of an empty container is `none`.  `timediff_imu_wrt_lidar` and
`time_lag_IMU_wtr_lidar` are never set and stay 0; `cut_frame_init` stays false, so that scans are
not cut.  The points of a `CustomMsg` are as many as its `point_num` says.
-/

namespace SentryNav.PointLio

open FloatFormat

variable {K : Type*} [Field K] [LinearOrder K] [FloorRing K]

/-! ## Messages -/

/-- `sensor_msgs::msg::Imu`. -/
structure Imu (K : Type*) where
  header : Header
  angularVelocity : Vector3 K
  linearAcceleration : Vector3 K
deriving DecidableEq

/-- `livox_ros_driver2::msg::CustomPoint`. -/
structure CustomPoint (K : Type*) where
  offsetTime : ℕ
  x : K
  y : K
  z : K
  reflectivity : ℕ
  tag : ℕ
  line : ℕ

/-- `livox_ros_driver2::msg::CustomMsg`. -/
structure CustomMsg (K : Type*) where
  header : Header
  points : List (CustomPoint K)

/-- `get_time_sec`. -/
def getTimeSec (stamp : ℤ) : K := seconds stamp

/-- `get_ros_time`. -/
def getRosTime (timestamp : K) : ℤ :=
  let nanosecD := float64 (float64 (timestamp - (⌊timestamp⌋ : K)) * 1000000000.0)
  ⌊timestamp⌋ * 1000000000 + ⌊nanosecD⌋

/-- The time of an IMU message. -/
def Imu.time (msg : Imu K) : K := getTimeSec msg.header.stamp

/-! ## Preprocessing -/

/-- The parameters that the model reads. -/
structure Params (K : Type*) where
  imuEn : Bool
  conFrame : Bool
  lidarTimeInte : K
  spaceDownSample : Bool
  propAtFreqOfImu : Bool
  initMapSize : ℕ
  blind : K
  detRange : K
  pointFilterNum : ℕ
  nScans : ℕ

/-- The point that `avia_handler` makes of another; its time is in milliseconds. -/
def CustomPoint.toPointType (pt : CustomPoint K) : PointType K where
  x := pt.x
  y := pt.y
  z := pt.z
  intensity := pt.reflectivity
  curvature := float32 (float32 (pt.offsetTime : K) / 1000000.0)

/-- `avia_handler`: the rest of its loop, with the number of valid points so far, the last place of
`pl_full` and `pl_surf`. -/
def Params.aviaLoop (p : Params K) (validNum : ℕ) (last : PointType K)
    (plSurf : List (PointType K)) : List (CustomPoint K) → List (PointType K)
  | [] => plSurf
  | pt :: points =>
      if pt.line < p.nScans ∧ (pt.tag &&& 0x30 = 0x10 ∨ pt.tag &&& 0x30 = 0x00) then
        if (validNum + 1) % p.pointFilterNum = 0 then
          let added := pt.toPointType
          let dist := added.x * added.x + added.y * added.y + added.z * added.z
          if dist < p.blind * p.blind ∨ p.detRange * p.detRange < dist then
            p.aviaLoop (validNum + 1) added plSurf points
          else if 1e-7 < |added.x - last.x| ∨ 1e-7 < |added.y - last.y| ∨
              1e-7 < |added.z - last.z| then
            p.aviaLoop (validNum + 1) added (plSurf ++ [added]) points
          else p.aviaLoop (validNum + 1) added plSurf points
        else p.aviaLoop (validNum + 1) ⟨0, 0, 0, 0, 0⟩ plSurf points
      else p.aviaLoop validNum ⟨0, 0, 0, 0, 0⟩ plSurf points

/-- `avia_handler`: the first point is passed over. -/
def Params.aviaHandler (p : Params K) (msg : CustomMsg K) : List (PointType K) :=
  p.aviaLoop 0 ⟨0, 0, 0, 0, 0⟩ [] msg.points.tail

/-! ## The buffers -/

/-- `MeasureGroup`. -/
structure MeasureGroup (K : Type*) where
  lidarBegTime : K
  lidarLastTime : K
  lidar : List (PointType K)
  imu : List (Imu K)

/-- `imu_deque`, `imu_last` and `imu_next`. -/
structure ImuQueue (K : Type*) where
  imuDeque : List (Imu K)
  imuLast : Imu K
  imuNext : Imu K

/-- The variables of `li_initialization.cpp`. -/
structure Sync (K : Type*) where
  lidarBuffer : List (List (PointType K))
  timeBuffer : List K
  queue : ImuQueue K
  lastTimestampLidar : K
  lastTimestampImu : K
  lidarEndTime : K
  lidarPushed : Bool
  imuPushed : Bool
  loseLid : Bool
  timeCon : K
  ptrCon : List (PointType K)
  frameCt : ℕ

instance : Inhabited (Imu K) := ⟨⟨default, ⟨0, 0, 0⟩, ⟨0, 0, 0⟩⟩⟩

/-- The variables as they are set first. -/
def Sync.init : Sync K where
  lidarBuffer := []
  timeBuffer := []
  queue := ⟨[], default, default⟩
  lastTimestampLidar := -1.0
  lastTimestampImu := -1.0
  lidarEndTime := 0.0
  lidarPushed := false
  imuPushed := false
  loseLid := false
  timeCon := 0.0
  ptrCon := []
  frameCt := 0

/-- The time of a point of a scan, from the first scan it is combined with. -/
def shiftedTime (curvature lastTimestampLidar timeCon : K) : K :=
  float32 (float64 (curvature + float64 (float64 (lastTimestampLidar - timeCon) * 1000.0)))

/-- `livox_pcl_cbk`. -/
def Sync.livoxPclCbk (p : Params K) (s : Sync K) (msg : CustomMsg K) : Sync K :=
  let stamp := getTimeSec msg.header.stamp
  if stamp < s.lastTimestampLidar then s
  else
    let s := { s with lastTimestampLidar := stamp }
    let ptr := p.aviaHandler msg
    if p.conFrame then
      let s := if s.frameCt = 0 then { s with timeCon := stamp } else s
      if s.frameCt < 10 then
        { s with
          ptrCon := s.ptrCon ++ ptr.map fun pt =>
            { pt with curvature := shiftedTime pt.curvature stamp s.timeCon }
          frameCt := s.frameCt + 1 }
      else
        { s with
          lidarBuffer := s.lidarBuffer ++ [s.ptrCon]
          timeBuffer := s.timeBuffer ++ [s.timeCon]
          ptrCon := []
          frameCt := 0 }
    else if ptr ≠ [] then
      { s with
        lidarBuffer := s.lidarBuffer ++ [ptr]
        timeBuffer := s.timeBuffer ++ [stamp] }
    else s

/-- The message that `imu_cbk` makes of another. -/
def Imu.restamped (msg : Imu K) : Imu K :=
  { msg with
    header.stamp := getRosTime
      (float64 (float64 (getTimeSec msg.header.stamp - (0.0 : K)) - 0.0)) }

/-- `imu_cbk`. -/
def Sync.imuCbk (s : Sync K) (msgIn : Imu K) : Sync K :=
  let msg := msgIn.restamped
  if msg.time < s.lastTimestampImu then s
  else
    { s with
      queue := { s.queue with imuDeque := s.queue.imuDeque ++ [msg] }
      lastTimestampImu := msg.time }

/-! ## Putting them together -/

/-- The largest time of the points, from that of the last one. -/
def endTime (points : List (PointType K)) : Option K :=
  points.getLast?.map fun back =>
    points.foldl (fun endTime pt => if endTime < pt.curvature then pt.curvature else endTime)
      back.curvature

/-- The loop that moves the messages before a time to `meas.imu`. -/
def pushImu (time : K) (imu : List (Imu K)) (imuLast imuNext : Imu K) :
    List (Imu K) → List (Imu K) × ImuQueue K
  | [] => (imu, ⟨[], imuLast, imuNext⟩)
  | msg :: rest =>
      if msg.time < time then
        match rest with
        | [] => (imu ++ [msg], ⟨[], imuNext, imuNext⟩)
        | next :: _ => pushImu time (imu ++ [msg]) imuNext next rest
      else (imu, ⟨msg :: rest, imuLast, imuNext⟩)

/-- The scan in front becomes the one to process. -/
def Sync.pushLidar (s : Sync K) (meas : MeasureGroup K) : Option (Sync K × MeasureGroup K) :=
  if s.lidarPushed then some (s, meas)
  else do
    let lidar ← s.lidarBuffer.head?
    let lidarBegTime ← s.timeBuffer.head?
    let s := { s with lidarPushed := true }
    let meas := { meas with lidar := lidar, lidarBegTime := lidarBegTime }
    match endTime lidar with
    | none => return ({ s with loseLid := true }, meas)
    | some t =>
        let lidarEndTime := float64 (lidarBegTime + float64 (t / 1000.0))
        return ({ s with loseLid := false, lidarEndTime := lidarEndTime },
          { meas with lidarLastTime := lidarEndTime })

/-- The scan leaves the buffers. -/
def Sync.popLidar (s : Sync K) : Option (Sync K) :=
  match s.lidarBuffer, s.timeBuffer with
  | _ :: lidarBuffer, _ :: timeBuffer =>
      some { s with
        lidarBuffer := lidarBuffer
        timeBuffer := timeBuffer
        lidarPushed := false
        imuPushed := false }
  | _, _ => none

/-- `sync_packages`. -/
def Sync.syncPackages (p : Params K) (imuNeedInit : Bool) (s : Sync K) (meas : MeasureGroup K) :
    Option (Bool × Sync K × MeasureGroup K) :=
  if p.imuEn = false then
    if s.lidarBuffer = [] then some (false, s, meas)
    else do
      let (s, meas) ← s.pushLidar meas
      let s ← s.popLidar
      return (!s.loseLid, s, meas)
  else if s.lidarBuffer = [] ∨ s.queue.imuDeque = [] then some (false, s, meas)
  else do
    let (s, meas) ← s.pushLidar meas
    let time := if s.loseLid then float64 (meas.lidarBegTime + p.lidarTimeInte)
      else s.lidarEndTime
    if s.lastTimestampImu < time then return (false, s, meas)
    let front ← s.queue.imuDeque.head?
    let (imu, queue) :=
      if imuNeedInit && !s.imuPushed then
        pushImu time meas.imu s.queue.imuLast front s.queue.imuDeque
      else (meas.imu, s.queue)
    let s ← { s with queue := queue, imuPushed := true }.popLidar
    return (true, s, { meas with imu := imu })

end SentryNav.PointLio
