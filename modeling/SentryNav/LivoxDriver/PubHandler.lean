import SentryNav.Messages
import Mathlib.Algebra.Field.Defs
import Mathlib.Data.Int.Cast.Basic
import Mathlib.Data.List.Sort
import Mathlib.Data.Rat.Cast.OfScientific
import Mathlib.Logic.Function.Basic

/-!
# `PubHandler`: from the packets of the lidars to frames of points

A packet that comes from the network waits in a queue until the thread that runs `RawDataProcess`
takes it.  Its points are brought into the frame of the robot and added to those of its lidar.  Then
`CheckTimer` looks whether it is time for a frame: by the times of the points if the lidars are
synchronised, and then a frame is of this lidar only, else by the clock, and then it is of all.

Packets are the ones the driver makes, with points of the type they name.  A frame has room for a
number of lidars, and `none` stands for writing beyond.
-/

namespace SentryNav.LivoxDriver

/-- `kMaxSourceLidar`, as the room of a frame. -/
def maxFrameLidars : ℕ := 32

/-- `kRatioOfMsToNs`. -/
def kRatioOfMsToNs : BitVec 64 := 1000000

/-- `kNsTolerantFrameTimeDeviation`. -/
def kNsTolerantFrameTimeDeviation : BitVec 64 := 1000000

/-- `PointXyzlt`. -/
structure PointXyzlt (K : Type*) where
  x : K
  y : K
  z : K
  intensity : K
  tag : ℕ
  line : ℕ
  offsetTime : BitVec 64
deriving DecidableEq

/-- `LivoxLidarCartesianHighRawPoint` and `LivoxLidarCartesianLowRawPoint`. -/
structure CartesianRawPoint where
  x : ℤ
  y : ℤ
  z : ℤ
  reflectivity : ℕ
  tag : ℕ

/-- `LivoxLidarSpherPoint`. -/
structure SpherRawPoint where
  depth : ℕ
  theta : ℕ
  phi : ℕ
  reflectivity : ℕ
  tag : ℕ

/-- `raw_data`, by `data_type`. -/
inductive RawData
  | cartesianHigh (points : List CartesianRawPoint)
  | cartesianLow (points : List CartesianRawPoint)
  | spherical (points : List SpherRawPoint)
  | unknown

/-- `RawPacket`. -/
structure RawPacket where
  handle : ℕ
  extrinsicEnable : Bool
  lineNum : ℕ
  timeStamp : BitVec 64
  pointInterval : BitVec 64
  data : RawData

/-- `ExtParameter`: degrees and millimetres. -/
structure ExtParameter (K : Type*) where
  roll : K
  pitch : K
  yaw : K
  x : ℤ
  y : ℤ
  z : ℤ

/-- `ExtParameterDetailed`, with the rows of the rotation. -/
structure ExtParameterDetailed (K : Type*) where
  trans : Vector3 K
  rotationX : Vector3 K
  rotationY : Vector3 K
  rotationZ : Vector3 K

/-- `LidarPubHandler`. -/
structure LidarPubHandler (K : Type*) where
  pointsClouds : List (PointXyzlt K)
  extrinsic : ExtParameterDetailed K
  isSetExtrinsicParams : Bool

/-- `PointPacket`, with its `base_time`. -/
structure PointPacket (K : Type*) where
  handle : ℕ
  baseTime : BitVec 64
  points : List (PointXyzlt K)

/-- `PubHandler`.  `lidar_process_handlers_` is a map from the handles in `lidarIds`, in their
order; `lastPubTime` is there once it is set. -/
structure PubHandler (K : Type*) where
  publishInterval : BitVec 64
  publishIntervalTolerance : BitVec 64
  publishIntervalMs : BitVec 64
  lidarExtrinsics : ℕ → Option (ExtParameter K)
  lidarIds : List ℕ
  handler : ℕ → LidarPubHandler K
  lastPubTime : Option ℤ

variable {K : Type*} [Field K]

/-- `LidarPubHandler::LidarPubHandler`. -/
def LidarPubHandler.make : LidarPubHandler K where
  pointsClouds := []
  extrinsic :=
    { trans := ⟨0, 0, 0⟩
      rotationX := ⟨1, 0, 0⟩
      rotationY := ⟨0, 1, 0⟩
      rotationZ := ⟨0, 0, 1⟩ }
  isSetExtrinsicParams := false

/-- `PubHandler`, after `SetPointCloudConfig` has found the interval, with the parameters of the
lidars. -/
def PubHandler.make (publishInterval : BitVec 64) (lidarExtrinsics : ℕ → Option (ExtParameter K)) :
    PubHandler K where
  publishInterval := publishInterval
  publishIntervalTolerance := publishInterval - kNsTolerantFrameTimeDeviation
  publishIntervalMs := publishInterval / kRatioOfMsToNs
  lidarExtrinsics := lidarExtrinsics
  lidarIds := []
  handler _ := .make
  lastPubTime := none

/-! ## Points -/

/-- What `SetLidarsExtParam` makes of the parameters. -/
def ExtParameter.detailed (libm : Libm K) (param : ExtParameter K) : ExtParameterDetailed K :=
  let rad (degrees : K) : K := degrees * 3.14159265358979323846 / 180.0
  let cosRoll := libm.cos (rad param.roll)
  let cosPitch := libm.cos (rad param.pitch)
  let cosYaw := libm.cos (rad param.yaw)
  let sinRoll := libm.sin (rad param.roll)
  let sinPitch := libm.sin (rad param.pitch)
  let sinYaw := libm.sin (rad param.yaw)
  { trans := ⟨param.x, param.y, param.z⟩
    rotationX := ⟨cosPitch * cosYaw, sinRoll * sinPitch * cosYaw - cosRoll * sinYaw,
      cosRoll * sinPitch * cosYaw + sinRoll * sinYaw⟩
    rotationY := ⟨cosPitch * sinYaw, sinRoll * sinPitch * sinYaw + cosRoll * cosYaw,
      cosRoll * sinPitch * sinYaw - sinRoll * cosYaw⟩
    rotationZ := ⟨-sinPitch, sinRoll * cosPitch, cosRoll * cosPitch⟩ }

/-- `SetLidarsExtParam`. -/
def LidarPubHandler.setLidarsExtParam (libm : Libm K) (h : LidarPubHandler K)
    (param : ExtParameter K) : LidarPubHandler K :=
  if h.isSetExtrinsicParams then h
  else { h with extrinsic := param.detailed libm, isSetExtrinsicParams := true }

/-- A row of a rotation times a vector. -/
def rowMul (row v : Vector3 K) : K := v.x * row.x + v.y * row.y + v.z * row.z

/-- `ProcessCartesianHighPoint` and `ProcessCartesianLowPoint`, the `i`-th point; `unit` is how many
units of the packet make a metre. -/
def processCartesianPoint (unit : K) (extrinsic : ExtParameterDetailed K) (pkt : RawPacket)
    (raw : CartesianRawPoint) (i : ℕ) : PointXyzlt K :=
  let v : Vector3 K := ⟨raw.x, raw.y, raw.z⟩
  let offsetTime := pkt.timeStamp + BitVec.ofNat 64 i * pkt.pointInterval
  if pkt.extrinsicEnable then
    ⟨v.x / unit, v.y / unit, v.z / unit, raw.reflectivity, raw.tag, i % pkt.lineNum, offsetTime⟩
  else
    ⟨(rowMul extrinsic.rotationX v + extrinsic.trans.x) / unit,
      (rowMul extrinsic.rotationY v + extrinsic.trans.y) / unit,
      (rowMul extrinsic.rotationZ v + extrinsic.trans.z) / unit,
      raw.reflectivity, raw.tag, i % pkt.lineNum, offsetTime⟩

/-- `ProcessSphericalPoint`, the `i`-th point. -/
def processSphericalPoint (libm : Libm K) (extrinsic : ExtParameterDetailed K) (pkt : RawPacket)
    (raw : SpherRawPoint) (i : ℕ) : PointXyzlt K :=
  let radius : K := raw.depth / 1000.0
  let theta : K := raw.theta / 100.0 / 180.0 * 3.14159265358979323846
  let phi : K := raw.phi / 100.0 / 180.0 * 3.14159265358979323846
  let src : Vector3 K := ⟨radius * libm.sin theta * libm.cos phi,
    radius * libm.sin theta * libm.sin phi, radius * libm.cos theta⟩
  let offsetTime := pkt.timeStamp + BitVec.ofNat 64 i * pkt.pointInterval
  if pkt.extrinsicEnable then
    ⟨src.x, src.y, src.z, raw.reflectivity, raw.tag, i % pkt.lineNum, offsetTime⟩
  else
    ⟨rowMul extrinsic.rotationX src + extrinsic.trans.x / 1000.0,
      rowMul extrinsic.rotationY src + extrinsic.trans.y / 1000.0,
      rowMul extrinsic.rotationZ src + extrinsic.trans.z / 1000.0,
      raw.reflectivity, raw.tag, i % pkt.lineNum, offsetTime⟩

/-- The points of a packet. -/
def RawPacket.points (libm : Libm K) (extrinsic : ExtParameterDetailed K) (pkt : RawPacket) :
    List (PointXyzlt K) :=
  match pkt.data with
  | .cartesianHigh points =>
      points.zipIdx.map fun raw => processCartesianPoint 1000.0 extrinsic pkt raw.1 raw.2
  | .cartesianLow points =>
      points.zipIdx.map fun raw => processCartesianPoint 100.0 extrinsic pkt raw.1 raw.2
  | .spherical points =>
      points.zipIdx.map fun raw => processSphericalPoint libm extrinsic pkt raw.1 raw.2
  | .unknown => []

/-- `PointCloudProcess`. -/
def LidarPubHandler.pointCloudProcess (libm : Libm K) (h : LidarPubHandler K) (pkt : RawPacket) :
    LidarPubHandler K :=
  { h with pointsClouds := h.pointsClouds ++ pkt.points libm h.extrinsic }

/-- `GetLidarBaseTime`. -/
def LidarPubHandler.getLidarBaseTime (h : LidarPubHandler K) : BitVec 64 :=
  match h.pointsClouds with
  | [] => 0
  | point :: _ => point.offsetTime

/-- `GetRecentTimeStamp`. -/
def LidarPubHandler.getRecentTimeStamp (h : LidarPubHandler K) : BitVec 64 :=
  match h.pointsClouds.getLast? with
  | none => 0
  | some point => point.offsetTime

/-! ## Frames -/

def PubHandler.setHandler (p : PubHandler K) (id : ℕ) (h : LidarPubHandler K) : PubHandler K :=
  { p with handler := Function.update p.handler id h }

/-- `GetLidarPointClouds`: the points go into the frame. -/
def PubHandler.takePoints (p : PubHandler K) (id : ℕ) : PubHandler K :=
  p.setHandler id { p.handler id with pointsClouds := [] }

/-- What `CheckTimer` puts in the frame for a lidar. -/
def PubHandler.packetOf (p : PubHandler K) (id : ℕ) : PointPacket K :=
  ⟨id, (p.handler id).getLidarBaseTime, (p.handler id).pointsClouds⟩

/-- The loop of `CheckTimer` over the lidars. -/
def PubHandler.fillFrame (p : PubHandler K) (frame : List (PointPacket K)) :
    List ℕ → Option (PubHandler K × List (PointPacket K))
  | [] => some (p, frame)
  | id :: ids =>
      if frame.length < maxFrameLidars then
        match (p.handler id).pointsClouds with
        | [] => (p.takePoints id).fillFrame frame ids
        | _ :: _ => (p.takePoints id).fillFrame (frame ++ [p.packetOf id]) ids
      else none

/-- `CheckTimer`, with the flag for synchronisation and the clock; the frame that is published, if
one is. -/
def PubHandler.checkTimer (p : PubHandler K) (id : ℕ) (isTimestampSync : Bool) (nowTime : ℤ) :
    Option (PubHandler K × Option (List (PointPacket K))) :=
  if isTimestampSync then
    let recentTimeMs := (p.handler id).getRecentTimeStamp / kRatioOfMsToNs
    if recentTimeMs % p.publishIntervalMs ≠ 0 ∨ recentTimeMs = 0 then some (p, none)
    else if (p.handler id).getRecentTimeStamp - (p.handler id).getLidarBaseTime
        < p.publishIntervalTolerance then some (p, none)
    else
      match (p.handler id).pointsClouds with
      | [] => some (p.takePoints id, none)
      | _ :: _ => some (p.takePoints id, some [p.packetOf id])
  else
    match p.lastPubTime with
    | none => some ({ p with lastPubTime := some nowTime }, none)
    | some lastPubTime =>
        if nowTime - lastPubTime < p.publishInterval.toNat then some (p, none)
        else
          (PubHandler.fillFrame
            { p with lastPubTime := some (lastPubTime + p.publishInterval.toNat) } []
            p.lidarIds).map fun r => (r.1, some r.2)

/-- A lidar that has not been seen before gets a handler. -/
def PubHandler.ensureHandler (p : PubHandler K) (id : ℕ) : PubHandler K :=
  if id ∈ p.lidarIds then p
  else { p.setHandler id .make with lidarIds := p.lidarIds.orderedInsert (· ≤ ·) id }

/-- The handler of a lidar gets the parameters of the lidar. -/
def PubHandler.setExtrinsics (libm : Libm K) (p : PubHandler K) (id : ℕ) : PubHandler K :=
  match p.lidarExtrinsics id with
  | none => p
  | some param => p.setHandler id ((p.handler id).setLidarsExtParam libm param)

/-- What `RawDataProcess` does with a packet before it looks at the time. -/
def PubHandler.process (libm : Libm K) (p : PubHandler K) (pkt : RawPacket) : PubHandler K :=
  let id := pkt.handle
  let p := (p.ensureHandler id).setExtrinsics libm id
  p.setHandler id ((p.handler id).pointCloudProcess libm pkt)

/-- A packet, with what `RawDataProcess` reads when it has processed it. -/
structure Arrival where
  pkt : RawPacket
  isTimestampSync : Bool
  nowTime : ℤ

/-- `RawDataProcess`, one packet. -/
def PubHandler.rawDataProcess (libm : Libm K) (p : PubHandler K) (a : Arrival) :
    Option (PubHandler K × Option (List (PointPacket K))) :=
  (p.process libm a.pkt).checkTimer a.pkt.handle a.isTimestampSync a.nowTime

/-- `RawDataProcess` on the packets that come, with all that is published. -/
def PubHandler.run (libm : Libm K) (p : PubHandler K) :
    List Arrival → Option (PubHandler K × List (PointPacket K))
  | [] => some (p, [])
  | a :: arrivals => do
      let (p, frame) ← p.rawDataProcess libm a
      let (p, packets) ← p.run libm arrivals
      return (p, frame.getD [] ++ packets)

end SentryNav.LivoxDriver
