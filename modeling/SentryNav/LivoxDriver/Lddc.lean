import SentryNav.LivoxDriver.PacketQueue
import SentryNav.LivoxDriver.PubHandler
import SentryNav.PointLio.LidarImuSync

/-!
# `lddc.cpp`: frames become messages

A frame from the queue becomes a `CustomMsg`, with the time of its first point for the stamp and the
times of its points as 32-bit offsets from that.  Frames without points are dropped.  `timebase` and
`lidar_id`, which nobody reads, are left out; `points_num` is the number of the points.
-/

namespace SentryNav.LivoxDriver

open PointLio (CustomPoint CustomMsg)

variable {K : Type*} [Field K] [LinearOrder K] [FloorRing K]

/-- The stamp that `rclcpp::Time(timestamp)` becomes in a message: its seconds are an `int32_t`. -/
def rosStamp (timestamp : BitVec 64) : ℤ :=
  (timestamp.toInt / 1000000000).bmod (2 ^ 32) * 1000000000 + timestamp.toInt % 1000000000

/-- Before 2038, nothing is cut off. -/
lemma rosStamp_eq {timestamp : BitVec 64} (h : timestamp.toNat < 2 ^ 31 * 1000000000) :
    rosStamp timestamp = timestamp.toNat := by
  have hint : timestamp.toInt = timestamp.toNat := BitVec.toInt_eq_toNat_of_lt (by omega)
  have hsec : ((timestamp.toNat : ℤ) / 1000000000).bmod (2 ^ 32) = timestamp.toNat / 1000000000 :=
    Int.bmod_eq_of_le (by omega) (by omega)
  rw [rosStamp, hint, hsec]
  exact Int.ediv_mul_add_emod ..

/-- `FillPointsToCustomMsg`, for one point. -/
def customPoint (pkg : StoragePacket (PointXyzlt K)) (point : PointXyzlt K) : CustomPoint K where
  offsetTime := ((point.offsetTime - pkg.baseTime).setWidth 32).toNat
  x := point.x
  y := point.y
  z := point.z
  reflectivity := ⌊point.intensity⌋.toNat % 2 ^ 8
  tag := point.tag
  line := point.line

/-- `InitCustomMsg` and `FillPointsToCustomMsg`. -/
def customMsg (frameId : String) (pkg : StoragePacket (PointXyzlt K)) : CustomMsg K where
  header :=
    { stamp := if pkg.points = [] then 0 else rosStamp pkg.baseTime
      frameId := frameId }
  points := pkg.points.map (customPoint pkg)

/-- What `PublishCustomPointcloud` publishes for a frame. -/
def publishCustomPointcloud (frameId : String) (pkg : StoragePacket (PointXyzlt K)) :
    List (CustomMsg K) :=
  if pkg.points = [] then [] else [customMsg frameId pkg]

/-- The time that a point has in the message. -/
def sentTime (pkg : StoragePacket (PointXyzlt K)) (point : PointXyzlt K) : ℕ :=
  pkg.baseTime.toNat + ((point.offsetTime - pkg.baseTime).setWidth 32).toNat

omit [Field K] [LinearOrder K] [FloorRing K] in
/-- It is the time of the point exactly if that is less than 2³² nanoseconds after the first one. -/
lemma sentTime_eq_iff (pkg : StoragePacket (PointXyzlt K)) (point : PointXyzlt K) :
    sentTime pkg point = point.offsetTime.toNat ↔
      pkg.baseTime.toNat ≤ point.offsetTime.toNat ∧
        point.offsetTime.toNat - pkg.baseTime.toNat < 2 ^ 32 := by
  have hbase := pkg.baseTime.isLt
  have hpoint := point.offsetTime.isLt
  rw [sentTime, BitVec.toNat_setWidth, BitVec.toNat_sub]
  omega

end SentryNav.LivoxDriver
