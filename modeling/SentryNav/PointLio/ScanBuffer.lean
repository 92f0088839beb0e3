import SentryNav.Core.Batches
import SentryNav.LivoxDriver.Lddc
import SentryNav.PointLio.SyncGuarantees

/-!
# The scans that are put in the buffers

The callbacks put scans in the buffers and `sync_packages` takes them out, in any order of calls.

* `combined_scans`: with `con_frame` set, the scans that come, those that go back in time left out,
  are taken eleven at a time; ten of them are combined, and the eleventh is lost.
* `point_times`: a point of a scan in the buffers is one of a frame of the driver, and the time that
  the scan gives it is nearly the one it has in the message, if the frames are of before 2038: the
  `float` milliseconds are off by two microseconds and a small part of the time since the begin of
  the scan at most.  The time in the message is that of the point itself exactly if this is less
  than 2³² nanoseconds after the first point of the frame.
-/

namespace SentryNav.PointLio

open Batches FloatFormat
open LivoxDriver (StoragePacket PointXyzlt publishCustomPointcloud customMsg customPoint rosStamp_eq
  sentTime sentTime_eq_iff)

variable {K : Type*} [Field K] [LinearOrder K] [FloorRing K]

/-! ## Runs of the callbacks and of `sync_packages` -/

inductive BufferEvent (K : Type*)
  | lidar (msg : CustomMsg K)
  | imu (msg : Imu K)
  | sync (imuNeedInit : Bool)

/-- The scans in the buffers, with their times. -/
def Sync.buffered (s : Sync K) : List (K × List (PointType K)) := s.timeBuffer.zip s.lidarBuffer

/-- The variables, with the scans that have been taken out of the buffers. -/
structure Buffers (K : Type*) where
  sync : Sync K
  meas : MeasureGroup K
  taken : List (K × List (PointType K))

/-- All scans that have been put in the buffers. -/
def Buffers.scans (b : Buffers K) : List (K × List (PointType K)) := b.taken ++ b.sync.buffered

def Buffers.init : Buffers K where
  sync := .init
  meas := ⟨0, 0, [], []⟩
  taken := []

def Buffers.step (p : Params K) (b : Buffers K) : BufferEvent K → Option (Buffers K)
  | .lidar msg => some { b with sync := b.sync.livoxPclCbk p msg }
  | .imu msg => some { b with sync := b.sync.imuCbk msg }
  | .sync imuNeedInit => do
      let (_, s, meas) ← b.sync.syncPackages p imuNeedInit b.meas
      let count := b.sync.lidarBuffer.length - s.lidarBuffer.length
      return { sync := s, meas := meas, taken := b.taken ++ b.sync.buffered.take count }

def Buffers.run (p : Params K) (events : List (BufferEvent K)) : Option (Buffers K) :=
  events.foldlM (Buffers.step p) .init

/-! ## What `sync_packages` leaves -/

/-- Some scans have been taken from the front; what concerns the coming scans is left. -/
structure Left (s s' : Sync K) (count : ℕ) : Prop where
  lidarBuffer : s'.lidarBuffer = s.lidarBuffer.drop count
  timeBuffer : s'.timeBuffer = s.timeBuffer.drop count
  lastTimestampLidar : s'.lastTimestampLidar = s.lastTimestampLidar
  timeCon : s'.timeCon = s.timeCon
  ptrCon : s'.ptrCon = s.ptrCon
  frameCt : s'.frameCt = s.frameCt

variable {p : Params K} {s s' : Sync K}

lemma pushLidar_left (hlidar : s.lidarBuffer ≠ [])
    (hlength : s.timeBuffer.length = s.lidarBuffer.length) (meas : MeasureGroup K) :
    ∃ s' meas', s.pushLidar meas = some (s', meas') ∧ s'.queue = s.queue ∧ Left s s' 0 := by
  rw [Sync.pushLidar]
  split_ifs
  · exact ⟨s, meas, rfl, rfl, rfl, rfl, rfl, rfl, rfl, rfl⟩
  · obtain ⟨cloud, clouds, hclouds⟩ := List.exists_cons_of_ne_nil hlidar
    obtain ⟨time, times, htimes⟩ := List.exists_cons_of_length_pos
      (by rw [hlength, hclouds]; exact Nat.succ_pos _ : 0 < s.timeBuffer.length)
    rw [hclouds, htimes]
    simp only [List.head?_cons, Option.bind_eq_bind, Option.bind_some]
    cases endTime cloud with
    | none => exact ⟨_, _, rfl, rfl, hclouds.symm ▸ rfl, htimes.symm ▸ rfl, rfl, rfl, rfl, rfl⟩
    | some t => exact ⟨_, _, rfl, rfl, hclouds.symm ▸ rfl, htimes.symm ▸ rfl, rfl, rfl, rfl, rfl⟩

omit [Field K] [LinearOrder K] [FloorRing K] in
lemma popLidar_left (hlidar : s.lidarBuffer ≠ [])
    (hlength : s.timeBuffer.length = s.lidarBuffer.length) :
    ∃ s', s.popLidar = some s' ∧ Left s s' 1 := by
  obtain ⟨cloud, clouds, hclouds⟩ := List.exists_cons_of_ne_nil hlidar
  obtain ⟨time, times, htimes⟩ := List.exists_cons_of_length_pos
    (by rw [hlength, hclouds]; exact Nat.succ_pos _ : 0 < s.timeBuffer.length)
  rw [Sync.popLidar, hclouds, htimes]
  exact ⟨_, rfl, by rw [hclouds]; rfl, by rw [htimes]; rfl, rfl, rfl, rfl, rfl⟩

omit [Field K] [LinearOrder K] [FloorRing K] in
lemma Left.trans {s'' : Sync K} {count : ℕ} (h : Left s s' 0) (h' : Left s' s'' count) :
    Left s s'' count where
  lidarBuffer := by rw [h'.lidarBuffer, h.lidarBuffer, List.drop_zero]
  timeBuffer := by rw [h'.timeBuffer, h.timeBuffer, List.drop_zero]
  lastTimestampLidar := h'.lastTimestampLidar.trans h.lastTimestampLidar
  timeCon := h'.timeCon.trans h.timeCon
  ptrCon := h'.ptrCon.trans h.ptrCon
  frameCt := h'.frameCt.trans h.frameCt

/-- `sync_packages` never takes from an empty buffer, and takes at most the first scan. -/
lemma syncPackages_left (p : Params K) (hlength : s.timeBuffer.length = s.lidarBuffer.length)
    (imuNeedInit : Bool) (meas : MeasureGroup K) :
    ∃ ready s' meas' count, s.syncPackages p imuNeedInit meas = some (ready, s', meas') ∧
      count ≤ s.lidarBuffer.length ∧ Left s s' count := by
  have hstay : Left s s 0 := ⟨rfl, rfl, rfl, rfl, rfl, rfl⟩
  rw [Sync.syncPackages]
  split_ifs with himu hnone hnone
  · exact ⟨_, _, _, 0, rfl, Nat.zero_le _, hstay⟩
  · obtain ⟨s₁, meas₁, hpush, -, hleft⟩ := pushLidar_left hnone hlength meas
    have hlidar₁ : s₁.lidarBuffer = s.lidarBuffer := hleft.lidarBuffer
    have htime₁ : s₁.timeBuffer = s.timeBuffer := hleft.timeBuffer
    obtain ⟨s₂, hpop, hleft₂⟩ := popLidar_left (s := s₁) (hlidar₁ ▸ hnone)
      (by rw [hlidar₁, htime₁, hlength])
    rw [hpush]
    simp only [Option.bind_eq_bind, Option.bind_some, hpop]
    exact ⟨_, _, _, 1, rfl, List.length_pos_iff.mpr hnone, hleft.trans hleft₂⟩
  · exact ⟨_, _, _, 0, rfl, Nat.zero_le _, hstay⟩
  · obtain ⟨hlidar, hdeque⟩ := not_or.mp hnone
    obtain ⟨s₁, meas₁, hpush, hqueue, hleft⟩ := pushLidar_left hlidar hlength meas
    have hlidar₁ : s₁.lidarBuffer = s.lidarBuffer := hleft.lidarBuffer
    have htime₁ : s₁.timeBuffer = s.timeBuffer := hleft.timeBuffer
    obtain ⟨front, hfront⟩ : ∃ front, s₁.queue.imuDeque.head? = some front := by
      rw [hqueue]
      exact Option.ne_none_iff_exists'.mp fun hnil => hdeque (List.head?_eq_none_iff.mp hnil)
    rw [hpush]
    simp only [Option.bind_eq_bind, Option.bind_some]
    by_cases hwait : s₁.lastTimestampImu <
        if s₁.loseLid = true then float64 (meas₁.lidarBegTime + p.lidarTimeInte)
        else s₁.lidarEndTime
    · rw [if_pos hwait]
      exact ⟨_, _, _, 0, rfl, Nat.zero_le _, hleft⟩
    · rw [if_neg hwait, hfront, Option.bind_some]
      generalize (if (imuNeedInit && !s₁.imuPushed) = true then
        pushImu _ meas₁.imu s₁.queue.imuLast front s₁.queue.imuDeque
        else (meas₁.imu, s₁.queue)) = moved
      obtain ⟨s₂, hpop, hleft₂⟩ :=
        popLidar_left (s := { s₁ with queue := moved.2, imuPushed := true }) (hlidar₁ ▸ hlidar)
          (by rw [hlidar₁, htime₁, hlength])
      rw [hpop]
      exact ⟨_, _, _, 1, rfl, List.length_pos_iff.mpr hlidar, hleft.trans
        ⟨hleft₂.lidarBuffer, hleft₂.timeBuffer, hleft₂.lastTimestampLidar, hleft₂.timeCon,
          hleft₂.ptrCon, hleft₂.frameCt⟩⟩

/-- A step has taken no part in receiving scans. -/
structure Undisturbed (b b' : Buffers K) : Prop where
  length : b'.sync.timeBuffer.length = b'.sync.lidarBuffer.length
  scans : b'.scans = b.scans
  lastTimestampLidar : b'.sync.lastTimestampLidar = b.sync.lastTimestampLidar
  timeCon : b'.sync.timeCon = b.sync.timeCon
  ptrCon : b'.sync.ptrCon = b.sync.ptrCon
  frameCt : b'.sync.frameCt = b.sync.frameCt

variable {b b' : Buffers K}

lemma step_imu (hlength : b.sync.timeBuffer.length = b.sync.lidarBuffer.length) (msg : Imu K) :
    ∃ b', b.step p (.imu msg) = some b' ∧ Undisturbed b b' := by
  refine ⟨_, rfl, ?_⟩
  rw [Sync.imuCbk]
  simp only
  split_ifs
  · exact ⟨hlength, rfl, rfl, rfl, rfl, rfl⟩
  · exact ⟨hlength, rfl, rfl, rfl, rfl, rfl⟩

lemma step_sync (hlength : b.sync.timeBuffer.length = b.sync.lidarBuffer.length)
    (imuNeedInit : Bool) : ∃ b', b.step p (.sync imuNeedInit) = some b' ∧ Undisturbed b b' := by
  obtain ⟨ready, s', meas', count, hsync, hcount, hleft⟩ :=
    syncPackages_left p hlength imuNeedInit b.meas
  have htaken : b.sync.lidarBuffer.length - s'.lidarBuffer.length = count := by
    rw [hleft.lidarBuffer, List.length_drop]
    omega
  rw [Buffers.step, hsync]
  refine ⟨_, rfl, ?_, ?_, hleft.lastTimestampLidar, hleft.timeCon, hleft.ptrCon, hleft.frameCt⟩
  · simp only [hleft.lidarBuffer, hleft.timeBuffer, List.length_drop, hlength]
  · have hdrop : s'.buffered = b.sync.buffered.drop count := by
      rw [Sync.buffered, Sync.buffered, hleft.lidarBuffer, hleft.timeBuffer]
      exact List.drop_zipWith.symm
    simp only [Buffers.scans, htaken, hdrop, List.append_assoc, List.take_append_drop]

/-! ## Combined scans -/

/-- The scans that come and do not go back in time. -/
def accepted (last : K) : List (BufferEvent K) → List (CustomMsg K)
  | [] => []
  | .lidar msg :: events =>
      if getTimeSec msg.header.stamp < last then accepted last events
      else msg :: accepted (getTimeSec msg.header.stamp) events
  | .imu _ :: events => accepted last events
  | .sync _ :: events => accepted last events

/-- The points of a scan, with their times counted from another. -/
def shifted (p : Params K) (time : K) (msg : CustomMsg K) : List (PointType K) :=
  (p.aviaHandler msg).map fun pt =>
    { pt with curvature := shiftedTime pt.curvature (getTimeSec msg.header.stamp) time }

/-- What becomes of eleven scans: the first ten are combined, with the time of the first. -/
def combine (p : Params K) (batch : List (CustomMsg K)) : K × List (PointType K) :=
  let time := (batch.head?.map fun first => getTimeSec first.header.stamp).getD 0
  (time, (batch.take 10).flatMap (shifted p time))

/-- The variables agree with the scans that have come. -/
structure Combining (p : Params K) (acc : List (CustomMsg K)) (b : Buffers K) : Prop where
  length : b.sync.timeBuffer.length = b.sync.lidarBuffer.length
  frameCt : b.sync.frameCt = (rest 11 acc).length
  timeCon : ∀ first, (rest 11 acc).head? = some first →
    b.sync.timeCon = getTimeSec first.header.stamp
  ptrCon : b.sync.ptrCon = (rest 11 acc).flatMap (shifted p b.sync.timeCon)
  scans : b.scans = (whole 11 acc).map (combine p)

variable {acc : List (CustomMsg K)}

lemma Combining.undisturbed (h : Combining p acc b) (h' : Undisturbed b b') :
    Combining p acc b' where
  length := h'.length
  frameCt := h'.frameCt.trans h.frameCt
  timeCon first hfirst := h'.timeCon.trans (h.timeCon first hfirst)
  ptrCon := by rw [h'.ptrCon, h'.timeCon, h.ptrCon]
  scans := h'.scans.trans h.scans

/-- Ten scans are at hand, combined. -/
lemma Combining.combine_eq (h : Combining p acc b) {msg : CustomMsg K}
    (hten : (rest 11 acc).length = 10) :
    combine p (rest 11 acc ++ [msg]) = (b.sync.timeCon, b.sync.ptrCon) := by
  obtain ⟨first, hfirst⟩ : ∃ first, (rest 11 acc).head? = some first := by
    refine Option.ne_none_iff_exists'.mp fun hnil => ?_
    rw [List.head?_eq_none_iff.mp hnil] at hten
    cases hten
  rw [combine, List.head?_append, hfirst, Option.some_or, Option.map_some, Option.getD_some,
    List.take_append_of_le_length (by omega), List.take_of_length_le (by omega),
    ← h.timeCon first hfirst, ← h.ptrCon]

/-- A scan comes: it is the eleventh, and the ten before it are put in the buffers, or it is added
to them. -/
lemma Combining.lidar (hcon : p.conFrame = true) (h : Combining p acc b) {msg : CustomMsg K}
    (hforward : ¬ getTimeSec msg.header.stamp < b.sync.lastTimestampLidar) :
    Combining p (acc ++ [msg]) { b with sync := b.sync.livoxPclCbk p msg } := by
  have hlt := length_rest_lt (by decide : 0 < 11) acc
  have hwhole := whole_concat (by decide : 0 < 11) acc msg
  have hrest := rest_concat (by decide : 0 < 11) acc msg
  rw [Sync.livoxPclCbk, if_neg hforward]
  simp only [hcon, if_true]
  by_cases hlast : (rest 11 acc).length + 1 = 11
  · have hten : b.sync.frameCt = 10 := by
      rw [h.frameCt]
      omega
    have hne : ¬ b.sync.frameCt = 0 := by omega
    have hfull : ¬ b.sync.frameCt < 10 := by omega
    rw [if_pos hlast] at hwhole hrest
    simp only [if_neg hne, if_neg hfull]
    refine ⟨?_, ?_, fun first hfirst => ?_, ?_, ?_⟩
    · simp [h.length]
    · rw [hrest]
      rfl
    · rw [hrest] at hfirst
      cases hfirst
    · rw [hrest]
      rfl
    · rw [hwhole, List.map_append, List.map_singleton, h.combine_eq (by omega), ← h.scans]
      simp only [Buffers.scans, Sync.buffered, List.zip_append h.length, List.append_assoc]
      rfl
  · have hfew : b.sync.frameCt < 10 := by
      rw [h.frameCt]
      omega
    rw [if_neg hlast] at hwhole hrest
    rw [List.append_nil] at hwhole
    by_cases hzero : b.sync.frameCt = 0
    · have hnil : rest 11 acc = [] := List.length_eq_zero_iff.mp (h.frameCt ▸ hzero)
      simp only [if_pos hzero, if_pos hfew]
      rw [hnil] at hrest
      refine ⟨h.length, ?_, fun first hfirst => ?_, ?_, ?_⟩
      · rw [hrest, hzero]
        rfl
      · rw [hrest] at hfirst
        obtain rfl := Option.some.inj hfirst
        rfl
      · have hptrCon := h.ptrCon
        rw [hnil] at hptrCon
        rw [hrest, hptrCon]
        simp [shifted]
      · rw [hwhole, ← h.scans]
        rfl
    · simp only [if_neg hzero, if_pos hfew]
      have hne : rest 11 acc ≠ [] := fun hnil => hzero (by rw [h.frameCt, hnil]; rfl)
      refine ⟨h.length, ?_, fun first hfirst => ?_, ?_, ?_⟩
      · rw [hrest, List.length_append, List.length_singleton, h.frameCt]
      · rw [hrest, List.head?_append_of_ne_nil _ hne] at hfirst
        exact h.timeCon first hfirst
      · rw [hrest, List.flatMap_append, ← h.ptrCon]
        simp [shifted]
      · rw [hwhole, ← h.scans]
        rfl

lemma lastTimestampLidar_livoxPclCbk {msg : CustomMsg K}
    (hforward : ¬ getTimeSec msg.header.stamp < s.lastTimestampLidar) :
    (s.livoxPclCbk p msg).lastTimestampLidar = getTimeSec msg.header.stamp := by
  rw [Sync.livoxPclCbk, if_neg hforward]
  simp only
  split_ifs <;> rfl

lemma Combining.run (hcon : p.conFrame = true) (events : List (BufferEvent K)) :
    ∀ {acc : List (CustomMsg K)} {b : Buffers K}, Combining p acc b →
      ∃ b', events.foldlM (Buffers.step p) b = some b' ∧
        Combining p (acc ++ accepted b.sync.lastTimestampLidar events) b' := by
  induction events with
  | nil =>
      intro acc b h
      exact ⟨b, rfl, by rwa [accepted, List.append_nil]⟩
  | cons e events ih =>
      intro acc b h
      rw [List.foldlM_cons]
      cases e with
      | lidar msg =>
          by_cases hback : getTimeSec msg.header.stamp < b.sync.lastTimestampLidar
          · have hstep : b.step p (.lidar msg) = some b := by
              rw [Buffers.step, Sync.livoxPclCbk, if_pos hback]
            rw [hstep, accepted, if_pos hback]
            exact ih h
          · obtain ⟨b', hrun, h'⟩ := ih (h.lidar hcon hback)
            rw [lastTimestampLidar_livoxPclCbk hback, List.append_assoc] at h'
            rw [accepted, if_neg hback]
            exact ⟨b', hrun, h'⟩
      | imu msg =>
          obtain ⟨b₁, hstep, hundisturbed⟩ := step_imu (p := p) h.length msg
          obtain ⟨b', hrun, h'⟩ := ih (h.undisturbed hundisturbed)
          rw [hundisturbed.lastTimestampLidar] at h'
          exact ⟨b', by rw [hstep]; exact hrun, h'⟩
      | sync imuNeedInit =>
          obtain ⟨b₁, hstep, hundisturbed⟩ := step_sync (p := p) h.length imuNeedInit
          obtain ⟨b', hrun, h'⟩ := ih (h.undisturbed hundisturbed)
          rw [hundisturbed.lastTimestampLidar] at h'
          exact ⟨b', by rw [hstep]; exact hrun, h'⟩

/-- **With `con_frame`**, whatever the order of the calls, nothing is taken from an empty buffer,
and the scans that have been put in the buffers are made of ten scans each, with an eleventh
lost. -/
theorem combined_scans (p : Params K) (hcon : p.conFrame = true) (events : List (BufferEvent K)) :
    ∃ b, Buffers.run p events = some b ∧
      b.scans = (whole 11 (accepted (-1.0) events)).map (combine p) := by
  have hrest : rest 11 ([] : List (CustomMsg K)) = [] := List.drop_nil
  have hwhole : whole 11 ([] : List (CustomMsg K)) = [] := by simp [whole]
  have hinit : Combining p [] (Buffers.init : Buffers K) :=
    { length := rfl
      frameCt := by rw [hrest]; rfl
      timeCon := fun first hfirst => by
        rw [hrest] at hfirst
        cases hfirst
      ptrCon := by rw [hrest]; rfl
      scans := by rw [hwhole]; rfl }
  obtain ⟨b, hrun, h⟩ := hinit.run hcon events
  exact ⟨b, hrun, h.scans⟩

/-- The parameters, with `con_frame` set. -/
def combiningParams : Params ℚ where
  imuEn := true
  conFrame := true
  lidarTimeInte := 0.1
  spaceDownSample := true
  propAtFreqOfImu := true
  initMapSize := 10
  blind := 0.5
  detRange := 100.0
  pointFilterNum := 1
  nScans := 4

/-- Scans of two points each, a tenth of a second apart; the first point is passed over. -/
def elevenScans : List (BufferEvent ℚ) :=
  (List.range 11).map fun (k : ℕ) => .lidar
    { header := ⟨k * 100000000, "livox_frame"⟩
      points := [⟨0, 1, 0, 0, 0, 0, 0⟩, ⟨0, 1, 0, 0, 0, 0, 0⟩] }

theorem combined_scans_eleven : ∃ b, Buffers.run combiningParams elevenScans = some b ∧
    b.scans = (whole 11 (accepted (-1.0) elevenScans)).map (combine combiningParams) :=
  combined_scans combiningParams rfl elevenScans

/-! ## Times of points -/

/-- What happens between the driver and the buffers: the driver publishes a frame, an IMU message
comes, or `sync_packages` is called. -/
inductive LinkEvent (K : Type*)
  | frame (pkg : StoragePacket (PointXyzlt K))
  | imu (msg : Imu K)
  | sync (imuNeedInit : Bool)

def LinkEvent.events (frameId : String) : LinkEvent K → List (BufferEvent K)
  | .frame pkg => (publishCustomPointcloud frameId pkg).map .lidar
  | .imu msg => [.imu msg]
  | .sync imuNeedInit => [.sync imuNeedInit]

/-- The time that a point has in the message, in seconds. -/
def sentSeconds (pkg : StoragePacket (PointXyzlt K)) (raw : PointXyzlt K) : K :=
  sentTime pkg raw / 1000000000

/-- A point of a scan is one of a frame, and its time is nearly the one in the message. -/
structure CameFrom (pkgs : List (StoragePacket (PointXyzlt K))) (time : K) (pt : PointType K) :
    Prop where
  raw : ∃ pkg ∈ pkgs, ∃ raw ∈ pkg.points, pt.x = raw.x ∧ pt.y = raw.y ∧ pt.z = raw.z ∧
    |time + pt.curvature / 1000 - sentSeconds pkg raw|
      ≤ 1 / 500000 + |sentSeconds pkg raw - time| / 2 ^ 24

/-- A point of a message, before its time is counted from another scan. -/
structure Received (pkgs : List (StoragePacket (PointXyzlt K))) (stamp : K) (pt : PointType K) :
    Prop where
  raw : ∃ pkg ∈ pkgs, ∃ raw ∈ pkg.points, pt.x = raw.x ∧ pt.y = raw.y ∧ pt.z = raw.z ∧
    |stamp + pt.curvature / 1000 - sentSeconds pkg raw| ≤ 4 / 5000000
  nonneg : 0 ≤ pt.curvature
  le : pt.curvature ≤ 2 ^ 13

/-- A time that a scan may have. -/
structure ScanTime (time : K) : Prop where
  nonneg : 0 ≤ time
  le : time ≤ 2 ^ 32

/-- All points of the scans and of those to be combined came from frames. -/
structure Genuine (pkgs : List (StoragePacket (PointXyzlt K))) (b : Buffers K) : Prop where
  length : b.sync.timeBuffer.length = b.sync.lidarBuffer.length
  scans : ∀ scan ∈ b.scans, ∀ pt ∈ scan.2, CameFrom pkgs scan.1 pt
  timeCon : ScanTime b.sync.timeCon
  ptrCon : ∀ pt ∈ b.sync.ptrCon, CameFrom pkgs b.sync.timeCon pt
  started : b.sync.frameCt = 0 → b.sync.ptrCon = []

variable {pkgs : List (StoragePacket (PointXyzlt K))} {pkg : StoragePacket (PointXyzlt K)}

omit [FloorRing K] in
lemma Genuine.undisturbed (h : Genuine pkgs b) (h' : Undisturbed b b') : Genuine pkgs b' where
  length := h'.length
  scans := h'.scans ▸ h.scans
  timeCon := h'.timeCon ▸ h.timeCon
  ptrCon := by
    rw [h'.ptrCon, h'.timeCon]
    exact h.ptrCon
  started := by
    rw [h'.frameCt, h'.ptrCon]
    exact h.started

lemma mem_aviaLoop (p : Params K) {pt : PointType K} (points : List (CustomPoint K)) :
    ∀ validNum last plSurf, pt ∈ p.aviaLoop validNum last plSurf points →
      pt ∈ plSurf ∨ ∃ point ∈ points, pt = point.toPointType := by
  induction points with
  | nil => exact fun _ _ _ h => .inl h
  | cons point points ih =>
      intro validNum last plSurf h
      have hlater : ∀ validNum last plSurf, pt ∈ p.aviaLoop validNum last plSurf points →
          pt ∈ plSurf ∨ ∃ point' ∈ point :: points, pt = point'.toPointType := by
        intro validNum last plSurf h
        exact (ih validNum last plSurf h).imp_right fun ⟨point', hmem, heq⟩ =>
          ⟨point', List.mem_cons_of_mem _ hmem, heq⟩
      simp only [Params.aviaLoop] at h
      split_ifs at h
      · exact hlater _ _ _ h
      · rcases hlater _ _ _ h with h | h
        · rcases List.mem_append.mp h with h | h
          · exact .inl h
          · exact .inr ⟨point, List.mem_cons_self, List.mem_singleton.mp h⟩
        · exact .inr h
      · exact hlater _ _ _ h
      · exact hlater _ _ _ h
      · exact hlater _ _ _ h

section Times

variable [IsStrictOrderedRing K]

/-! ### Rounding -/

/-- The time of a point in its scan is off by less than half a microsecond. -/
lemma CustomPoint.curvature_near (pt : CustomPoint K) (h : pt.offsetTime < 2 ^ 32) :
    |pt.toPointType.curvature - pt.offsetTime / 1000000| ≤ 1 / 2500 ∧
      pt.toPointType.curvature ≤ 2 ^ 13 := by
  have hpos : (0 : K) ≤ pt.offsetTime := Nat.cast_nonneg _
  have hoffset : (pt.offsetTime : K) ≤ 2 ^ 32 := by exact_mod_cast h.le
  have hcast : |float32 (pt.offsetTime : K) - pt.offsetTime| ≤ 2 ^ 32 / 2 ^ 25 :=
    abs_float32_sub_le 32 ((abs_of_nonneg hpos).trans_le hoffset)
  have hle : float32 (pt.offsetTime : K) ≤ 2 ^ 32 := Format.round_le_two_pow (by decide) 32 hoffset
  have hquot : float32 (pt.offsetTime : K) / 1000000.0 ≤ 2 ^ 13 := by
    rw [div_le_iff₀ (by norm_num)]
    norm_num at hle ⊢
    linarith
  have hquot' : 0 ≤ float32 (pt.offsetTime : K) / 1000000.0 :=
    div_nonneg (Format.round_nonneg hpos) (by norm_num)
  have hround : |pt.toPointType.curvature - float32 (pt.offsetTime : K) / 1000000.0|
      ≤ 2 ^ 13 / 2 ^ 25 :=
    abs_float32_sub_le 13 ((abs_of_nonneg hquot').trans_le hquot)
  refine ⟨?_, Format.round_le_two_pow (by decide) 13 hquot⟩
  rw [abs_le] at hcast hround ⊢
  norm_num at hcast hround ⊢
  constructor <;> linarith

/-- The time of a point from another scan is off by less than a microsecond and a small part of
the time in between. -/
lemma shiftedTime_near {c s t : K} (hc : 0 ≤ c) (hc' : c ≤ 2 ^ 13) (hs : 0 ≤ s) (hs' : s ≤ 2 ^ 32)
    (ht : 0 ≤ t) (ht' : t ≤ 2 ^ 32) :
    |shiftedTime c s t - (c + (s - t) * 1000)|
      ≤ 1 / 1000 + |c + (s - t) * 1000| / 2 ^ 24 := by
  have hdiff : |s - t| ≤ 2 ^ 32 := abs_le.mpr ⟨by linarith, by linarith⟩
  have hround₁ := abs_float64_sub_le 32 hdiff
  have hdiff' : |float64 (s - t)| ≤ 2 ^ 32 := Format.abs_round_le_two_pow (by decide) 32 hdiff
  have hprod : |float64 (s - t) * 1000.0| ≤ 2 ^ 42 := by
    rw [abs_mul]
    norm_num at hdiff' ⊢
    linarith
  have hround₂ := abs_float64_sub_le 42 hprod
  have hsum : |c + float64 (float64 (s - t) * 1000.0)| ≤ 2 ^ 43 := by
    rw [abs_le] at hround₂ hprod ⊢
    norm_num at hround₂ hprod hc' ⊢
    constructor <;> linarith
  have hround₃ := abs_float64_sub_le 43 hsum
  generalize hy : float64 (c + float64 (float64 (s - t) * 1000.0)) = y at hround₃
  have hnear : |y - (c + (s - t) * 1000)| ≤ 1 / 1000 - 1 / 1000000 := by
    rw [abs_le] at hround₁ hround₂ hround₃ ⊢
    norm_num at hround₁ hround₂ hround₃ ⊢
    constructor <;> linarith
  have hround₄ : |float32 y - y| ≤ |y| / 2 ^ 24 + 2 ^ (-149 : ℤ) / 2 :=
    binary32.abs_round_sub_le_mul y
  have hmagnitude : |y| ≤ |c + (s - t) * 1000| + 1 / 1000 := by
    have htriangle := abs_sub_abs_le_abs_sub y (c + (s - t) * 1000)
    linarith
  rw [shiftedTime, hy]
  calc |float32 y - (c + (s - t) * 1000)|
      ≤ |float32 y - y| + |y - (c + (s - t) * 1000)| := abs_sub_le _ _ _
    _ ≤ 1 / 1000 + |c + (s - t) * 1000| / 2 ^ 24 := by
        norm_num at hround₄ hmagnitude ⊢
        linarith

/-! ### Frames -/

/-- A point that comes with a message. -/
lemma received_message (p : Params K) (frameId : String) (hmem : pkg ∈ pkgs)
    (hstamp : pkg.baseTime.toNat < 2 ^ 31 * 1000000000) (hpoints : pkg.points ≠ []) :
    ScanTime (getTimeSec (customMsg frameId pkg).header.stamp : K) ∧
      ∀ pt ∈ p.aviaHandler (customMsg frameId pkg),
        Received pkgs (getTimeSec (customMsg frameId pkg).header.stamp) pt := by
  have hstamp' : (customMsg frameId pkg).header.stamp = pkg.baseTime.toNat :=
    (if_neg hpoints).trans (rosStamp_eq hstamp)
  obtain ⟨hnear, hnonneg, hle⟩ := seconds_near (K := K)
    (Int.natCast_nonneg pkg.baseTime.toNat) (by exact_mod_cast hstamp)
  rw [hstamp', getTimeSec]
  refine ⟨⟨hnonneg, hle⟩, fun pt hpt => ?_⟩
  rcases mem_aviaLoop p _ _ _ _ hpt with hnil | ⟨point, hpoint, rfl⟩
  · exact absurd hnil List.not_mem_nil
  obtain ⟨raw, hraw, rfl⟩ := List.mem_map.mp (List.mem_of_mem_tail hpoint)
  obtain ⟨hoffset, hlarge⟩ := (customPoint pkg raw).curvature_near (BitVec.isLt _)
  refine ⟨⟨pkg, hmem, raw, hraw, rfl, rfl, rfl, ?_⟩, CustomPoint.curvature_nonneg _, hlarge⟩
  have hsent : sentSeconds pkg raw = (pkg.baseTime.toNat : ℤ) / 1000000000
      + ((customPoint pkg raw).offsetTime : K) / 1000000 / 1000 := by
    rw [sentSeconds, sentTime, customPoint]
    push_cast
    ring
  rw [hsent]
  rw [abs_le] at hnear hoffset ⊢
  constructor <;> linarith

/-- Its time is nearly the one in the message. -/
lemma Received.cameFrom {stamp : K} {pt : PointType K} (h : Received pkgs stamp pt) :
    CameFrom pkgs stamp pt := by
  obtain ⟨pkg, hpkg, raw, hraw, hx, hy, hz, htime⟩ := h.raw
  refine ⟨pkg, hpkg, raw, hraw, hx, hy, hz, htime.trans ?_⟩
  have hpos : 0 ≤ |sentSeconds pkg raw - stamp| / 2 ^ 24 := by positivity
  linarith

/-- Its time counted from another scan. -/
lemma Received.shift {stamp time : K} {pt : PointType K} (h : Received pkgs stamp pt)
    (hstamp : ScanTime stamp) (htime : ScanTime time) :
    CameFrom pkgs time { pt with curvature := shiftedTime pt.curvature stamp time } := by
  obtain ⟨pkg, hpkg, raw, hraw, hx, hy, hz, hsent⟩ := h.raw
  refine ⟨pkg, hpkg, raw, hraw, hx, hy, hz, ?_⟩
  have hshift := shiftedTime_near h.nonneg h.le hstamp.nonneg hstamp.le htime.nonneg htime.le
  show |time + shiftedTime pt.curvature stamp time / 1000 - sentSeconds pkg raw| ≤ _
  generalize shiftedTime pt.curvature stamp time = c at hshift ⊢
  generalize sentSeconds pkg raw = t at hsent ⊢
  have hbetween : |pt.curvature + (stamp - time) * 1000|
      ≤ 1000 * (|t - time| + 4 / 5000000) := by
    have hsplit : pt.curvature + (stamp - time) * 1000
        = 1000 * ((t - time) + (stamp + pt.curvature / 1000 - t)) := by ring
    rw [hsplit, abs_mul, abs_of_pos (by norm_num : (0 : K) < 1000)]
    gcongr
    exact (abs_add_le _ _).trans (by gcongr)
  have hsplit : time + c / 1000 - t
      = (c - (pt.curvature + (stamp - time) * 1000)) / 1000
        + (stamp + pt.curvature / 1000 - t) := by ring
  rw [hsplit]
  refine (abs_add_le _ _).trans ?_
  rw [abs_div, abs_of_pos (by norm_num : (0 : K) < 1000)]
  norm_num at hshift hbetween ⊢
  linarith

/-- A message comes. -/
lemma Genuine.lidar (h : Genuine pkgs b) {msg : CustomMsg K}
    (hstamp : ScanTime (getTimeSec msg.header.stamp : K))
    (hmsg : ∀ pt ∈ p.aviaHandler msg, Received pkgs (getTimeSec msg.header.stamp) pt) :
    Genuine pkgs { b with sync := b.sync.livoxPclCbk p msg } := by
  have hadded : ∀ (time : K) (cloud : List (PointType K)), (∀ pt ∈ cloud, CameFrom pkgs time pt) →
      ∀ scan ∈ b.taken ++ (b.sync.timeBuffer ++ [time]).zip (b.sync.lidarBuffer ++ [cloud]),
        ∀ pt ∈ scan.2, CameFrom pkgs scan.1 pt := by
    intro time cloud hcloud scan hscan
    rw [List.zip_append h.length, ← List.append_assoc] at hscan
    rcases List.mem_append.mp hscan with hscan | hscan
    · exact h.scans scan hscan
    · obtain rfl := List.mem_singleton.mp hscan
      exact hcloud
  have hshifted : ∀ time : K, ScanTime time → ∀ pt ∈ shifted p time msg, CameFrom pkgs time pt := by
    intro time htime pt hpt
    obtain ⟨pt', hpt', rfl⟩ := List.mem_map.mp hpt
    exact (hmsg pt' hpt').shift hstamp htime
  rw [Sync.livoxPclCbk]
  simp only
  split_ifs with hback hcon hzero hfew hfew hsome
  · exact h
  · refine ⟨h.length, h.scans, hstamp, ?_, fun hct => absurd hct (Nat.succ_ne_zero _)⟩
    rw [h.started hzero]
    exact hshifted _ hstamp
  · refine ⟨by simp [h.length], hadded _ _ ?_, hstamp, fun pt hpt => absurd hpt List.not_mem_nil,
      fun _ => rfl⟩
    rw [h.started hzero]
    exact fun pt hpt => absurd hpt List.not_mem_nil
  · refine ⟨h.length, h.scans, h.timeCon, fun pt hpt => ?_,
      fun hct => absurd hct (Nat.succ_ne_zero _)⟩
    rcases List.mem_append.mp hpt with hpt | hpt
    · exact h.ptrCon pt hpt
    · exact hshifted _ h.timeCon pt hpt
  · exact ⟨by simp [h.length], hadded _ _ h.ptrCon, h.timeCon,
      fun pt hpt => absurd hpt List.not_mem_nil, fun _ => rfl⟩
  · exact ⟨by simp [h.length], hadded _ _ fun pt hpt => (hmsg pt hpt).cameFrom, h.timeCon,
      h.ptrCon, h.started⟩
  · exact ⟨h.length, h.scans, h.timeCon, h.ptrCon, h.started⟩

/-- The frames that the driver publishes. -/
def frames (events : List (LinkEvent K)) : List (StoragePacket (PointXyzlt K)) :=
  events.filterMap fun
    | .frame pkg => some pkg
    | .imu _ => none
    | .sync _ => none

lemma Genuine.step (h : Genuine pkgs b) (frameId : String) (e : LinkEvent K)
    (hstamps : ∀ pkg ∈ pkgs, pkg.baseTime.toNat < 2 ^ 31 * 1000000000)
    (hframe : ∀ pkg, e = .frame pkg → pkg ∈ pkgs) :
    ∃ b', (e.events frameId).foldlM (Buffers.step p) b = some b' ∧ Genuine pkgs b' := by
  cases e with
  | frame pkg =>
      rw [LinkEvent.events, publishCustomPointcloud]
      split_ifs with hnil
      · exact ⟨b, rfl, h⟩
      · have hmem := hframe pkg rfl
        obtain ⟨hstamp, hmsg⟩ := received_message p frameId hmem (hstamps pkg hmem) hnil
        exact ⟨_, rfl, h.lidar hstamp hmsg⟩
  | imu msg =>
      obtain ⟨b', hstep, hundisturbed⟩ := step_imu (p := p) h.length msg
      exact ⟨b', by simp [LinkEvent.events, hstep], h.undisturbed hundisturbed⟩
  | sync imuNeedInit =>
      obtain ⟨b', hstep, hundisturbed⟩ := step_sync (p := p) h.length imuNeedInit
      exact ⟨b', by simp [LinkEvent.events, hstep], h.undisturbed hundisturbed⟩

lemma Genuine.run (p : Params K) (frameId : String)
    (hstamps : ∀ pkg ∈ pkgs, pkg.baseTime.toNat < 2 ^ 31 * 1000000000)
    (events : List (LinkEvent K)) :
    ∀ {b : Buffers K}, Genuine pkgs b → (∀ pkg ∈ frames events, pkg ∈ pkgs) →
      ∃ b', (events.flatMap (LinkEvent.events frameId)).foldlM (Buffers.step p) b = some b' ∧
        Genuine pkgs b' := by
  induction events with
  | nil => exact fun h _ => ⟨_, rfl, h⟩
  | cons e events ih =>
      intro b h hframes
      have hhere : ∀ pkg, e = .frame pkg → pkg ∈ pkgs := by
        rintro pkg rfl
        exact hframes pkg List.mem_cons_self
      have hlater : ∀ pkg ∈ frames events, pkg ∈ pkgs := by
        intro pkg hpkg
        apply hframes
        cases e with
        | frame _ => exact List.mem_cons_of_mem _ hpkg
        | imu _ => exact hpkg
        | sync _ => exact hpkg
      obtain ⟨b₁, hstep, h₁⟩ := h.step (p := p) frameId e hstamps hhere
      obtain ⟨b', hrun, h'⟩ := ih h₁ hlater
      exact ⟨b', by rw [List.flatMap_cons, List.foldlM_append, hstep]; exact hrun, h'⟩

/-- **From the driver to the filter**, whatever the order of the calls and whether scans are
combined or not: if the stamps fit, a point of a scan in the buffers is one of a frame, and its time
is off from the one that it has in the message by two microseconds and the 2²⁴th part of the time
since the begin of the scan at most.  The time in the message is its own exactly if that is not
before the first point and less than 2³² nanoseconds after it. -/
theorem point_times (p : Params K) (frameId : String) (events : List (LinkEvent K))
    (hstamps : ∀ pkg ∈ frames events, pkg.baseTime.toNat < 2 ^ 31 * 1000000000) :
    ∃ b, Buffers.run p (events.flatMap (LinkEvent.events frameId)) = some b ∧
      ∀ scan ∈ b.scans, ∀ pt ∈ scan.2, ∃ pkg ∈ frames events, ∃ raw ∈ pkg.points,
        pt.x = raw.x ∧ pt.y = raw.y ∧ pt.z = raw.z ∧
        |scan.1 + pt.curvature / 1000 - sentSeconds pkg raw|
          ≤ 1 / 500000 + |sentSeconds pkg raw - scan.1| / 2 ^ 24 ∧
        (sentSeconds pkg raw = raw.offsetTime.toNat / 1000000000 ↔
          pkg.baseTime.toNat ≤ raw.offsetTime.toNat ∧
            raw.offsetTime.toNat - pkg.baseTime.toNat < 2 ^ 32) := by
  have hinit : Genuine (frames events) (Buffers.init : Buffers K) :=
    ⟨rfl, fun _ h => absurd h List.not_mem_nil,
      ⟨by norm_num [Buffers.init, Sync.init], by norm_num [Buffers.init, Sync.init]⟩,
      fun _ h => absurd h List.not_mem_nil, fun _ => rfl⟩
  obtain ⟨b, hrun, h⟩ := hinit.run p frameId hstamps events fun _ h => h
  refine ⟨b, hrun, fun scan hscan pt hpt => ?_⟩
  obtain ⟨pkg, hpkg, raw, hraw, hx, hy, hz, htime⟩ := h.scans scan hscan pt hpt
  refine ⟨pkg, hpkg, raw, hraw, hx, hy, hz, htime, ?_⟩
  have hbillion : (1000000000 : K) ≠ 0 := by norm_num
  rw [sentSeconds, div_left_inj' hbillion, ← sentTime_eq_iff]
  exact_mod_cast Iff.rfl

end Times

/-- Frames of two lidars, the first of three points over a tenth of a second. -/
def twoFrames : List (LinkEvent ℚ) :=
  [.frame { baseTime := 1700000000000000000
            points := [⟨1, 0, 0, 0, 0, 0, 1700000000000000000⟩,
              ⟨1, 0, 0, 0, 0, 0, 1700000000033333333⟩,
              ⟨2, 0, 0, 0, 0, 0, 1700000000099999999⟩] },
    .imu ⟨⟨1700000000100000000, "livox_frame"⟩, ⟨0, 0, 0⟩, ⟨0, 0, 1⟩⟩,
    .sync true,
    .frame { baseTime := 1700000000100000000
             points := [⟨1, 0, 0, 0, 0, 0, 1700000000100000000⟩,
              ⟨0, 3, 0, 0, 0, 0, 1700000000150000001⟩] }]

theorem point_times_twoFrames : ∃ b, Buffers.run { combiningParams with conFrame := false }
      (twoFrames.flatMap (LinkEvent.events "livox_frame")) = some b ∧
    ∀ scan ∈ b.scans, ∀ pt ∈ scan.2, ∃ pkg ∈ frames twoFrames, ∃ raw ∈ pkg.points,
      pt.x = raw.x ∧ pt.y = raw.y ∧ pt.z = raw.z ∧
      |scan.1 + pt.curvature / 1000 - sentSeconds pkg raw|
        ≤ 1 / 500000 + |sentSeconds pkg raw - scan.1| / 2 ^ 24 ∧
      (sentSeconds pkg raw = raw.offsetTime.toNat / 1000000000 ↔
        pkg.baseTime.toNat ≤ raw.offsetTime.toNat ∧
          raw.offsetTime.toNat - pkg.baseTime.toNat < 2 ^ 32) :=
  point_times { combiningParams with conFrame := false } "livox_frame" twoFrames (by decide)

end SentryNav.PointLio
