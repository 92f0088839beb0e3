import SentryNav.PointLio.LidarImuSync

/-!
# The main loop of `laserMapping.cpp`

A scan that `sync_packages` hands out first helps to initialise the IMU, then the map, and is then
given to the filter `kf_output`, group by group of points with one time, with the IMU messages that
came in between.  The filter is told by the calls that are made to it.  What follows from its
estimate (the points in the map, what is published) and its initial state are left out, as is
`kf_input`, which is used if `use_imu_as_input` is set; `flg_reset` is never set.

Times are rounded as the program rounds them, the means of the IMU initialisation are not.

`pcl::VoxelGrid` and `std::sort` are parameters with their laws.  Taking from an empty deque or
behind the end of a cloud is `none`.
-/

namespace SentryNav.PointLio

open FloatFormat

variable {K : Type*} [Field K] [LinearOrder K] [FloorRing K]

/-! ## Initialising the IMU -/

/-- `ImuProcess`. -/
structure ImuProcess (K : Type*) where
  bFirstFrame : Bool
  imuNeedInit : Bool
  afterImuInit : Bool
  initIterNum : ℕ
  meanAcc : Vector3 K
  meanGyr : Vector3 K

def maxIniCount : ℕ := 100

/-- `ImuProcess::ImuProcess`. -/
def ImuProcess.make : ImuProcess K where
  bFirstFrame := true
  imuNeedInit := true
  afterImuInit := false
  initIterNum := 1
  meanAcc := ⟨0.0, 0.0, 0.0⟩
  meanGyr := ⟨0.0, 0.0, 0.0⟩

/-- `mean += (cur - mean) / N`. -/
def towards (mean cur : Vector3 K) (n : ℕ) : Vector3 K :=
  ⟨mean.x + (cur.x - mean.x) / (n : K), mean.y + (cur.y - mean.y) / (n : K),
    mean.z + (cur.z - mean.z) / (n : K)⟩

/-- One pass of the loop of `IMU_init`. -/
def ImuProcess.add (s : ImuProcess K) (imu : Imu K) : ImuProcess K :=
  { s with
    meanAcc := towards s.meanAcc imu.linearAcceleration s.initIterNum
    meanGyr := towards s.meanGyr imu.angularVelocity s.initIterNum
    initIterNum := s.initIterNum + 1 }

/-- `IMU_init`, for messages of which there is a first. -/
def ImuProcess.imuInit (s : ImuProcess K) (front : Imu K) (imu : List (Imu K)) : ImuProcess K :=
  let s :=
    if s.bFirstFrame then
      { s with
        bFirstFrame := false
        imuNeedInit := true
        afterImuInit := false
        initIterNum := 1
        meanAcc := front.linearAcceleration
        meanGyr := front.angularVelocity }
    else s
  imu.foldl ImuProcess.add s

/-- `Process`, with the cloud that it hands on, if it does. -/
def ImuProcess.process (imuEn : Bool) (s : ImuProcess K) (meas : MeasureGroup K) :
    ImuProcess K × Option (List (PointType K)) :=
  if imuEn then
    match meas.imu with
    | [] => (s, none)
    | front :: _ =>
        if s.imuNeedInit then
          let s := s.imuInit front meas.imu
          if maxIniCount < s.initIterNum then
            ({ s with imuNeedInit := false }, some meas.lidar)
          else ({ s with imuNeedInit := true }, none)
        else ({ s with afterImuInit := true }, some meas.lidar)
  else (s, some meas.lidar)

/-! ## The points of a scan -/

/-- `time_compressing`: the rest of its loop. -/
def compressLoop (j : ℕ) : List (PointType K) → List ℕ
  | pt :: next :: points =>
      if pt.curvature < next.curvature then (j + 1) :: compressLoop 0 (next :: points)
      else compressLoop (j + 1) (next :: points)
  | _ => [j + 1]

/-- `time_compressing`. -/
def timeCompressing (points : List (PointType K)) : List ℕ := compressLoop 0 points

/-- `pcl::VoxelGrid`: the centroids of the points in its voxels. -/
structure VoxelGrid (K : Type*) [LinearOrder K] where
  filter : List (PointType K) → List (PointType K)
  ne_nil : ∀ l, l ≠ [] → filter l ≠ []
  le_curvature : ∀ l, ∀ pt ∈ filter l, ∃ q ∈ l, pt.curvature ≤ q.curvature
  curvature_le : ∀ l, ∀ pt ∈ filter l, ∃ q ∈ l, q.curvature ≤ pt.curvature

/-- `std::sort` with `time_list`. -/
structure TimeSort (K : Type*) [LinearOrder K] where
  sort : List (PointType K) → List (PointType K)
  perm : ∀ l, (sort l).Perm l
  sorted : ∀ l, (sort l).Pairwise fun a b => a.curvature ≤ b.curvature

/-- Every point in a voxel of its own. -/
def VoxelGrid.identity : VoxelGrid K where
  filter l := l
  ne_nil _ h := h
  le_curvature _ pt h := ⟨pt, h, le_rfl⟩
  curvature_le _ pt h := ⟨pt, h, le_rfl⟩

/-- Sorting by insertion. -/
def TimeSort.insertion : TimeSort K where
  sort l := l.insertionSort fun a b => a.curvature ≤ b.curvature
  perm l := List.perm_insertionSort _ l
  sorted l := by
    have : Std.Total fun a b : PointType K => a.curvature ≤ b.curvature :=
      ⟨fun a b => le_total a.curvature b.curvature⟩
    have : IsTrans (PointType K) fun a b => a.curvature ≤ b.curvature :=
      ⟨fun _ _ _ hab hbc => hab.trans hbc⟩
    exact List.pairwise_insertionSort _ l

/-! ## The filter -/

/-- A call to `kf_output`: `predict`, `update_iterated_dyn_share_IMU` with the averages it reads,
and `update_iterated_dyn_share_modified` with the points it reads. -/
inductive Call (K : Type*)
  | predict (dt : K) (predictState propCov : Bool)
  | updateImu (angvelAvr accAvr : Vector3 K)
  | updatePoints (points : List (PointType K))

/-- The variables about the filter. -/
structure Filtering (K : Type*) where
  timeUpdateLast : K
  timePredictLastConst : K
  angvelAvr : Vector3 K
  accAvr : Vector3 K
  calls : List (Call K)

/-- The body of the loop over the IMU messages. -/
def Filtering.imuComes (f : Filtering K) (imuNext : Imu K) : Filtering K :=
  let f := { f with
    angvelAvr := imuNext.angularVelocity
    accAvr := imuNext.linearAcceleration
    calls := f.calls ++ [.predict (float64 (imuNext.time - f.timePredictLastConst)) true false]
    timePredictLastConst := imuNext.time }
  let dtCov := float64 (imuNext.time - f.timeUpdateLast)
  if 0.0 < dtCov then
    { f with
      timeUpdateLast := imuNext.time
      calls := f.calls ++ [.predict dtCov false true, .updateImu f.angvelAvr f.accAvr] }
  else f

/-- The predictions up to the time of the points, and the update with them. -/
def Filtering.pointsCome (p : Params K) (f : Filtering K) (timeCurrent : K)
    (points : List (PointType K)) : Filtering K :=
  let dt := float64 (timeCurrent - f.timePredictLastConst)
  let dtCov := float64 (timeCurrent - f.timeUpdateLast)
  let f :=
    if p.propAtFreqOfImu = false ∧ 0.0 < dtCov then
      { f with
        calls := f.calls ++ [.predict dtCov false true]
        timeUpdateLast := timeCurrent }
    else f
  { f with
    calls := f.calls ++ [.predict dt true false, .updatePoints points]
    timePredictLastConst := timeCurrent }

/-! ## The queue of IMU messages -/

/-- The loops that take the messages before a time from the deque, each with something to do for a
message. -/
def takeBefore {σ : Type*} (body : σ → Imu K → σ) (time : K) (f : σ) (imuLast imuNext : Imu K) :
    List (Imu K) → Option (σ × ImuQueue K)
  | [] => if imuNext.time < time then none else some (f, ⟨[], imuLast, imuNext⟩)
  | msg :: rest =>
      if imuNext.time < time then
        match rest with
        | [] => some (body f imuNext, ⟨[], imuLast, imuNext⟩)
        | next :: _ => takeBefore body time (body f imuNext) imuNext next rest
      else some (f, ⟨msg :: rest, imuLast, imuNext⟩)

/-- The messages before a time are taken. -/
def ImuQueue.dropBefore (q : ImuQueue K) (time : K) : Option (ImuQueue K) :=
  (takeBefore (fun _ _ => ()) time () q.imuLast q.imuNext q.imuDeque).map Prod.snd

/-- The loop that passes over the messages before the time of the filter. -/
def skipOld (time : K) (lastImu : Bool) (imuLast imuNext : Imu K) : List (Imu K) → ImuQueue K
  | [] => ⟨[], imuLast, imuNext⟩
  | msg :: rest =>
      if imuNext.time < time then
        if lastImu = false then ⟨msg :: rest, imuNext, msg⟩
        else
          match rest with
          | [] => ⟨[], imuLast, imuNext⟩
          | next :: _ => skipOld time lastImu imuNext next rest
      else ⟨msg :: rest, imuLast, imuNext⟩

/-- The messages before a time are given to the filter. -/
def ImuQueue.feed (q : ImuQueue K) (f : Filtering K) (time : K) :
    Option (Filtering K × ImuQueue K) :=
  match q.imuDeque with
  | [] => some (f, q)
  | front :: _ =>
      let lastImu := decide (q.imuNext.time = front.time)
      let q := skipOld f.timePredictLastConst lastImu q.imuLast q.imuNext q.imuDeque
      takeBefore Filtering.imuComes time f q.imuLast q.imuNext q.imuDeque

/-! ## The loop -/

/-- The variables of the main loop; of `init_feats_world` the size. -/
structure LaserMapping (K : Type*) where
  sync : Sync K
  measures : MeasureGroup K
  pImu : ImuProcess K
  flgFirstScan : Bool
  initMap : Bool
  isFirstFrame : Bool
  featsUndistort : List (PointType K)
  initFeatsWorld : ℕ
  timeCurrent : K
  filtering : Filtering K

/-- The variables as they are set first. -/
def LaserMapping.init : LaserMapping K where
  sync := .init
  measures := ⟨0.0, 0.0, [], []⟩
  pImu := .make
  flgFirstScan := true
  initMap := false
  isFirstFrame := true
  featsUndistort := []
  initFeatsWorld := 0
  timeCurrent := 0.0
  filtering := ⟨0.0, 0.0, ⟨0.0, 0.0, 0.0⟩, ⟨0.0, 0.0, 0.0⟩, []⟩

/-- With the first group of points the filter starts. -/
def LaserMapping.firstFrame (p : Params K) (s : LaserMapping K) : Option (LaserMapping K) :=
  let f := { s.filtering with
    timeUpdateLast := s.timeCurrent
    timePredictLastConst := s.timeCurrent }
  let s := { s with isFirstFrame := false, filtering := f }
  if p.imuEn then
    (s.sync.queue.dropBefore s.timeCurrent).map fun q =>
      { s with
        sync := { s.sync with queue := q }
        filtering := { f with
          angvelAvr := q.imuLast.angularVelocity
          accAvr := q.imuLast.linearAcceleration } }
  else some s

/-- Before the IMU messages of a group are given to the filter. -/
def LaserMapping.start (p : Params K) (s : LaserMapping K) : Option (LaserMapping K) :=
  if s.isFirstFrame then s.firstFrame p else some s

/-- The IMU messages of a group are given to the filter. -/
def LaserMapping.feed (p : Params K) (s : LaserMapping K) : Option (Filtering K × ImuQueue K) :=
  if p.imuEn then s.sync.queue.feed s.filtering s.timeCurrent
  else some (s.filtering, s.sync.queue)

/-- The pass for a group of points. -/
def LaserMapping.group (p : Params K) (s : LaserMapping K) (timeCurrent : K)
    (points : List (PointType K)) : Option (LaserMapping K) := do
  let s ← { s with timeCurrent := timeCurrent }.start p
  let fed ← s.feed p
  return { s with
    sync := { s.sync with queue := fed.2 }
    filtering := fed.1.pointsCome p s.timeCurrent points }

/-- The loop over the groups of points, of which so many are left. -/
def LaserMapping.groups (p : Params K) (s : LaserMapping K) (points : List (PointType K)) :
    List ℕ → Option (LaserMapping K)
  | [] => some s
  | n :: timeSeq => do
      let pointBody ← points[n - 1]?
      let timeCurrent :=
        float64 (float64 (pointBody.curvature / 1000.0) + s.measures.lidarBegTime)
      let s ← s.group p timeCurrent (points.take n)
      s.groups p (points.drop n) timeSeq

/-- What is done for the first scan. -/
def LaserMapping.firstScan (p : Params K) (s : LaserMapping K) : Option (LaserMapping K) :=
  if s.flgFirstScan then
    let s := { s with flgFirstScan := false, timeCurrent := 0.0 }
    if p.imuEn then
      (s.sync.queue.dropBefore s.measures.lidarBegTime).map fun q =>
        { s with sync := { s.sync with queue := q } }
    else some { s with pImu := { s.pImu with imuNeedInit := false } }
  else some s

/-- The scan goes through `p_imu`. -/
def LaserMapping.undistort (p : Params K) (s : LaserMapping K) : LaserMapping K :=
  let (pImu, cloud) := s.pImu.process p.imuEn s.measures
  { s with pImu := pImu, featsUndistort := cloud.getD s.featsUndistort }

/-- The scan goes into the initial map. -/
def LaserMapping.initializeMap (p : Params K) (s : LaserMapping K) : LaserMapping K :=
  let size := s.initFeatsWorld + s.featsUndistort.length
  if p.initMapSize ≤ size then { s with initMap := true, initFeatsWorld := 0 }
  else { s with initFeatsWorld := size }

/-- What is done with a scan that `sync_packages` has handed out. -/
def LaserMapping.process (p : Params K) (voxelGrid : VoxelGrid K) (timeSort : TimeSort K)
    (s : LaserMapping K) : Option (LaserMapping K) :=
  (s.firstScan p).bind fun s =>
    let s := s.undistort p
    let featsDownBody := timeSort.sort
      (if p.spaceDownSample then voxelGrid.filter s.featsUndistort else s.measures.lidar)
    let timeSeq := timeCompressing featsDownBody
    if s.pImu.afterImuInit = false ∧ s.pImu.imuNeedInit = true then some s
    else
      let s := if s.pImu.afterImuInit = false ∧ p.imuEn = false then
        { s with pImu := { s.pImu with afterImuInit := true } } else s
      if s.initMap = false then some (s.initializeMap p)
      else s.groups p featsDownBody timeSeq

/-- What the program reacts to: a message, or that the loop goes on. -/
inductive Action (K : Type*)
  | lidar (msg : CustomMsg K)
  | imu (msg : Imu K)
  | loop

/-- One reaction. -/
def LaserMapping.step (p : Params K) (voxelGrid : VoxelGrid K) (timeSort : TimeSort K)
    (s : LaserMapping K) : Action K → Option (LaserMapping K)
  | .lidar msg => some { s with sync := s.sync.livoxPclCbk p msg }
  | .imu msg => some { s with sync := s.sync.imuCbk msg }
  | .loop => do
      let (ready, sync, measures) ← s.sync.syncPackages p s.pImu.imuNeedInit s.measures
      let s := { s with sync := sync, measures := measures }
      if ready then s.process p voxelGrid timeSort else return s

/-- All reactions to what happens. -/
def LaserMapping.run (p : Params K) (voxelGrid : VoxelGrid K) (timeSort : TimeSort K)
    (s : LaserMapping K) (actions : List (Action K)) : Option (LaserMapping K) :=
  actions.foldlM (LaserMapping.step p voxelGrid timeSort) s

end SentryNav.PointLio
