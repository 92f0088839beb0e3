import SentryNav.Core.TimedMerge
import SentryNav.PointLio.MainLoop
import Mathlib.Algebra.Order.Field.Basic

/-!
# What `sync_packages` guarantees

What has been received is told from the messages alone: the scans with points and the IMU messages,
both without those that go back in time.  When a scan is handed out, an IMU message that is not
older than its last point is in the deque.  So the deque is never emptied, and its first message is
`imu_next`.
-/

namespace SentryNav.PointLio

open FloatFormat TimedMerge

variable {K : Type*} [Field K] [LinearOrder K] [IsStrictOrderedRing K] [FloorRing K]

/-! ## What is received -/

/-- A cloud whose points are not before its begin. -/
def Forward (cloud : List (PointType K)) : Prop := ∀ pt ∈ cloud, 0 ≤ pt.curvature

lemma CustomPoint.curvature_nonneg (pt : CustomPoint K) : 0 ≤ pt.toPointType.curvature :=
  Format.round_nonneg (div_nonneg (Format.round_nonneg (Nat.cast_nonneg _)) (by norm_num))

lemma Params.aviaLoop_forward (p : Params K) (points : List (CustomPoint K)) :
    ∀ validNum last plSurf, Forward plSurf → Forward (p.aviaLoop validNum last plSurf points) := by
  induction points with
  | nil => exact fun _ _ _ h => h
  | cons pt points ih =>
      intro validNum last plSurf h
      have hadded : Forward (plSurf ++ [pt.toPointType]) := by
        intro q hq
        rcases List.mem_append.mp hq with hq | hq
        · exact h q hq
        · obtain rfl := List.mem_singleton.mp hq
          exact pt.curvature_nonneg
      simp only [Params.aviaLoop]
      split_ifs
      · exact ih _ _ _ h
      · exact ih _ _ _ hadded
      · exact ih _ _ _ h
      · exact ih _ _ _ h
      · exact ih _ _ _ h

lemma Params.aviaHandler_forward (p : Params K) (msg : CustomMsg K) :
    Forward (p.aviaHandler msg) :=
  p.aviaLoop_forward _ _ _ _ fun _ h => absurd h List.not_mem_nil

/-- The time of a stamp is a `double`. -/
lemma isFloat_getTimeSec (stamp : ℤ) : binary64.IsFloat (getTimeSec stamp : K) :=
  isFloat_seconds stamp

/-- A scan as it is put in the buffers. -/
structure Scan (K : Type*) [Field K] [LinearOrder K] where
  begTime : K
  cloud : List (PointType K)
  isFloat : binary64.IsFloat begTime
  ne_nil : cloud ≠ []
  forward : Forward cloud

/-- The time of a point in a scan that begins at a time. -/
def pointTime (begTime curvature : K) : K := float64 (begTime + float64 (curvature / 1000.0))

/-- The time of the last point. -/
def Scan.endTime (scan : Scan K) : K :=
  pointTime scan.begTime ((PointLio.endTime scan.cloud).getD 0)

/-- The scan that a message brings, if it has points and does not go back behind a time. -/
def CustomMsg.scan (p : Params K) (last : K) (msg : CustomMsg K) : List (Scan K) :=
  if getTimeSec msg.header.stamp < last then []
  else if h : p.aviaHandler msg ≠ [] then
    [⟨getTimeSec msg.header.stamp, p.aviaHandler msg, isFloat_getTimeSec _, h,
      p.aviaHandler_forward msg⟩]
  else []

/-- What is taken of an IMU message, if it does not go back behind a time. -/
def Imu.taken (last : K) (msg : Imu K) : List (Imu K) :=
  if msg.restamped.time < last then [] else [msg.restamped]

/-- The scan that an action brings. -/
def Action.scan (p : Params K) (last : K) : Action K → List (Scan K)
  | .lidar msg => msg.scan p last
  | _ => []

/-- The IMU message that an action brings. -/
def Action.imus (last : K) : Action K → List (Imu K)
  | .imu msg => msg.taken last
  | _ => []

/-- The time behind which no more scan may go back. -/
def Action.lastLidar (last : K) : Action K → K
  | .lidar msg => max last (getTimeSec msg.header.stamp)
  | _ => last

/-- The time behind which no more IMU message may go back. -/
def Action.lastImu (last : K) : Action K → K
  | .imu msg => max last msg.restamped.time
  | _ => last

/-- The scans that are received, those that go back in time left out. -/
def scansReceived (p : Params K) (last : K) : List (Action K) → List (Scan K)
  | [] => []
  | action :: actions => action.scan p last ++ scansReceived p (action.lastLidar last) actions

/-- The IMU messages that are received, those that go back in time left out. -/
def imusReceived (last : K) : List (Action K) → List (Imu K)
  | [] => []
  | action :: actions => action.imus last ++ imusReceived (action.lastImu last) actions

/-! ## The time of the last point -/

omit [Field K] [IsStrictOrderedRing K] in
lemma le_foldl_curvature (points : List (PointType K)) : ∀ t,
    t ≤ points.foldl (fun t pt => if t < pt.curvature then pt.curvature else t) t ∧
      ∀ pt ∈ points, pt.curvature
        ≤ points.foldl (fun t pt => if t < pt.curvature then pt.curvature else t) t := by
  induction points with
  | nil => exact fun t => ⟨le_rfl, fun _ h => absurd h List.not_mem_nil⟩
  | cons pt points ih =>
      intro t
      have hstep : t ≤ (if t < pt.curvature then pt.curvature else t) ∧
          pt.curvature ≤ (if t < pt.curvature then pt.curvature else t) := by
        split_ifs with h
        · exact ⟨h.le, le_rfl⟩
        · exact ⟨le_rfl, not_lt.mp h⟩
      obtain ⟨hle, hall⟩ := ih (if t < pt.curvature then pt.curvature else t)
      refine ⟨hstep.1.trans hle, fun q hq => ?_⟩
      rcases List.mem_cons.mp hq with rfl | hq
      · exact hstep.2.trans hle
      · exact hall q hq

omit [IsStrictOrderedRing K] [FloorRing K] in
/-- No point is later than the last time of a scan. -/
lemma Scan.endTime_spec (scan : Scan K) :
    ∃ t, PointLio.endTime scan.cloud = some t ∧ ∀ pt ∈ scan.cloud, pt.curvature ≤ t := by
  obtain ⟨back, hback⟩ := Option.ne_none_iff_exists'.mp
    (fun h => scan.ne_nil (List.getLast?_eq_none_iff.mp h) : scan.cloud.getLast? ≠ none)
  rw [PointLio.endTime, hback]
  exact ⟨_, rfl, (le_foldl_curvature scan.cloud _).2⟩

lemma pointTime_mono (begTime : K) : Monotone (pointTime begTime) := by
  intro curvature curvature' h
  have hthousand : (0 : K) ≤ 1000.0 := by norm_num
  have hseconds := binary64.round_mono (div_le_div_of_nonneg_right h hthousand)
  exact binary64.round_mono (add_le_add_right hseconds begTime)

/-- A point of a scan is not before its begin. -/
lemma Scan.begTime_le_pointTime (scan : Scan K) {curvature : K} (h : 0 ≤ curvature) :
    scan.begTime ≤ pointTime scan.begTime curvature := by
  have hseconds : 0 ≤ float64 (curvature / 1000.0) :=
    Format.round_nonneg (div_nonneg h (by norm_num))
  exact scan.isFloat.le_round (le_add_of_nonneg_right hseconds)

/-- A point is not later than the end of its scan. -/
lemma Scan.le_endTime (scan : Scan K) {pt : PointType K}
    (h : ∃ q ∈ scan.cloud, pt.curvature ≤ q.curvature) :
    pointTime scan.begTime pt.curvature ≤ scan.endTime := by
  obtain ⟨t, ht, hle⟩ := scan.endTime_spec
  obtain ⟨q, hq, hpt⟩ := h
  rw [Scan.endTime, ht, Option.getD_some]
  exact pointTime_mono _ (hpt.trans (hle q hq))

/-- A scan does not end before it begins. -/
lemma Scan.begTime_le (scan : Scan K) : scan.begTime ≤ scan.endTime := by
  obtain ⟨pt, hpt⟩ := List.exists_mem_of_ne_nil _ scan.ne_nil
  calc scan.begTime
      ≤ pointTime scan.begTime pt.curvature := scan.begTime_le_pointTime (scan.forward pt hpt)
    _ ≤ scan.endTime := scan.le_endTime ⟨pt, hpt, le_rfl⟩

/-! ## The scans that wait -/

variable {p : Params K} {s s' : Sync K} {meas meas' : MeasureGroup K} {scan : Scan K}
  {waiting : List (Scan K)} {imus consumed : List (Imu K)}

/-- The buffers hold some scans; the first of them may be the one to process already. -/
structure Waiting (s : Sync K) (meas : MeasureGroup K) (waiting : List (Scan K)) : Prop where
  lidar : s.lidarBuffer = waiting.map Scan.cloud
  time : s.timeBuffer = waiting.map Scan.begTime
  imuPushed : s.imuPushed = false
  pushed : s.lidarPushed = true → ∃ scan rest, waiting = scan :: rest ∧ s.loseLid = false ∧
    s.lidarEndTime = scan.endTime ∧ meas.lidar = scan.cloud ∧ meas.lidarBegTime = scan.begTime

omit [IsStrictOrderedRing K] in
/-- The queue of IMU messages does not matter. -/
lemma Waiting.congr {q : ImuQueue K} (h : Waiting s meas waiting)
    (hs : { s' with queue := q } = s) : Waiting s' meas waiting := by
  rw [← hs] at h
  exact ⟨h.lidar, h.time, h.imuPushed, h.pushed⟩

/-- A message brings its scan. -/
lemma Waiting.livoxPclCbk (h : Waiting s meas waiting) (hcon : p.conFrame = false)
    (msg : CustomMsg K) :
    Waiting (s.livoxPclCbk p msg) meas (waiting ++ msg.scan p s.lastTimestampLidar) ∧
      (s.livoxPclCbk p msg).lastTimestampLidar
        = max s.lastTimestampLidar (getTimeSec msg.header.stamp) ∧
      (s.livoxPclCbk p msg).queue = s.queue ∧
      (s.livoxPclCbk p msg).lastTimestampImu = s.lastTimestampImu := by
  rw [Sync.livoxPclCbk, CustomMsg.scan]
  simp only [hcon]
  by_cases hback : getTimeSec msg.header.stamp < s.lastTimestampLidar
  · rw [if_pos hback, if_pos hback, List.append_nil, max_eq_left hback.le]
    exact ⟨h, rfl, rfl, rfl⟩
  · rw [if_neg hback, if_neg hback, max_eq_right (not_lt.mp hback)]
    by_cases hpoints : p.aviaHandler msg ≠ []
    · simp only [Bool.false_eq_true, if_false, if_pos hpoints, dif_pos hpoints]
      refine ⟨⟨?_, ?_, h.imuPushed, fun hpushed => ?_⟩, trivial, trivial, trivial⟩
      · simp [h.lidar]
      · simp [h.time]
      · obtain ⟨scan, rest, rfl, hscan⟩ := h.pushed hpushed
        exact ⟨scan, _, List.cons_append .., hscan⟩
    · simp only [Bool.false_eq_true, if_false, if_neg hpoints, dif_neg hpoints, List.append_nil]
      exact ⟨⟨h.lidar, h.time, h.imuPushed, h.pushed⟩, trivial, trivial, trivial⟩

omit [IsStrictOrderedRing K] in
/-- The first scan that waits becomes the one to process. -/
lemma Waiting.pushLidar (h : Waiting s meas (scan :: waiting)) :
    ∃ s' meas', s.pushLidar meas = some (s', meas') ∧ Waiting s' meas' (scan :: waiting) ∧
      s'.lidarPushed = true ∧ s'.queue = s.queue ∧ s'.lastTimestampImu = s.lastTimestampImu ∧
      s'.lastTimestampLidar = s.lastTimestampLidar ∧ meas'.imu = meas.imu := by
  rw [Sync.pushLidar]
  cases hpushed : s.lidarPushed with
  | true => exact ⟨s, meas, rfl, h, hpushed, rfl, rfl, rfl, rfl⟩
  | false =>
      obtain ⟨t, ht, -⟩ := scan.endTime_spec
      rw [h.lidar, h.time]
      simp only [Bool.false_eq_true, if_false, List.map_cons, List.head?_cons, Option.bind_eq_bind,
        Option.bind_some, ht]
      refine ⟨_, _, rfl, ⟨rfl, rfl, h.imuPushed, fun _ => ?_⟩, rfl, rfl, rfl, rfl, rfl⟩
      refine ⟨scan, waiting, rfl, rfl, ?_, rfl, rfl⟩
      rw [Scan.endTime, ht, Option.getD_some]
      rfl

omit [IsStrictOrderedRing K] in
/-- The first scan leaves the buffers. -/
lemma popLidar_spec (hlidar : s.lidarBuffer = (scan :: waiting).map Scan.cloud)
    (htime : s.timeBuffer = (scan :: waiting).map Scan.begTime) (meas : MeasureGroup K) :
    ∃ s', s.popLidar = some s' ∧ Waiting s' meas waiting ∧ s'.queue = s.queue ∧
      s'.lastTimestampImu = s.lastTimestampImu ∧
      s'.lastTimestampLidar = s.lastTimestampLidar := by
  rw [List.map_cons] at hlidar htime
  rw [Sync.popLidar, hlidar, htime]
  exact ⟨_, rfl, ⟨rfl, rfl, rfl, fun hpushed => nomatch hpushed⟩, rfl, rfl, rfl⟩

/-! ## The IMU messages -/

/-- Of the messages received some have been consumed and the rest is in the deque.  They are in the
order of their times, and the last of them is in the deque. -/
structure Queued (s : Sync K) (imus consumed : List (Imu K)) : Prop where
  ledger : imus = consumed ++ s.queue.imuDeque
  ascending : imus.Pairwise fun m m' => m.time ≤ m'.time
  bounded : ∀ m ∈ imus, m.time ≤ s.lastTimestampImu
  newest : imus ≠ [] → ∃ m ∈ s.queue.imuDeque, m.time = s.lastTimestampImu

omit [IsStrictOrderedRing K] in
lemma Imu.le_of_mem_taken {last : K} {msg m : Imu K} (h : m ∈ msg.taken last) :
    last ≤ m.time ∧ m.time ≤ msg.restamped.time := by
  rw [Imu.taken] at h
  split_ifs at h with hback
  · exact absurd h List.not_mem_nil
  · obtain rfl := List.mem_singleton.mp h
    exact ⟨not_lt.mp hback, le_rfl⟩

omit [IsStrictOrderedRing K] in
lemma Sync.imuCbk_eq (s : Sync K) (msg : Imu K) :
    s.imuCbk msg = { s with
      queue := { s.queue with imuDeque := s.queue.imuDeque ++ msg.taken s.lastTimestampImu }
      lastTimestampImu := max s.lastTimestampImu msg.restamped.time } := by
  rw [Sync.imuCbk, Imu.taken]
  by_cases hback : msg.restamped.time < s.lastTimestampImu
  · simp only [if_pos hback, List.append_nil, max_eq_left hback.le]
  · simp only [if_neg hback, max_eq_right (not_lt.mp hback)]

omit [IsStrictOrderedRing K] in
/-- A message comes. -/
lemma Queued.imuCbk (h : Queued s imus consumed) (msg : Imu K) :
    Queued (s.imuCbk msg) (imus ++ msg.taken s.lastTimestampImu) consumed := by
  rw [Sync.imuCbk_eq]
  refine ⟨?_, ?_, ?_, ?_⟩
  · rw [h.ledger, List.append_assoc]
  · refine List.pairwise_append.mpr ⟨h.ascending, ?_, fun m hm m' hm' => ?_⟩
    · rw [Imu.taken]
      split_ifs
      · exact List.Pairwise.nil
      · exact List.pairwise_singleton _ _
    · exact (h.bounded m hm).trans (Imu.le_of_mem_taken hm').1
  · intro m hm
    rcases List.mem_append.mp hm with hm | hm
    · exact (h.bounded m hm).trans (le_max_left _ _)
    · exact (Imu.le_of_mem_taken hm).2.trans (le_max_right _ _)
  · intro hne
    show ∃ m ∈ s.queue.imuDeque ++ msg.taken s.lastTimestampImu,
      m.time = max s.lastTimestampImu msg.restamped.time
    rw [Imu.taken] at hne ⊢
    split_ifs at hne ⊢ with hback
    · rw [List.append_nil] at hne ⊢
      rw [max_eq_left hback.le]
      exact h.newest hne
    · rw [max_eq_right (not_lt.mp hback)]
      exact ⟨_, List.mem_append_right _ List.mem_cons_self, rfl⟩

omit [IsStrictOrderedRing K] in
/-- Messages before a time are consumed, if a later one has been received. -/
lemma Queued.take {t : K} (h : Queued s imus consumed)
    (hdeque : s'.queue.imuDeque = s.queue.imuDeque.dropWhile (earlier Imu.time t))
    (hlast : s'.lastTimestampImu = s.lastTimestampImu) (ht : t ≤ s.lastTimestampImu) :
    Queued s' imus (consumed ++ s.queue.imuDeque.takeWhile (earlier Imu.time t)) where
  ledger := by
    rw [hdeque, List.append_assoc, List.takeWhile_append_dropWhile]
    exact h.ledger
  ascending := h.ascending
  bounded := hlast ▸ h.bounded
  newest hne := by
    obtain ⟨m, hm, htime⟩ := h.newest hne
    refine ⟨m, ?_, htime.trans hlast.symm⟩
    rw [← List.takeWhile_append_dropWhile (p := earlier Imu.time t) (l := s.queue.imuDeque)] at hm
    rcases List.mem_append.mp hm with hm | hm
    · have hearlier := List.mem_takeWhile_imp hm
      have hlt : m.time < t := of_decide_eq_true hearlier
      exact absurd (htime ▸ hlt) (not_lt.mpr ht)
    · exact hdeque ▸ hm

omit [IsStrictOrderedRing K] in
/-- Not all messages in the deque are before a time, if one that is not has been received. -/
lemma Queued.exists_late {t : K} (h : Queued s imus consumed) (hne : imus ≠ [])
    (ht : t ≤ s.lastTimestampImu) : ∃ m ∈ s.queue.imuDeque, t ≤ m.time := by
  obtain ⟨m, hm, htime⟩ := h.newest hne
  exact ⟨m, hm, htime ▸ ht⟩

/-! ## Handing out a scan -/

omit [IsStrictOrderedRing K] in
lemma pushImu_spec {t : K} (deque : List (Imu K)) : ∀ imu imuLast imuNext,
    deque.head? = some imuNext → (∃ m ∈ deque, t ≤ m.time) →
    (pushImu t imu imuLast imuNext deque).1 = imu ++ deque.takeWhile (earlier Imu.time t) ∧
      (pushImu t imu imuLast imuNext deque).2.imuDeque
        = deque.dropWhile (earlier Imu.time t) ∧
      (pushImu t imu imuLast imuNext deque).2.imuDeque.head?
        = some (pushImu t imu imuLast imuNext deque).2.imuNext := by
  induction deque with
  | nil => simp
  | cons msg rest ih =>
      intro imu imuLast imuNext hhead hlate
      obtain rfl : msg = imuNext := Option.some.inj hhead
      unfold pushImu
      by_cases hlt : msg.time < t
      · have hearlier : earlier Imu.time t msg = true := decide_eq_true hlt
        have hrest : ∃ m ∈ rest, t ≤ m.time := by
          obtain ⟨m, hm, hle⟩ := hlate
          rcases List.mem_cons.mp hm with rfl | hm
          · exact absurd hlt (not_lt.mpr hle)
          · exact ⟨m, hm, hle⟩
        rw [if_pos hlt, List.takeWhile_cons_of_pos hearlier, List.dropWhile_cons_of_pos hearlier]
        cases rest with
        | nil => simp at hrest
        | cons next rest =>
            obtain ⟨himu, hdeque, hnext⟩ := ih (imu ++ [msg]) msg next rfl hrest
            refine ⟨?_, hdeque, hnext⟩
            rw [himu, List.append_assoc]
            rfl
      · have hearlier : ¬ earlier Imu.time t msg = true := by
          simpa [earlier] using hlt
        rw [if_neg hlt, List.takeWhile_cons_of_neg hearlier, List.dropWhile_cons_of_neg hearlier]
        exact ⟨(List.append_nil _).symm, rfl, rfl⟩

/-- `sync_packages` hands out a scan: a message that is not older than its end has been received.
While the IMU is initialised the older ones are moved to `meas.imu`. -/
structure Handed (imuNeedInit : Bool) (s s' : Sync K) (meas meas' : MeasureGroup K)
    (scan : Scan K) : Prop where
  lidar : meas'.lidar = scan.cloud
  begTime : meas'.lidarBegTime = scan.begTime
  received : scan.endTime ≤ s.lastTimestampImu
  moved : imuNeedInit = true →
    meas'.imu = meas.imu ++ s.queue.imuDeque.takeWhile (earlier Imu.time scan.endTime) ∧
    s'.queue.imuDeque = s.queue.imuDeque.dropWhile (earlier Imu.time scan.endTime) ∧
    s'.queue.imuDeque.head? = some s'.queue.imuNext
  kept : imuNeedInit = false → meas'.imu = meas.imu ∧ s'.queue = s.queue

omit [IsStrictOrderedRing K] in
/-- `sync_packages` hands out the first scan that waits, or none. -/
lemma Waiting.syncPackages (himu : p.imuEn = true) (h : Waiting s meas waiting)
    (hqueued : Queued s imus consumed) (imuNeedInit : Bool) :
    ∃ ready s' meas', s.syncPackages p imuNeedInit meas = some (ready, s', meas') ∧
      s'.lastTimestampImu = s.lastTimestampImu ∧
      s'.lastTimestampLidar = s.lastTimestampLidar ∧
      (ready = false ∧ Waiting s' meas' waiting ∧ s'.queue = s.queue ∧ meas'.imu = meas.imu ∨
        ready = true ∧ imus ≠ [] ∧ ∃ scan rest, waiting = scan :: rest ∧
          Waiting s' meas' rest ∧ Handed imuNeedInit s s' meas meas' scan) := by
  rw [Sync.syncPackages, if_neg (by rw [himu]; exact Bool.noConfusion)]
  by_cases hnone : s.lidarBuffer = [] ∨ s.queue.imuDeque = []
  · rw [if_pos hnone]
    exact ⟨false, s, meas, rfl, rfl, rfl, .inl ⟨rfl, h, rfl, rfl⟩⟩
  rw [if_neg hnone]
  obtain ⟨hlidar, hdeque⟩ := not_or.mp hnone
  cases waiting with
  | nil => exact absurd (h.lidar.trans rfl) hlidar
  | cons scan rest =>
      obtain ⟨s₁, meas₁, hpush, hwaiting, hpushed, hqueue, himulast, hlidarlast, hmeas⟩ :=
        h.pushLidar
      obtain ⟨scan', rest', hcons, hlose, hend, hcloud, hbeg⟩ := hwaiting.pushed hpushed
      obtain ⟨rfl, rfl⟩ := List.cons.inj hcons
      simp only [hpush, Option.bind_eq_bind, Option.bind_some, hlose, hend, himulast,
        Bool.false_eq_true, if_false]
      by_cases hwait : s.lastTimestampImu < scan.endTime
      · rw [if_pos hwait]
        exact ⟨false, s₁, meas₁, rfl, himulast, hlidarlast, .inl ⟨rfl, hwaiting, hqueue, hmeas⟩⟩
      · rw [if_neg hwait]
        have hreceived := not_lt.mp hwait
        have hne : imus ≠ [] := by
          rw [hqueued.ledger]
          exact List.append_ne_nil_of_right_ne_nil _ hdeque
        obtain ⟨front, hfront⟩ := Option.ne_none_iff_exists'.mp
          (fun hnil => hdeque (List.head?_eq_none_iff.mp hnil) : s.queue.imuDeque.head? ≠ none)
        rw [hqueue, hfront]
        simp only [Option.bind_some, hwaiting.imuPushed, Bool.not_false, Bool.and_true]
        generalize hmoved : (if imuNeedInit = true then
          pushImu scan.endTime meas₁.imu s.queue.imuLast front s.queue.imuDeque
          else (meas₁.imu, s.queue)) = moved
        let meas₂ := { meas₁ with imu := moved.1 }
        obtain ⟨s₂, hpop, hrest, hqueue₂, himulast₂, hlidarlast₂⟩ :=
          popLidar_spec (s := { s₁ with queue := moved.2, imuPushed := true }) hwaiting.lidar
            hwaiting.time meas₂
        refine ⟨true, s₂, meas₂, ?_, himulast₂.trans himulast, hlidarlast₂.trans hlidarlast,
          .inr ⟨rfl, hne, scan, rest, rfl, hrest, hcloud, hbeg, hreceived, fun hinit => ?_,
            fun hinit => ?_⟩⟩
        · rw [← himulast, ← hend, ← hlose, hpop]
          rfl
        · have hspec := pushImu_spec s.queue.imuDeque meas₁.imu s.queue.imuLast front hfront
            (hqueued.exists_late hne hreceived)
          rw [if_pos hinit] at hmoved
          rw [hmoved] at hspec
          exact ⟨hmeas ▸ hspec.1, hqueue₂ ▸ hspec.2.1, hqueue₂ ▸ hspec.2.2⟩
        · rw [if_neg (Bool.eq_false_iff.mp hinit)] at hmoved
          subst hmoved
          exact ⟨hmeas, hqueue₂⟩

end SentryNav.PointLio
