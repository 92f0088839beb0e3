import SentryNav.PointLio.SyncGuarantees
import Mathlib.Data.List.SplitBy

/-!
# What the filter is told

The filter is told the groups of points of the scans and the IMU messages, each message before the
first group that is later.  It does not depend on when they have arrived: `filter_told` is that a
run makes the calls to the filter that follow from the scans and the messages put together by their
times, after some scans and messages that have gone into the initialisation.
-/

namespace SentryNav.PointLio

open FloatFormat TimedMerge

variable {K : Type*} [Field K] [LinearOrder K] [FloorRing K]

/-! ## The groups of a scan -/

/-- The points in groups of one time. -/
def timeGroups (points : List (PointType K)) : List (List (PointType K)) :=
  points.splitBy fun a b => !decide (a.curvature < b.curvature)

omit [Field K] in
lemma length_splitBy_loop (points : List (PointType K)) : ∀ pt group groups,
    (List.splitBy.loop (fun a b : PointType K => !decide (a.curvature < b.curvature))
      points pt group groups).map List.length
      = (groups.map List.length).reverse ++ compressLoop group.length (pt :: points) := by
  induction points with
  | nil =>
      intro pt group groups
      simp [List.splitBy.loop, compressLoop]
  | cons next points ih =>
      intro pt group groups
      rw [List.splitBy.loop, compressLoop]
      by_cases hlt : pt.curvature < next.curvature
      · simp [hlt, ih]
      · simp [hlt, ih]

omit [Field K] in
/-- `time_compressing` counts the points of the groups. -/
lemma timeCompressing_eq {points : List (PointType K)} (h : points ≠ []) :
    timeCompressing points = (timeGroups points).map List.length := by
  cases points with
  | nil => exact absurd rfl h
  | cons pt points => exact (length_splitBy_loop points pt [] []).symm

/-- Some points with their time. -/
structure Group (K : Type*) where
  time : K
  points : List (PointType K)

/-- The points of a scan as the filter gets them. -/
def Scan.body (p : Params K) (voxelGrid : VoxelGrid K) (timeSort : TimeSort K) (scan : Scan K) :
    List (PointType K) :=
  timeSort.sort (if p.spaceDownSample then voxelGrid.filter scan.cloud else scan.cloud)

/-- The time of points in a scan that begins at a time is that of the last of them. -/
def groupAt (begTime : K) (points : List (PointType K)) : Group K where
  time := pointTime begTime (points.getLast?.elim 0 PointType.curvature)
  points := points

/-- The groups of a scan. -/
def Scan.groups (p : Params K) (voxelGrid : VoxelGrid K) (timeSort : TimeSort K) (scan : Scan K) :
    List (Group K) :=
  (timeGroups (scan.body p voxelGrid timeSort)).map (groupAt scan.begTime)

/-! ## Taking messages from the queue -/

/-- The first message of the deque is `imu_next`. -/
def ImuQueue.Aligned (q : ImuQueue K) : Prop := q.imuDeque.head? = some q.imuNext

variable {p : Params K} {imus consumed : List (Imu K)} {t : K}

lemma takeBefore_spec {σ : Type*} (body : σ → Imu K → σ) (deque : List (Imu K)) :
    ∀ f imuLast imuNext, deque.head? = some imuNext → (∃ m ∈ deque, t ≤ m.time) →
      ∃ q, takeBefore body t f imuLast imuNext deque
          = some ((deque.takeWhile (earlier Imu.time t)).foldl body f, q) ∧
        q.imuDeque = deque.dropWhile (earlier Imu.time t) ∧ q.Aligned := by
  induction deque with
  | nil => simp
  | cons msg rest ih =>
      intro f imuLast imuNext hhead hlate
      obtain rfl : msg = imuNext := Option.some.inj hhead
      unfold takeBefore
      by_cases hlt : msg.time < t
      · have hearlier : earlier Imu.time t msg = true := decide_eq_true hlt
        have hrest : ∃ m ∈ rest, t ≤ m.time := by
          obtain ⟨m, hm, hle⟩ := hlate
          rcases List.mem_cons.mp hm with rfl | hm
          · exact absurd hlt (not_lt.mpr hle)
          · exact ⟨m, hm, hle⟩
        rw [if_pos hlt, List.takeWhile_cons_of_pos hearlier, List.dropWhile_cons_of_pos hearlier]
        cases rest with
        | nil => simp at hrest
        | cons next rest => exact ih (body f msg) msg next rfl hrest
      · have hearlier : ¬ earlier Imu.time t msg = true := by
          simpa [earlier] using hlt
        rw [if_neg hlt, List.takeWhile_cons_of_neg hearlier, List.dropWhile_cons_of_neg hearlier]
        exact ⟨_, rfl, rfl, rfl⟩

/-- The loops that only take messages. -/
lemma ImuQueue.Aligned.dropBefore {q : ImuQueue K} (h : q.Aligned)
    (hlate : ∃ m ∈ q.imuDeque, t ≤ m.time) :
    ∃ q', q.dropBefore t = some q' ∧ q'.imuDeque = q.imuDeque.dropWhile (earlier Imu.time t) ∧
      q'.Aligned := by
  obtain ⟨q', htake, hdeque, halign⟩ :=
    takeBefore_spec (fun (_ : Unit) _ => ()) q.imuDeque () q.imuLast q.imuNext h hlate
  exact ⟨q', by rw [ImuQueue.dropBefore, htake]; rfl, hdeque, halign⟩

/-- Nothing is passed over if nothing is before the time of the filter. -/
lemma skipOld_of_le {b : Bool} {imuLast imuNext : Imu K} (h : t ≤ imuNext.time)
    (deque : List (Imu K)) : skipOld t b imuLast imuNext deque = ⟨deque, imuLast, imuNext⟩ := by
  cases deque with
  | nil => rfl
  | cons msg rest =>
      unfold skipOld
      rw [if_neg (not_lt.mpr h)]

/-- The loop that gives messages to the filter. -/
lemma ImuQueue.Aligned.feed {q : ImuQueue K} (h : q.Aligned) {f : Filtering K}
    (hlate : ∃ m ∈ q.imuDeque, t ≤ m.time)
    (hpast : ∀ m ∈ q.imuDeque, f.timePredictLastConst ≤ m.time) :
    ∃ q', q.feed f t
        = some ((q.imuDeque.takeWhile (earlier Imu.time t)).foldl Filtering.imuComes f, q') ∧
      q'.imuDeque = q.imuDeque.dropWhile (earlier Imu.time t) ∧ q'.Aligned := by
  have hnext : f.timePredictLastConst ≤ q.imuNext.time := hpast _ (List.mem_of_mem_head? h)
  obtain ⟨q', htake, hrest⟩ :=
    takeBefore_spec Filtering.imuComes q.imuDeque f q.imuLast q.imuNext h hlate
  refine ⟨q', ?_, hrest⟩
  rw [ImuQueue.feed]
  cases hdeque : q.imuDeque with
  | nil => simp [hdeque] at hlate
  | cons front rest =>
      rw [hdeque] at htake
      simp only [skipOld_of_le hnext]
      exact htake

/-! ## A group -/

/-- What the filter is told. -/
abbrev Input (K : Type*) := Imu K ⊕ Group K

/-- What is done with the filter. -/
def Filtering.react (p : Params K) (f : Filtering K) : Input K → Filtering K
  | .inl msg => f.imuComes msg
  | .inr g => f.pointsCome p g.time g.points

/-- The filter starts at a time. -/
structure Filtering.Starts (f : Filtering K) (t : K) : Prop where
  calls : f.calls = []
  timeUpdateLast : f.timeUpdateLast = t
  timePredictLastConst : f.timePredictLastConst = t

/-- The filter has been told the groups, and the messages in between. -/
def Told (p : Params K) (s : LaserMapping K) (imus : List (Imu K)) : List (Group K) → Prop
  | [] => s.isFirstFrame = true ∧ s.filtering.calls = [] ∧
      imus = s.measures.imu ++ s.sync.queue.imuDeque
  | first :: rest => s.isFirstFrame = false ∧ ∃ later f, imus = s.measures.imu ++ later ∧
      f.Starts first.time ∧
      s.sync.queue.imuDeque = (merge Imu.time Group.time
        (later.dropWhile (earlier Imu.time first.time)) (first :: rest)).2 ∧
      s.filtering = (merge Imu.time Group.time
        (later.dropWhile (earlier Imu.time first.time)) (first :: rest)).1.foldl
          (Filtering.react p) f

/-- Messages come that are not too late. -/
lemma Told.arrive {s s' : LaserMapping K} {groups : List (Group K)} {more : List (Imu K)}
    (h : Told p s imus groups) (hfirst : s'.isFirstFrame = s.isFirstFrame)
    (hfilter : s'.filtering = s.filtering) (himu : s'.measures.imu = s.measures.imu)
    (hdeque : s'.sync.queue.imuDeque = s.sync.queue.imuDeque ++ more)
    (hlate : ∀ g ∈ groups, ∀ m ∈ more, g.time ≤ m.time) : Told p s' (imus ++ more) groups := by
  cases groups with
  | nil =>
      obtain ⟨hframe, hcalls, himus⟩ := h
      refine ⟨hfirst.trans hframe, hfilter ▸ hcalls, ?_⟩
      rw [himu, hdeque, himus, List.append_assoc]
  | cons first rest =>
      obtain ⟨hframe, later, f, himus, hstarts, hqueue, htold⟩ := h
      have hdrop := (takeWhile_append_of_not_earlier later (hlate first List.mem_cons_self)).2
      refine ⟨hfirst.trans hframe, later ++ more, f, ?_, hstarts, ?_, ?_⟩
      · rw [himu, himus, List.append_assoc]
      · rw [hdrop, merge_append hlate, hdeque, hqueue]
      · rw [hdrop, merge_append hlate, hfilter, htold]

/-- It depends on a few variables only. -/
lemma Told.congr {s s' : LaserMapping K} {groups : List (Group K)}
    (h : Told p s imus groups) (hfirst : s'.isFirstFrame = s.isFirstFrame)
    (hfilter : s'.filtering = s.filtering) (himu : s'.measures.imu = s.measures.imu)
    (hdeque : s'.sync.queue.imuDeque = s.sync.queue.imuDeque) : Told p s' imus groups := by
  have harrive : Told p s' (imus ++ []) groups := h.arrive hfirst hfilter himu
    (hdeque.trans (List.append_nil _).symm) fun _ _ _ hm => absurd hm List.not_mem_nil
  rwa [List.append_nil] at harrive

/-- What holds while the filter is told the groups. -/
structure Telling (p : Params K) (s : LaserMapping K) (imus : List (Imu K))
    (groups : List (Group K)) : Prop where
  queued : ∃ consumed, Queued s.sync imus consumed
  aligned : s.sync.queue.Aligned
  told : Told p s imus groups
  times : ∀ g ∈ groups, g.time ≤ s.sync.lastTimestampImu
  past : s.isFirstFrame = false →
    ∀ m ∈ s.sync.queue.imuDeque, s.filtering.timePredictLastConst ≤ m.time

/-- Only the filter and the queue are different. -/
structure OnlyFilter (s s' : LaserMapping K) : Prop where
  measures : s'.measures = s.measures
  pImu : s'.pImu = s.pImu
  flgFirstScan : s'.flgFirstScan = s.flgFirstScan
  initMap : s'.initMap = s.initMap
  sync : { s'.sync with queue := s.sync.queue } = s.sync

omit [Field K] [LinearOrder K] in
lemma OnlyFilter.refl (s : LaserMapping K) : OnlyFilter s s := ⟨rfl, rfl, rfl, rfl, rfl⟩

omit [Field K] [LinearOrder K] in
lemma OnlyFilter.trans {s₁ s₂ s₃ : LaserMapping K} (h₁₂ : OnlyFilter s₁ s₂)
    (h₂₃ : OnlyFilter s₂ s₃) : OnlyFilter s₁ s₃ where
  measures := h₂₃.measures.trans h₁₂.measures
  pImu := h₂₃.pImu.trans h₁₂.pImu
  flgFirstScan := h₂₃.flgFirstScan.trans h₁₂.flgFirstScan
  initMap := h₂₃.initMap.trans h₁₂.initMap
  sync := by
    have h := congrArg (fun sync : Sync K => { sync with queue := s₁.sync.queue }) h₂₃.sync
    exact h.trans h₁₂.sync

omit [Field K] [LinearOrder K] in
lemma OnlyFilter.lastTimestampImu {s s' : LaserMapping K} (h : OnlyFilter s s') :
    s'.sync.lastTimestampImu = s.sync.lastTimestampImu := by
  have hsync := congrArg Sync.lastTimestampImu h.sync
  exact hsync

/-- Telling the messages before a group, and the group. -/
lemma foldl_react_tell (f : Filtering K) (told : List (Input K)) (deque : List (Imu K))
    (g : Group K) :
    (TimedMerge.tell Imu.time Group.time (told, deque) g).1.foldl (Filtering.react p) f
      = ((deque.takeWhile (earlier Imu.time g.time)).foldl Filtering.imuComes
          (told.foldl (Filtering.react p) f)).pointsCome p g.time g.points := by
  rw [TimedMerge.tell, List.foldl_append, List.foldl_append, List.foldl_map]
  rfl

/-- Messages not before a time are left. -/
lemma Queued.not_earlier {s : Sync K} (h : Queued s imus consumed) :
    ∀ m ∈ s.queue.imuDeque.dropWhile (earlier Imu.time t), t ≤ m.time := by
  have hsorted := (h.ledger ▸ h.ascending).sublist (List.sublist_append_right _ _)
  have hrest : ∀ b ∈ [t], ∀ m ∈ (merge Imu.time (fun t : K => t) s.queue.imuDeque [t]).2,
      b ≤ m.time := merge_rest hsorted
  exact hrest t List.mem_cons_self

variable {s : LaserMapping K} {groups : List (Group K)}

/-- The filter runs, if need be it has just been started, and a group is next. -/
lemma Telling.start (himu : p.imuEn = true) (h : Telling p s imus groups) (hne : imus ≠ [])
    (g : Group K) (ht : g.time ≤ s.sync.lastTimestampImu) :
    ∃ s₁ consumed, { s with timeCurrent := g.time }.start p = some s₁ ∧
      OnlyFilter s s₁ ∧ s₁.timeCurrent = g.time ∧ s₁.isFirstFrame = false ∧
      Queued s₁.sync imus consumed ∧ s₁.sync.queue.Aligned ∧
      (∀ m ∈ s₁.sync.queue.imuDeque, s₁.filtering.timePredictLastConst ≤ m.time) ∧
      ∃ first rest later f told, groups ++ [g] = first :: rest ∧
        imus = s.measures.imu ++ later ∧ f.Starts first.time ∧
        s₁.filtering = told.foldl (Filtering.react p) f ∧
        merge Imu.time Group.time (later.dropWhile (earlier Imu.time first.time)) (first :: rest)
          = TimedMerge.tell Imu.time Group.time (told, s₁.sync.queue.imuDeque) g := by
  obtain ⟨consumed, hqueued⟩ := h.queued
  have htold := h.told
  cases groups with
  | nil =>
      obtain ⟨hfirst, hcalls, himus⟩ := htold
      obtain ⟨q, hdrop, hdeque, halign⟩ := h.aligned.dropBefore (hqueued.exists_late hne ht)
      obtain ⟨s₁, hs₁, honly, htime, hfirst₁, hqueue, hlast, hstarts⟩ :
          ∃ s₁, { s with timeCurrent := g.time }.firstFrame p = some s₁ ∧ OnlyFilter s s₁ ∧
            s₁.timeCurrent = g.time ∧ s₁.isFirstFrame = false ∧ s₁.sync.queue = q ∧
            s₁.sync.lastTimestampImu = s.sync.lastTimestampImu ∧
            s₁.filtering.Starts g.time := by
        rw [LaserMapping.firstFrame, if_pos himu]
        simp only [hdrop, Option.map_some]
        exact ⟨_, rfl, ⟨rfl, rfl, rfl, rfl, rfl⟩, rfl, rfl, rfl, rfl, hcalls, rfl, rfl⟩
      rw [LaserMapping.start, if_pos hfirst]
      refine ⟨s₁, _, hs₁, honly, htime, hfirst₁, hqueued.take (hqueue ▸ hdeque) hlast ht,
        hqueue ▸ halign, ?_, g, [], s.sync.queue.imuDeque, s₁.filtering, [], rfl, himus, hstarts,
        rfl, ?_⟩
      · intro m hm
        rw [hstarts.timePredictLastConst]
        rw [hqueue, hdeque] at hm
        exact hqueued.not_earlier m hm
      · rw [hqueue, hdeque]
        rfl
  | cons first rest =>
      obtain ⟨hfirst, later, f, himus, hstarts, hdeque, hfilter⟩ := htold
      rw [LaserMapping.start, if_neg (Bool.eq_false_iff.mp hfirst)]
      refine ⟨_, consumed, rfl, ⟨rfl, rfl, rfl, rfl, rfl⟩, rfl, hfirst, hqueued, h.aligned,
        h.past hfirst, first, rest ++ [g], later, f, _, rfl, himus, hstarts, hfilter, ?_⟩
      show merge _ _ _ (first :: rest ++ [g]) = TimedMerge.tell _ _ (_, s.sync.queue.imuDeque) g
      rw [merge_concat, hdeque]

/-- **The filter is told a group**, and the messages before it. -/
lemma Telling.group (himu : p.imuEn = true) (h : Telling p s imus groups) (hne : imus ≠ [])
    (g : Group K) (ht : g.time ≤ s.sync.lastTimestampImu) :
    ∃ s', s.group p g.time g.points = some s' ∧ OnlyFilter s s' ∧ s'.isFirstFrame = false ∧
      Telling p s' imus (groups ++ [g]) := by
  obtain ⟨s₁, consumed, hstart, honly₁, htime, hfirst₁, hqueued, halign, hpast, first, rest, later,
    f, told, hgroups, himus, hstarts, hfilter, hmerge⟩ := h.start himu hne g ht
  have ht₁ := ht.trans_eq honly₁.lastTimestampImu.symm
  obtain ⟨q, hfeed, hdeque, halign'⟩ := halign.feed (hqueued.exists_late hne ht₁) hpast
  obtain ⟨s', hs', honly', hfirst', hqueue, hfilter'⟩ :
      ∃ s', s.group p g.time g.points = some s' ∧ OnlyFilter s₁ s' ∧
        s'.isFirstFrame = s₁.isFirstFrame ∧ s'.sync.queue = q ∧
        s'.filtering = ((s₁.sync.queue.imuDeque.takeWhile (earlier Imu.time g.time)).foldl
          Filtering.imuComes s₁.filtering).pointsCome p g.time g.points := by
    rw [LaserMapping.group]
    simp only [hstart, Option.bind_eq_bind, Option.bind_some, LaserMapping.feed, if_pos himu,
      htime, hfeed]
    exact ⟨_, rfl, ⟨rfl, rfl, rfl, rfl, rfl⟩, rfl, rfl, rfl⟩
  have honly := honly₁.trans honly'
  have hqueued' : Queued s'.sync imus _ :=
    hqueued.take (hqueue ▸ hdeque) honly'.lastTimestampImu ht₁
  refine ⟨s', hs', honly, hfirst'.trans hfirst₁, ⟨_, hqueued'⟩, hqueue ▸ halign', ?_, ?_, ?_⟩
  · rw [hgroups]
    refine ⟨hfirst'.trans hfirst₁, later, f, honly.measures ▸ himus, hstarts, ?_, ?_⟩
    · rw [hmerge, hqueue]
      exact hdeque
    · rw [hmerge, foldl_react_tell, ← hfilter]
      exact hfilter'
  · rw [honly.lastTimestampImu]
    intro g' hg'
    rcases List.mem_append.mp hg' with hg' | hg'
    · exact h.times g' hg'
    · obtain rfl := List.mem_singleton.mp hg'
      exact ht
  · intro _ m hm
    rw [hqueue, hdeque] at hm
    rw [hfilter']
    exact hqueued.not_earlier m hm

omit [Field K] [LinearOrder K] in
lemma getElem?_append_last {part : List (PointType K)} (h : part ≠ [])
    (rest : List (PointType K)) :
    ∃ last, (part ++ rest)[part.length - 1]? = some last ∧ part.getLast? = some last := by
  have hpos := List.length_pos_iff.mpr h
  refine ⟨part.getLast h, ?_, List.getLast?_eq_some_getLast h⟩
  rw [List.getElem?_append_left (by omega), ← List.getLast?_eq_getElem?]
  exact List.getLast?_eq_some_getLast h

/-- The filter is told the groups of a scan. -/
lemma Telling.scan (himu : p.imuEn = true) (hne : imus ≠ [])
    (parts : List (List (PointType K))) : ∀ {s : LaserMapping K} {groups : List (Group K)},
    Telling p s imus groups → [] ∉ parts →
    (∀ part ∈ parts, (groupAt s.measures.lidarBegTime part).time ≤ s.sync.lastTimestampImu) →
    ∃ s', s.groups p parts.flatten (parts.map List.length) = some s' ∧ OnlyFilter s s' ∧
      Telling p s' imus (groups ++ parts.map (groupAt s.measures.lidarBegTime)) := by
  induction parts with
  | nil =>
      intro s groups h _ _
      exact ⟨s, rfl, .refl s, by rwa [List.map_nil, List.append_nil]⟩
  | cons part parts ih =>
      intro s groups h hnil hle
      obtain ⟨hpart, hparts⟩ := not_or.mp (fun hmem => hnil (List.mem_cons.mpr hmem))
      obtain ⟨hlepart, hleparts⟩ := List.forall_mem_cons.mp hle
      obtain ⟨s₁, hgroup, honly₁, -, h₁⟩ := h.group himu hne _ hlepart
      rw [← honly₁.measures, ← honly₁.lastTimestampImu] at hleparts
      obtain ⟨s₂, hgroups, honly₂, h₂⟩ := ih h₁ hparts hleparts
      refine ⟨s₂, ?_, honly₁.trans honly₂, ?_⟩
      · obtain ⟨last, hlast, hgetLast⟩ := getElem?_append_last (Ne.symm hpart) parts.flatten
        have htime : float64 (float64 (last.curvature / 1000.0) + s.measures.lidarBegTime)
            = (groupAt s.measures.lidarBegTime part).time := by
          rw [groupAt, hgetLast, add_comm]
          rfl
        rw [List.map_cons, List.flatten_cons, LaserMapping.groups, hlast]
        simp only [Option.bind_eq_bind, Option.bind_some, List.take_left, List.drop_left, htime]
        change (s.group p _ (groupAt s.measures.lidarBegTime part).points).bind _ = some s₂
        rw [hgroup]
        exact hgroups
      · rw [honly₁.measures] at h₂
        rwa [List.map_cons, List.append_cons]

/-! ## A scan -/

variable {voxelGrid : VoxelGrid K} {timeSort : TimeSort K} {scan : Scan K}

omit [FloorRing K] in
/-- The filter gets points of a scan, none of them later than all of its cloud. -/
lemma Scan.body_spec (p : Params K) (voxelGrid : VoxelGrid K) (timeSort : TimeSort K)
    (scan : Scan K) : scan.body p voxelGrid timeSort ≠ [] ∧
      ∀ pt ∈ scan.body p voxelGrid timeSort, ∃ q ∈ scan.cloud, pt.curvature ≤ q.curvature := by
  have hperm := timeSort.perm
    (if p.spaceDownSample then voxelGrid.filter scan.cloud else scan.cloud)
  refine ⟨fun hnil => ?_, fun pt hpt => ?_⟩
  · rw [Scan.body] at hnil
    rw [hnil] at hperm
    have hempty := hperm.nil_eq
    split_ifs at hempty
    · exact voxelGrid.ne_nil _ scan.ne_nil hempty.symm
    · exact scan.ne_nil hempty.symm
  · have hmem := hperm.subset hpt
    split_ifs at hmem
    · exact voxelGrid.le_curvature _ pt hmem
    · exact ⟨pt, hmem, le_rfl⟩

omit [Field K] in
lemma nil_notMem_timeGroups (points : List (PointType K)) : [] ∉ timeGroups points :=
  List.nil_notMem_splitBy _ _

omit [Field K] in
lemma flatten_timeGroups (points : List (PointType K)) : (timeGroups points).flatten = points :=
  List.flatten_splitBy _ _

lemma groupAt_time (begTime : K) {part : List (PointType K)} (h : part ≠ []) :
    (groupAt begTime part).time = pointTime begTime (part.getLast h).curvature := by
  rw [groupAt, List.getLast?_eq_some_getLast h]
  rfl

/-- The time of a group is that of one of its points. -/
lemma exists_groupAt_time (begTime : K) {points part : List (PointType K)}
    (h : part ∈ timeGroups points) :
    ∃ pt ∈ points, (groupAt begTime part).time = pointTime begTime pt.curvature := by
  have hne : part ≠ [] := fun hnil => nil_notMem_timeGroups points (hnil ▸ h)
  refine ⟨part.getLast hne, ?_, groupAt_time begTime hne⟩
  rw [← flatten_timeGroups points]
  exact List.mem_flatten.mpr ⟨part, h, List.getLast_mem hne⟩

/-- No group is later than the end of its scan. -/
lemma Scan.groupAt_le [IsStrictOrderedRing K] (p : Params K) (voxelGrid : VoxelGrid K)
    (timeSort : TimeSort K) (scan : Scan K) :
    ∀ part ∈ timeGroups (scan.body p voxelGrid timeSort),
      (groupAt scan.begTime part).time ≤ scan.endTime := by
  intro part hpart
  obtain ⟨pt, hpt, htime⟩ := exists_groupAt_time scan.begTime hpart
  rw [htime]
  exact scan.le_endTime ((scan.body_spec p voxelGrid timeSort).2 pt hpt)

/-- For the first scan nothing is taken from the queue. -/
lemma Telling.firstScan (himu : p.imuEn = true) (h : Telling p s imus groups) (hne : imus ≠ [])
    (hbeg : s.measures.lidarBegTime ≤ s.sync.lastTimestampImu)
    (hlate : s.flgFirstScan = true →
      ∀ m ∈ s.sync.queue.imuDeque, s.measures.lidarBegTime ≤ m.time) :
    ∃ s', s.firstScan p = some s' ∧ Telling p s' imus groups ∧ s'.flgFirstScan = false ∧
      s'.measures = s.measures ∧ s'.pImu = s.pImu ∧ s'.initMap = s.initMap ∧
      s'.isFirstFrame = s.isFirstFrame ∧ { s'.sync with queue := s.sync.queue } = s.sync := by
  rw [LaserMapping.firstScan]
  cases hfirst : s.flgFirstScan with
  | false => exact ⟨s, rfl, h, hfirst, rfl, rfl, rfl, rfl, rfl⟩
  | true =>
      obtain ⟨consumed, hqueued⟩ := h.queued
      obtain ⟨q, hdrop, hdeque, halign⟩ := h.aligned.dropBefore (hqueued.exists_late hne hbeg)
      have hnone : s.sync.queue.imuDeque.dropWhile (earlier Imu.time s.measures.lidarBegTime)
          = s.sync.queue.imuDeque := by
        rw [List.dropWhile_eq_self_iff]
        intro hpos
        have hle := hlate hfirst _ (List.getElem_mem hpos)
        simpa [earlier] using hle
      rw [hnone] at hdeque
      simp only [if_true, if_pos himu, hdrop, Option.map_some]
      refine ⟨_, rfl, ⟨⟨consumed, ?_⟩, halign, h.told.congr rfl rfl rfl hdeque, h.times, ?_⟩,
        rfl, rfl, rfl, rfl, rfl, rfl⟩
      · exact ⟨hdeque ▸ hqueued.ledger, hqueued.ascending, hqueued.bounded,
          hdeque ▸ hqueued.newest⟩
      · exact fun hframe => hdeque ▸ h.past hframe

omit [LinearOrder K] in
/-- The initialisation of the IMU goes on, or the scan is handed on. -/
lemma ImuProcess.process_spec (s : ImuProcess K) (meas : MeasureGroup K)
    (hinit : s.imuNeedInit = true → s.afterImuInit = false)
    (himu : s.imuNeedInit = false → meas.imu ≠ []) :
    (s.imuNeedInit = true ∧ (s.process true meas).1.imuNeedInit = true ∧
        (s.process true meas).1.afterImuInit = false) ∨
      ((s.process true meas).1.imuNeedInit = false ∧
        (s.process true meas).2 = some meas.lidar ∧ meas.imu ≠ []) := by
  have hadd : ∀ (imu : List (Imu K)) (s : ImuProcess K),
      (imu.foldl ImuProcess.add s).afterImuInit = s.afterImuInit := by
    intro imu
    induction imu with
    | nil => exact fun _ => rfl
    | cons msg imu ih => exact fun s => (ih _).trans rfl
  rw [ImuProcess.process, if_pos rfl]
  cases hmeas : meas.imu with
  | nil =>
      have hneed : s.imuNeedInit = true := by
        by_contra hneed
        exact himu (Bool.eq_false_iff.mpr hneed) hmeas
      exact .inl ⟨hneed, hneed, hinit hneed⟩
  | cons front imu =>
      cases hneed : s.imuNeedInit with
      | false => exact .inr ⟨rfl, rfl, List.cons_ne_nil _ _⟩
      | true =>
          have hafter : (s.imuInit front (front :: imu)).afterImuInit = false := by
            rw [ImuProcess.imuInit, hadd]
            cases s.bFirstFrame with
            | true => rfl
            | false => exact hinit hneed
          simp only [if_true]
          split_ifs
          · exact .inr ⟨rfl, rfl, List.cons_ne_nil _ _⟩
          · exact .inl ⟨trivial, rfl, hafter⟩

/-! ## A run -/

/-- How far the program has come. -/
structure Phases (s : LaserMapping K) : Prop where
  first : s.flgFirstScan = true → s.pImu.imuNeedInit = true
  init : s.pImu.imuNeedInit = true → s.isFirstFrame = true ∧ s.pImu.afterImuInit = false
  imu : s.pImu.imuNeedInit = false → s.measures.imu ≠ []
  map : s.initMap = false → s.isFirstFrame = true

/-- What holds between the reactions: after some scans that have gone into the initialisation, the
filter has been told others and the rest waits. -/
structure Sound (p : Params K) (voxelGrid : VoxelGrid K) (timeSort : TimeSort K)
    (s : LaserMapping K) (imus : List (Imu K)) (late waiting : List (Scan K)) : Prop where
  queued : ∃ consumed, Queued s.sync imus consumed
  aligned : s.flgFirstScan = false → s.sync.queue.Aligned
  waiting : Waiting s.sync s.measures waiting
  told : Told p s imus (late.flatMap (Scan.groups p voxelGrid timeSort))
  times : ∀ g ∈ late.flatMap (Scan.groups p voxelGrid timeSort), g.time ≤ s.sync.lastTimestampImu
  past : s.isFirstFrame = false →
    ∀ m ∈ s.sync.queue.imuDeque, s.filtering.timePredictLastConst ≤ m.time
  frame : s.isFirstFrame = true → late = []
  phases : Phases s

/-- A scan is at hand, and a message that is not older. -/
structure AtHand (p : Params K) (voxelGrid : VoxelGrid K) (timeSort : TimeSort K)
    (s : LaserMapping K) (imus : List (Imu K)) (late waiting : List (Scan K)) (scan : Scan K) :
    Prop where
  telling : Telling p s imus (late.flatMap (Scan.groups p voxelGrid timeSort))
  received : imus ≠ []
  waiting : Waiting s.sync s.measures waiting
  lidar : s.measures.lidar = scan.cloud
  begTime : s.measures.lidarBegTime = scan.begTime
  endTime : scan.endTime ≤ s.sync.lastTimestampImu
  unread : s.flgFirstScan = true → ∀ m ∈ s.sync.queue.imuDeque, scan.begTime ≤ m.time
  frame : s.isFirstFrame = true → late = []
  phases : Phases s

variable {late waiting : List (Scan K)}

omit [Field K] [LinearOrder K] in
lemma Phases.congr {s s' : LaserMapping K} (h : Phases s)
    (hfirst : s'.flgFirstScan = true → s.flgFirstScan = true) (hpImu : s'.pImu = s.pImu)
    (hmeas : s'.measures = s.measures) (hframe : s'.isFirstFrame = s.isFirstFrame)
    (hmap : s'.initMap = s.initMap) : Phases s' where
  first hs := hpImu ▸ h.first (hfirst hs)
  init := by
    rw [hpImu, hframe]
    exact h.init
  imu := by
    rw [hpImu, hmeas]
    exact h.imu
  map := by
    rw [hmap, hframe]
    exact h.map

omit [LinearOrder K] in
/-- The initialisation of the IMU goes on, or the scan is handed on. -/
lemma Phases.undistort (himu : p.imuEn = true) (h : Phases s) :
    (s.pImu.imuNeedInit = true ∧ (s.undistort p).pImu.imuNeedInit = true ∧
        (s.undistort p).pImu.afterImuInit = false) ∨
      ((s.undistort p).pImu.imuNeedInit = false ∧
        (s.undistort p).featsUndistort = s.measures.lidar ∧ s.measures.imu ≠ []) := by
  have hspec := s.pImu.process_spec s.measures (fun hs => (h.init hs).2) h.imu
  rw [LaserMapping.undistort, himu]
  rcases hspec with hspec | ⟨hneed, hcloud, hmeas⟩
  · exact .inl hspec
  · refine .inr ⟨hneed, ?_, hmeas⟩
    show Option.getD (s.pImu.process true s.measures).2 s.featsUndistort = s.measures.lidar
    rw [hcloud, Option.getD_some]

lemma Told.isFirstFrame (h : Told p s imus groups) (hne : groups ≠ []) :
    s.isFirstFrame = false := by
  cases groups with
  | nil => exact absurd rfl hne
  | cons first rest => exact h.1

/-- A scan goes through `p_imu`, with the same measures; the buffers get nothing new. -/
structure Processed (p : Params K) (s s' : LaserMapping K) : Prop where
  lastLidar : s'.sync.lastTimestampLidar = s.sync.lastTimestampLidar
  lastImu : s'.sync.lastTimestampImu = s.sync.lastTimestampImu
  measures : s'.measures = s.measures
  pImu : s'.pImu = (s.undistort p).pImu

/-- The first scan is not treated differently. -/
lemma AtHand.firstScan [IsStrictOrderedRing K] (himu : p.imuEn = true)
    (h : AtHand p voxelGrid timeSort s imus late waiting scan) :
    ∃ s', s.firstScan p = some s' ∧ AtHand p voxelGrid timeSort s' imus late waiting scan ∧
      s'.flgFirstScan = false ∧ Processed p s (s'.undistort p) := by
  have hbeg := scan.begTime_le.trans h.endTime
  obtain ⟨s', hs', htelling, hflg, hmeas, hpImu, hmap, hframe, hsync⟩ :=
    h.telling.firstScan himu h.received (h.begTime ▸ hbeg) (h.begTime ▸ h.unread)
  have hlidar := congrArg Sync.lastTimestampLidar hsync
  have himulast := congrArg Sync.lastTimestampImu hsync
  refine ⟨s', hs', ⟨htelling, h.received, hmeas ▸ h.waiting.congr hsync, hmeas ▸ h.lidar,
    hmeas ▸ h.begTime, ?_, ?_, ?_, ?_⟩, hflg, hlidar, himulast, hmeas, ?_⟩
  · exact h.endTime.trans_eq himulast.symm
  · exact fun hs => absurd (hflg.symm.trans hs) Bool.noConfusion
  · exact fun hs => h.frame (hframe.symm.trans hs)
  · exact h.phases.congr (fun hs => absurd (hflg.symm.trans hs) Bool.noConfusion) hpImu hmeas
      hframe hmap
  · rw [LaserMapping.undistort, LaserMapping.undistort, hpImu, hmeas]

/-- A scan that goes into the initialisation does not get to the filter. -/
lemma AtHand.sound_init {s' : LaserMapping K}
    (h : AtHand p voxelGrid timeSort s imus late waiting scan) (hframe : s.isFirstFrame = true)
    (hsync : s'.sync = s.sync) (hmeas : s'.measures = s.measures)
    (hframe' : s'.isFirstFrame = s.isFirstFrame) (hfilter : s'.filtering = s.filtering)
    (hphases : Phases s') : Sound p voxelGrid timeSort s' imus [] waiting := by
  have htold := h.telling.told
  rw [h.frame hframe] at htold
  refine ⟨hsync ▸ h.telling.queued, fun _ => hsync ▸ h.telling.aligned, ?_,
    htold.congr hframe' hfilter (congrArg _ hmeas) (congrArg (fun s => s.queue.imuDeque) hsync),
    fun _ hg => absurd hg List.not_mem_nil, fun hs => ?_, fun _ => rfl, hphases⟩
  · rw [hsync, hmeas]
    exact h.waiting
  · exact absurd ((hframe'.trans hframe).symm.trans hs) Bool.noConfusion

/-- A scan that gets to the filter: it is told its groups. -/
lemma AtHand.sound_groups [IsStrictOrderedRing K] (himu : p.imuEn = true)
    (h : AtHand p voxelGrid timeSort s imus late waiting scan) (hflg : s.flgFirstScan = false)
    (hneed : (s.undistort p).pImu.imuNeedInit = false) (hmeas : s.measures.imu ≠ [])
    (hmap : s.initMap = true) :
    ∃ s', (s.undistort p).groups p (scan.body p voxelGrid timeSort)
        (timeCompressing (scan.body p voxelGrid timeSort)) = some s' ∧
      OnlyFilter (s.undistort p) s' ∧
      Sound p voxelGrid timeSort s' imus (late ++ [scan]) waiting := by
  have hbody := (scan.body_spec p voxelGrid timeSort).1
  have htelling : Telling p (s.undistort p) imus
      (late.flatMap (Scan.groups p voxelGrid timeSort)) :=
    ⟨h.telling.queued, h.telling.aligned, h.telling.told.congr rfl rfl rfl rfl, h.telling.times,
      h.telling.past⟩
  have htimes : ∀ part ∈ timeGroups (scan.body p voxelGrid timeSort),
      (groupAt s.measures.lidarBegTime part).time ≤ s.sync.lastTimestampImu := by
    intro part hpart
    rw [h.begTime]
    exact (scan.groupAt_le p voxelGrid timeSort part hpart).trans h.endTime
  obtain ⟨s', hs', honly, h'⟩ := htelling.scan himu h.received _ (nil_notMem_timeGroups _) htimes
  rw [flatten_timeGroups, ← timeCompressing_eq hbody] at hs'
  have hgroups : late.flatMap (Scan.groups p voxelGrid timeSort) ++
      (timeGroups (scan.body p voxelGrid timeSort)).map (groupAt scan.begTime)
      = (late ++ [scan]).flatMap (Scan.groups p voxelGrid timeSort) := by
    rw [List.flatMap_append, List.flatMap_singleton]
    rfl
  rw [show (s.undistort p).measures.lidarBegTime = scan.begTime from h.begTime, hgroups] at h'
  have hne : (late ++ [scan]).flatMap (Scan.groups p voxelGrid timeSort) ≠ [] := by
    rw [← hgroups]
    refine List.append_ne_nil_of_right_ne_nil _ fun hnil => ?_
    exact List.splitBy_ne_nil.mpr hbody (List.map_eq_nil_iff.mp hnil)
  have hframe := h'.told.isFirstFrame hne
  refine ⟨s', hs', honly, h'.queued, fun _ => h'.aligned, ?_, h'.told, h'.times, h'.past,
    fun hs => absurd (hframe.symm.trans hs) Bool.noConfusion,
    ⟨fun hs => ?_, fun hs => ?_, fun _ => ?_, fun hs => ?_⟩⟩
  · rw [honly.measures]
    exact h.waiting.congr honly.sync
  · exact absurd ((honly.flgFirstScan.trans hflg).symm.trans hs) Bool.noConfusion
  · rw [honly.pImu] at hs
    exact absurd (hneed.symm.trans hs) Bool.noConfusion
  · rw [honly.measures]
    exact hmeas
  · exact absurd ((honly.initMap.trans hmap).symm.trans hs) Bool.noConfusion

/-- **A scan that is at hand is processed**: it goes into the initialisation, or to the filter. -/
lemma AtHand.process [IsStrictOrderedRing K] (himu : p.imuEn = true)
    (h : AtHand p voxelGrid timeSort s imus late waiting scan) :
    ∃ s', s.process p voxelGrid timeSort = some s' ∧ Processed p s s' ∧
      (late = [] ∧ Sound p voxelGrid timeSort s' imus [] waiting ∨
        Sound p voxelGrid timeSort s' imus (late ++ [scan]) waiting) := by
  obtain ⟨s₁, hs₁, h₁, hflg, hsame⟩ := h.firstScan himu
  rw [LaserMapping.process, hs₁]
  simp only [Option.bind_some]
  rcases h₁.phases.undistort himu with ⟨hneed, hneed', hafter⟩ | ⟨hneed, hcloud, hmeas⟩
  · -- the IMU is not ready
    have hframe := (h₁.phases.init hneed).1
    rw [if_pos ⟨hafter, hneed'⟩]
    refine ⟨_, rfl, hsame, .inl ⟨h₁.frame hframe, h₁.sound_init hframe rfl rfl rfl rfl
      ⟨fun _ => hneed', fun _ => ⟨hframe, hafter⟩, fun hs => ?_, h₁.phases.map⟩⟩⟩
    exact absurd (hneed'.symm.trans hs) Bool.noConfusion
  · have hready : ¬((s₁.undistort p).pImu.afterImuInit = false ∧
        (s₁.undistort p).pImu.imuNeedInit = true) := by
      rw [hneed]
      exact fun hs => Bool.noConfusion hs.2
    have hen : ¬((s₁.undistort p).pImu.afterImuInit = false ∧ p.imuEn = false) := by
      rw [himu]
      exact fun hs => Bool.noConfusion hs.2
    rw [if_neg hready, if_neg hen]
    cases hmap : s₁.initMap with
    | false =>
        -- the map is not ready
        have hframe := h₁.phases.map hmap
        have hinit : ∀ b, Phases { s₁.undistort p with initMap := b } := fun _ =>
          ⟨fun hs => absurd (hflg.symm.trans hs) Bool.noConfusion,
            fun hs => absurd (hneed.symm.trans hs) Bool.noConfusion, fun _ => hmeas,
            fun _ => hframe⟩
        rw [if_pos (show (s₁.undistort p).initMap = false from hmap), LaserMapping.initializeMap]
        refine ⟨_, rfl, ?_, .inl ⟨h₁.frame hframe, ?_⟩⟩
        · split_ifs <;> exact ⟨hsame.lastLidar, hsame.lastImu, hsame.measures, hsame.pImu⟩
        · split_ifs
          · exact h₁.sound_init hframe rfl rfl rfl rfl ((hinit true).congr id rfl rfl rfl rfl)
          · exact h₁.sound_init hframe rfl rfl rfl rfl
              ((hinit s₁.initMap).congr id rfl rfl rfl rfl)
    | true =>
        obtain ⟨s₂, hs₂, honly, hsound⟩ := h₁.sound_groups himu hflg hneed hmeas hmap
        have hbody : timeSort.sort (if p.spaceDownSample then
            voxelGrid.filter (s₁.undistort p).featsUndistort else (s₁.undistort p).measures.lidar)
            = scan.body p voxelGrid timeSort := by
          rw [hcloud, Scan.body, ← h₁.lidar]
          rfl
        have hmap' : ¬ (s₁.undistort p).initMap = false := fun hs =>
          absurd (hmap.symm.trans hs) Bool.noConfusion
        rw [if_neg hmap', hbody]
        exact ⟨s₂, hs₂, ⟨(congrArg Sync.lastTimestampLidar honly.sync).trans hsame.lastLidar,
          honly.lastTimestampImu.trans hsame.lastImu, honly.measures.trans hsame.measures,
          honly.pImu.trans hsame.pImu⟩, .inr hsound⟩

/-! ## The reactions -/

variable [IsStrictOrderedRing K]

omit [IsStrictOrderedRing K] in
lemma sound_init (p : Params K) (voxelGrid : VoxelGrid K) (timeSort : TimeSort K) :
    Sound p voxelGrid timeSort LaserMapping.init [] [] [] where
  queued := ⟨[], rfl, List.Pairwise.nil, fun _ h => absurd h List.not_mem_nil,
    fun h => absurd rfl h⟩
  aligned h := Bool.noConfusion h
  waiting := ⟨rfl, rfl, rfl, fun h => Bool.noConfusion h⟩
  told := ⟨rfl, rfl, rfl⟩
  times _ h := absurd h List.not_mem_nil
  past h := Bool.noConfusion h
  frame _ := rfl
  phases := ⟨fun _ => rfl, fun _ => ⟨rfl, rfl⟩, fun h => Bool.noConfusion h, fun _ => rfl⟩

/-- A scan comes. -/
lemma Sound.lidar (hcon : p.conFrame = false) (h : Sound p voxelGrid timeSort s imus late waiting)
    (msg : CustomMsg K) :
    ∃ s', s.step p voxelGrid timeSort (.lidar msg) = some s' ∧
      s'.sync.lastTimestampLidar
        = max s.sync.lastTimestampLidar (getTimeSec msg.header.stamp) ∧
      s'.sync.lastTimestampImu = s.sync.lastTimestampImu ∧
      Sound p voxelGrid timeSort s' imus late
        (waiting ++ msg.scan p s.sync.lastTimestampLidar) := by
  obtain ⟨hwaiting, hlidar, hqueue, himu⟩ := h.waiting.livoxPclCbk hcon msg
  obtain ⟨consumed, hqueued⟩ := h.queued
  refine ⟨_, rfl, hlidar, himu, ⟨consumed, ?_⟩, fun hs => ?_, hwaiting, ?_, ?_, fun hs => ?_,
    h.frame, h.phases.congr id rfl rfl rfl rfl⟩
  · exact ⟨hqueue ▸ hqueued.ledger, hqueued.ascending, himu ▸ hqueued.bounded,
      fun hne => by rw [himu, hqueue]; exact hqueued.newest hne⟩
  · exact hqueue ▸ h.aligned hs
  · exact h.told.congr rfl rfl rfl (congrArg ImuQueue.imuDeque hqueue)
  · exact himu ▸ h.times
  · exact hqueue ▸ h.past hs

omit [IsStrictOrderedRing K] in
/-- An IMU message comes. -/
lemma Sound.imuCbk (h : Sound p voxelGrid timeSort s imus late waiting) (msg : Imu K) :
    ∃ s', s.step p voxelGrid timeSort (.imu msg) = some s' ∧
      s'.sync.lastTimestampLidar = s.sync.lastTimestampLidar ∧
      s'.sync.lastTimestampImu = max s.sync.lastTimestampImu msg.restamped.time ∧
      Sound p voxelGrid timeSort s' (imus ++ msg.taken s.sync.lastTimestampImu) late waiting := by
  obtain ⟨consumed, hqueued⟩ := h.queued
  have hqueued' := hqueued.imuCbk msg
  rw [LaserMapping.step]
  rw [Sync.imuCbk_eq] at hqueued' ⊢
  have hlate : ∀ t ≤ s.sync.lastTimestampImu, ∀ m ∈ msg.taken s.sync.lastTimestampImu,
      t ≤ m.time := fun t ht m hm => ht.trans (Imu.le_of_mem_taken hm).1
  refine ⟨_, rfl, rfl, rfl, ⟨consumed, hqueued'⟩, fun hs => ?_,
    ⟨h.waiting.lidar, h.waiting.time, h.waiting.imuPushed, h.waiting.pushed⟩,
    h.told.arrive rfl rfl rfl rfl fun g hg => hlate _ (h.times g hg),
    fun g hg => (h.times g hg).trans (le_max_left _ _), fun hs m hm => ?_, h.frame,
    h.phases.congr id rfl rfl rfl rfl⟩
  · have halign := h.aligned hs
    rw [ImuQueue.Aligned] at halign ⊢
    rw [List.head?_append, halign, Option.some_or]
  · rcases List.mem_append.mp hm with hm | hm
    · exact h.past hs m hm
    · -- the first message of the deque lies between
      have hflg : s.flgFirstScan = false := by
        by_contra hflg
        have hinit := h.phases.init (h.phases.first (Bool.eq_true_of_not_eq_false hflg))
        exact absurd (hinit.1.symm.trans hs) Bool.noConfusion
      have hnext := List.mem_of_mem_head? (h.aligned hflg)
      have hmem : s.sync.queue.imuNext ∈ imus := by
        rw [hqueued.ledger]
        exact List.mem_append_right _ hnext
      exact hlate _ ((h.past hs _ hnext).trans (hqueued.bounded _ hmem)) m hm

/-- A scan that is handed out is at hand. -/
lemma Sound.atHand (h : Sound p voxelGrid timeSort s imus late (scan :: waiting))
    {sync : Sync K} {measures : MeasureGroup K}
    (hwaiting : Waiting sync measures waiting) (hne : imus ≠ [])
    (hlast : sync.lastTimestampImu = s.sync.lastTimestampImu)
    (hhanded : Handed s.pImu.imuNeedInit s.sync sync s.measures measures scan) :
    AtHand p voxelGrid timeSort { s with sync := sync, measures := measures } imus late waiting
      scan := by
  obtain ⟨consumed, hqueued⟩ := h.queued
  cases hinit : s.pImu.imuNeedInit with
  | true =>
      obtain ⟨himu, hdeque, halign⟩ := hhanded.moved hinit
      obtain ⟨hframe, hafter⟩ := h.phases.init hinit
      have hnone := h.frame hframe
      subst hnone
      have htold : Told p s imus [] := h.told
      have hpast := hdeque ▸ hqueued.not_earlier (t := scan.endTime)
      refine ⟨⟨⟨_, hqueued.take hdeque hlast hhanded.received⟩, halign, ?_,
        fun _ hg => absurd hg List.not_mem_nil, fun hs => ?_⟩, hne, hwaiting, hhanded.lidar,
        hhanded.begTime, hlast ▸ hhanded.received,
        fun _ m hm => scan.begTime_le.trans (hpast m hm), fun _ => rfl, ?_⟩
      · refine ⟨hframe, htold.2.1, ?_⟩
        show imus = measures.imu ++ sync.queue.imuDeque
        rw [himu, hdeque, List.append_assoc, List.takeWhile_append_dropWhile]
        exact htold.2.2
      · exact absurd (hframe.symm.trans hs) Bool.noConfusion
      · exact ⟨fun _ => hinit, fun _ => ⟨hframe, hafter⟩,
          fun hs => absurd (hinit.symm.trans hs) Bool.noConfusion, h.phases.map⟩
  | false =>
      obtain ⟨himu, hqueue⟩ := hhanded.kept hinit
      have hflg : s.flgFirstScan = false := by
        by_contra hflg
        have hinit' := h.phases.first (Bool.eq_true_of_not_eq_false hflg)
        exact absurd (hinit'.symm.trans hinit) Bool.noConfusion
      refine ⟨⟨⟨consumed, ?_⟩, ?_, h.told.congr rfl rfl himu (congrArg _ hqueue), ?_, ?_⟩, hne,
        hwaiting, hhanded.lidar, hhanded.begTime, hlast ▸ hhanded.received, ?_, h.frame, ?_⟩
      · exact ⟨hqueue ▸ hqueued.ledger, hqueued.ascending, hlast ▸ hqueued.bounded,
          fun hne => by
            show ∃ m ∈ sync.queue.imuDeque, m.time = sync.lastTimestampImu
            rw [hqueue, hlast]
            exact hqueued.newest hne⟩
      · exact hqueue ▸ h.aligned hflg
      · exact hlast ▸ h.times
      · exact hqueue ▸ h.past
      · exact fun hs => absurd (hflg.symm.trans hs) Bool.noConfusion
      · exact ⟨h.phases.first, h.phases.init, fun hs => himu ▸ h.phases.imu hs, h.phases.map⟩

/-- The loop goes on: a scan is processed, or none. -/
lemma Sound.loop (himu : p.imuEn = true)
    (h : Sound p voxelGrid timeSort s imus late waiting) :
    ∃ s' gone late' waiting', s.step p voxelGrid timeSort .loop = some s' ∧
      s'.sync.lastTimestampLidar = s.sync.lastTimestampLidar ∧
      s'.sync.lastTimestampImu = s.sync.lastTimestampImu ∧
      Sound p voxelGrid timeSort s' imus late' waiting' ∧
      gone ++ late' ++ waiting' = late ++ waiting ∧
      (s'.pImu = s.pImu ∨ s'.pImu = (s.pImu.process true s'.measures).1) := by
  obtain ⟨consumed, hqueued⟩ := h.queued
  obtain ⟨ready, sync, measures, hsync, himulast, hlidarlast, hcases⟩ :=
    h.waiting.syncPackages himu hqueued s.pImu.imuNeedInit
  rw [LaserMapping.step]
  simp only [hsync, Option.bind_eq_bind, Option.bind_some]
  rcases hcases with ⟨rfl, hwaiting, hqueue, hmeas⟩ | ⟨rfl, hne, scan, rest, rfl, hwaiting, hhanded⟩
  · refine ⟨_, [], late, waiting, rfl, hlidarlast, himulast, ⟨⟨consumed, ?_⟩, ?_, hwaiting,
      h.told.congr rfl rfl hmeas (congrArg _ hqueue), himulast ▸ h.times, hqueue ▸ h.past,
      h.frame, h.phases.first, h.phases.init, fun hs => hmeas ▸ h.phases.imu hs, h.phases.map⟩,
      rfl, .inl rfl⟩
    · exact ⟨hqueue ▸ hqueued.ledger, hqueued.ascending, himulast ▸ hqueued.bounded,
        fun hne => by
          show ∃ m ∈ sync.queue.imuDeque, m.time = sync.lastTimestampImu
          rw [hqueue, himulast]
          exact hqueued.newest hne⟩
    · exact hqueue ▸ h.aligned
  · obtain ⟨s', hs', hsame, hsound⟩ := (h.atHand hwaiting hne himulast hhanded).process himu
    have hlidar := hsame.lastLidar.trans hlidarlast
    have himu' := hsame.lastImu.trans himulast
    have hpImu : s'.pImu = (s.pImu.process true s'.measures).1 := by
      rw [hsame.measures, hsame.pImu, LaserMapping.undistort, himu]
    rcases hsound with ⟨rfl, hsound⟩ | hsound
    · exact ⟨s', [scan], [], rest, hs', hlidar, himu', hsound, rfl, .inr hpImu⟩
    · refine ⟨s', [], late ++ [scan], rest, hs', hlidar, himu', hsound, ?_, .inr hpImu⟩
      rw [List.nil_append, List.append_assoc]
      rfl

/-- One reaction. -/
lemma Sound.step (himu : p.imuEn = true) (hcon : p.conFrame = false)
    (h : Sound p voxelGrid timeSort s imus late waiting) (action : Action K) :
    ∃ s' gone late' waiting', s.step p voxelGrid timeSort action = some s' ∧
      s'.sync.lastTimestampLidar = action.lastLidar s.sync.lastTimestampLidar ∧
      s'.sync.lastTimestampImu = action.lastImu s.sync.lastTimestampImu ∧
      Sound p voxelGrid timeSort s' (imus ++ action.imus s.sync.lastTimestampImu) late' waiting' ∧
      gone ++ late' ++ waiting'
        = late ++ waiting ++ action.scan p s.sync.lastTimestampLidar ∧
      (s'.pImu = s.pImu ∨ s'.pImu = (s.pImu.process true s'.measures).1) := by
  cases action with
  | lidar msg =>
      obtain ⟨s', hs', hlidar, himulast, h'⟩ := h.lidar hcon msg
      refine ⟨s', [], late, waiting ++ msg.scan p s.sync.lastTimestampLidar, hs', hlidar, himulast,
        ?_, (List.append_assoc ..).symm, .inl ?_⟩
      · show Sound p voxelGrid timeSort s' (imus ++ []) late _
        rwa [List.append_nil]
      · obtain rfl := Option.some.inj hs'
        rfl
  | imu msg =>
      obtain ⟨s', hs', hlidar, himulast, h'⟩ := h.imuCbk msg
      refine ⟨s', [], late, waiting, hs', hlidar, himulast, h', (List.append_nil _).symm, .inl ?_⟩
      obtain rfl := Option.some.inj hs'
      rfl
  | loop =>
      obtain ⟨s', gone, late', waiting', hs', hlidar, himulast, h', hscans, hpImu⟩ := h.loop himu
      refine ⟨s', gone, late', waiting', hs', hlidar, himulast, ?_,
        hscans.trans (List.append_nil _).symm, hpImu⟩
      show Sound p voxelGrid timeSort s' (imus ++ []) late' waiting'
      rwa [List.append_nil]

/-- All reactions. -/
lemma Sound.run (himu : p.imuEn = true) (hcon : p.conFrame = false) (actions : List (Action K)) :
    ∀ {s : LaserMapping K} {imus : List (Imu K)} {late waiting : List (Scan K)},
      Sound p voxelGrid timeSort s imus late waiting →
      ∃ s' gone late' waiting', s.run p voxelGrid timeSort actions = some s' ∧
        Sound p voxelGrid timeSort s'
          (imus ++ imusReceived s.sync.lastTimestampImu actions) late' waiting' ∧
        gone ++ late' ++ waiting'
          = late ++ waiting ++ scansReceived p s.sync.lastTimestampLidar actions := by
  induction actions with
  | nil =>
      intro s imus late waiting h
      refine ⟨s, [], late, waiting, rfl, ?_, ?_⟩
      · rwa [imusReceived, List.append_nil]
      · rw [scansReceived, List.append_nil, List.nil_append]
  | cons action actions ih =>
      intro s imus late waiting h
      obtain ⟨s₁, gone₁, late₁, waiting₁, hs₁, hlidar, himulast, h₁, heq₁, -⟩ :=
        h.step himu hcon action
      obtain ⟨s₂, gone₂, late₂, waiting₂, hs₂, h₂, heq₂⟩ := ih h₁
      refine ⟨s₂, gone₁ ++ gone₂, late₂, waiting₂, ?_, ?_, ?_⟩
      · rw [LaserMapping.run, List.foldlM_cons, hs₁]
        exact hs₂
      · rw [himulast, List.append_assoc] at h₂
        exact h₂
      · calc gone₁ ++ gone₂ ++ late₂ ++ waiting₂
            = gone₁ ++ (gone₂ ++ late₂ ++ waiting₂) := by simp only [List.append_assoc]
          _ = gone₁ ++ late₁ ++ waiting₁ ++ scansReceived p s₁.sync.lastTimestampLidar actions := by
              rw [heq₂]
              simp only [List.append_assoc]
          _ = late ++ waiting ++ scansReceived p s.sync.lastTimestampLidar (action :: actions) := by
              rw [heq₁, hlidar, scansReceived, List.append_assoc]

/-- The shipped parameters, but that one scan makes the initial map. -/
def sampleParams : Params ℚ where
  imuEn := true
  conFrame := false
  lidarTimeInte := 0.1
  spaceDownSample := true
  propAtFreqOfImu := true
  initMapSize := 1
  blind := 0.5
  detRange := 100.0
  pointFilterNum := 1
  nScans := 4

/-- A scan with one point, a millisecond after its begin, and a message that is late enough. -/
def sampleScan (stamp : ℤ) : List (Action ℚ) :=
  [.lidar ⟨⟨stamp, "livox_frame"⟩, [⟨0, 1, 0, 0, 10, 0, 0⟩, ⟨1000000, 1, 0, 0, 10, 0, 0⟩]⟩,
    .imu ⟨⟨stamp + 1500000, "livox_frame"⟩, ⟨0, 0, 0⟩, ⟨0, 0, 1⟩⟩, .loop]

/-- A hundred messages and five scans: one for the initialisation and four for the filter. -/
def sampleActions : List (Action ℚ) :=
  List.replicate 100 (.imu ⟨⟨1700000000000000000, "livox_frame"⟩, ⟨0, 0, 0⟩, ⟨0, 0, 1⟩⟩) ++
    [1, 3, 5, 7, 9].flatMap fun ms => sampleScan (1700000000000000000 + ms * 1000000)

end SentryNav.PointLio
