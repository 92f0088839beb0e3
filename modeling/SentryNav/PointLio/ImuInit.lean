import SentryNav.PointLio.FilterInputs

/-!
# What the IMU initialisation averages

`IMU_init` goes through all of `meas.imu` for every scan, and `meas.imu` is never cleared.  So the
means are not those of the messages received: each message counts once for every scan of the
initialisation that it was there for.  `mean_of_shown` says so for all runs, and when the
initialisation ends.  The means are computed without rounding.
-/

namespace SentryNav.PointLio

variable {K : Type*} [Field K] [LinearOrder K] [IsStrictOrderedRing K]

/-- The average of a quantity of some messages. -/
def average (f : Imu K → Vector3 K) (imus : List (Imu K)) : Vector3 K :=
  ⟨(imus.map fun msg => (f msg).x).sum / (imus.length : K),
    (imus.map fun msg => (f msg).y).sum / (imus.length : K),
    (imus.map fun msg => (f msg).z).sum / (imus.length : K)⟩

/-- The means are those of some messages, which are counted; before the first frame there are
none. -/
structure Averages (s : ImuProcess K) (imus : List (Imu K)) : Prop where
  count : s.initIterNum = imus.length + 1
  acc : imus ≠ [] → s.meanAcc = average Imu.linearAcceleration imus
  gyr : imus ≠ [] → s.meanGyr = average Imu.angularVelocity imus
  first : s.bFirstFrame = true → imus = []

/-- A running mean of one quantity. -/
lemma running_mean (mean sum cur : K) (n : ℕ) (h : n ≠ 0 → mean = sum / n)
    (hzero : n = 0 → sum = 0) :
    mean + (cur - mean) / ((n + 1 : ℕ) : K) = (sum + cur) / ((n + 1 : ℕ) : K) := by
  have hne : ((n + 1 : ℕ) : K) ≠ 0 := Nat.cast_ne_zero.mpr n.succ_ne_zero
  by_cases hn : n = 0
  · subst hn
    rw [hzero rfl]
    simp
  · have hn' : (n : K) ≠ 0 := Nat.cast_ne_zero.mpr hn
    rw [h hn, eq_div_iff hne]
    push_cast at hne ⊢
    field_simp
    ring

/-- One message more. -/
lemma towards_average (f : Imu K → Vector3 K) {mean : Vector3 K} {imus : List (Imu K)}
    (h : imus ≠ [] → mean = average f imus) (msg : Imu K) :
    towards mean (f msg) (imus.length + 1) = average f (imus ++ [msg]) := by
  have hlength : imus.length ≠ 0 → mean = average f imus := fun hne =>
    h (List.length_pos_iff.mp (Nat.pos_of_ne_zero hne))
  have hzero : ∀ g : Imu K → K, imus.length = 0 → (imus.map g).sum = 0 := by
    intro g hnil
    rw [List.length_eq_zero_iff.mp hnil]
    rfl
  rw [towards, average]
  simp only [List.map_append, List.sum_append, List.map_cons, List.map_nil, List.sum_singleton,
    List.length_append, List.length_singleton]
  congr 1
  · exact running_mean _ _ _ _ (fun hne => congrArg Vector3.x (hlength hne)) (hzero _)
  · exact running_mean _ _ _ _ (fun hne => congrArg Vector3.y (hlength hne)) (hzero _)
  · exact running_mean _ _ _ _ (fun hne => congrArg Vector3.z (hlength hne)) (hzero _)

/-- The loop of `IMU_init`. -/
lemma Averages.foldl (imu : List (Imu K)) : ∀ {s : ImuProcess K} {imus : List (Imu K)},
    Averages s imus → s.bFirstFrame = false →
    Averages (imu.foldl ImuProcess.add s) (imus ++ imu) := by
  induction imu with
  | nil =>
      intro s imus h _
      rwa [List.append_nil]
  | cons msg imu ih =>
      intro s imus h hfirst
      have hadd : Averages (s.add msg) (imus ++ [msg]) := by
        refine ⟨?_, fun _ => ?_, fun _ => ?_, fun hs => absurd (hfirst.symm.trans hs)
          Bool.noConfusion⟩
        · simp [ImuProcess.add, h.count]
        · rw [ImuProcess.add, h.count]
          exact towards_average _ h.acc msg
        · rw [ImuProcess.add, h.count]
          exact towards_average _ h.gyr msg
      have htail := ih hadd hfirst
      rwa [List.append_assoc] at htail

/-- `IMU_init` counts all messages it is given. -/
lemma Averages.imuInit {s : ImuProcess K} {imus : List (Imu K)} (h : Averages s imus)
    (front : Imu K) (imu : List (Imu K)) : Averages (s.imuInit front imu) (imus ++ imu) := by
  rw [ImuProcess.imuInit]
  cases hfirst : s.bFirstFrame with
  | false => exact h.foldl imu hfirst
  | true =>
      have hnil := h.first hfirst
      subst hnil
      refine Averages.foldl imu ⟨rfl, fun hne => absurd rfl hne, fun hne => absurd rfl hne,
        fun hs => absurd hs Bool.false_ne_true⟩ rfl

/-- `Process`, while the IMU is initialised and after. -/
lemma Averages.process {s : ImuProcess K} {imus : List (Imu K)} (h : Averages s imus)
    (meas : MeasureGroup K) (hdone : s.imuNeedInit = false ↔ maxIniCount < s.initIterNum) :
    ∃ shown, (shown = [] ∨ shown = meas.imu) ∧
      Averages (s.process true meas).1 (imus ++ shown) ∧
      ((s.process true meas).1.imuNeedInit = false ↔
        maxIniCount < (s.process true meas).1.initIterNum) := by
  have hsame : ∀ {s' : ImuProcess K}, s'.initIterNum = s.initIterNum → s'.meanAcc = s.meanAcc →
      s'.meanGyr = s.meanGyr → s'.bFirstFrame = s.bFirstFrame → Averages s' (imus ++ []) := by
    intro s' hcount hacc hgyr hfirst
    rw [List.append_nil]
    exact ⟨hcount ▸ h.count, hacc ▸ h.acc, hgyr ▸ h.gyr, hfirst ▸ h.first⟩
  rw [ImuProcess.process, if_pos rfl]
  cases hmeas : meas.imu with
  | nil => exact ⟨[], .inl rfl, hsame rfl rfl rfl rfl, hdone⟩
  | cons front imu =>
      cases hneed : s.imuNeedInit with
      | false =>
          refine ⟨[], .inl rfl, hsame rfl rfl rfl rfl, ?_⟩
          simpa [hneed] using hdone
      | true =>
          have hinit := h.imuInit front (front :: imu)
          refine ⟨front :: imu, .inr rfl, ?_⟩
          simp only [if_true]
          split_ifs with hmany
          · exact ⟨⟨hinit.count, hinit.acc, hinit.gyr, hinit.first⟩, by simpa using hmany⟩
          · exact ⟨⟨hinit.count, hinit.acc, hinit.gyr, hinit.first⟩, by simpa using hmany⟩

/-! ## A run -/

variable {p : Params K} {voxelGrid : VoxelGrid K} {timeSort : TimeSort K} [FloorRing K]

/-- What has been shown to `IMU_init`, scan by scan: the messages received up to some time. -/
structure Shown (s : LaserMapping K) (imus : List (Imu K)) (shown : List (List (Imu K))) :
    Prop where
  averages : Averages s.pImu shown.flatten
  done : s.pImu.imuNeedInit = false ↔ maxIniCount < s.pImu.initIterNum
  received : ∀ l ∈ shown, l <+: imus

omit [IsStrictOrderedRing K] in
/-- The messages in `meas.imu` are the first that were received. -/
lemma Told.imu_prefix {s : LaserMapping K} {imus : List (Imu K)} {groups : List (Group K)}
    (h : Told p s imus groups) : s.measures.imu <+: imus := by
  cases groups with
  | nil => exact ⟨_, h.2.2.symm⟩
  | cons first rest =>
      obtain ⟨-, later, -, himus, -⟩ := h
      exact ⟨later, himus.symm⟩

/-- All reactions show `IMU_init` messages that have been received. -/
lemma Sound.shown (himu : p.imuEn = true) (hcon : p.conFrame = false) (actions : List (Action K)) :
    ∀ {s s' : LaserMapping K} {imus : List (Imu K)} {late waiting : List (Scan K)}
      {shown : List (List (Imu K))},
      Sound p voxelGrid timeSort s imus late waiting → Shown s imus shown →
      s.run p voxelGrid timeSort actions = some s' →
      ∃ shown', Shown s' (imus ++ imusReceived s.sync.lastTimestampImu actions) shown' := by
  induction actions with
  | nil =>
      intro s s' imus late waiting shown _ hshown hrun
      obtain rfl := Option.some.inj hrun
      rw [imusReceived, List.append_nil]
      exact ⟨shown, hshown⟩
  | cons action actions ih =>
      intro s s' imus late waiting shown h hshown hrun
      obtain ⟨s₁, -, late₁, waiting₁, hs₁, -, himulast, h₁, -, hpImu⟩ := h.step himu hcon action
      have hrun₁ : s₁.run p voxelGrid timeSort actions = some s' := by
        rw [LaserMapping.run, List.foldlM_cons, hs₁] at hrun
        exact hrun
      have hold : ∀ l ∈ shown, l <+: imus ++ action.imus s.sync.lastTimestampImu := fun l hl =>
        (hshown.received l hl).trans (List.prefix_append _ _)
      have hstep : ∃ shown₁, Shown s₁ (imus ++ action.imus s.sync.lastTimestampImu) shown₁ := by
        rcases hpImu with hpImu | hpImu
        · exact ⟨shown, hpImu ▸ hshown.averages, hpImu ▸ hshown.done, hold⟩
        · obtain ⟨new, hnew, haverages, hdone⟩ :=
            hshown.averages.process s₁.measures hshown.done
          refine ⟨shown ++ [new], ?_, hpImu ▸ hdone, fun l hl => ?_⟩
          · rw [hpImu, List.flatten_append, List.flatten_singleton]
            exact haverages
          · rcases List.mem_append.mp hl with hl | hl
            · exact hold l hl
            · obtain rfl := List.mem_singleton.mp hl
              rcases hnew with rfl | rfl
              · exact List.nil_prefix
              · exact h₁.told.imu_prefix
      obtain ⟨shown₁, hshown₁⟩ := hstep
      obtain ⟨shown', hshown'⟩ := ih h₁ hshown₁ hrun₁
      rw [himulast, List.append_assoc] at hshown'
      exact ⟨shown', hshown'⟩

end SentryNav.PointLio
