import SentryNav.PointLio.FilterInputs

/-!
# The time over which the filter predicts

Each input of the filter is predicted up to: the predictions of the state are over the differences
from one input to the next, rounded, from the first group of points to the last, so that no time is
left out or counted twice, and those of the covariance likewise up to its last update.  Differences
of times of which none is more than twice another are not rounded, and then the predictions add up.
If no scan begins before the end of the one before, no prediction goes back.
-/

namespace SentryNav.PointLio

open FloatFormat TimedMerge

variable {K : Type*} [Field K] [LinearOrder K] [IsStrictOrderedRing K] [FloorRing K]
  {p : Params K}

/-- The time over which a call predicts the state, if it does. -/
def Call.stateTime? : Call K → Option K
  | .predict dt true _ => some dt
  | _ => none

/-- The time over which a call predicts the covariance, if it does. -/
def Call.covTime? : Call K → Option K
  | .predict dt _ true => some dt
  | _ => none

/-- The differences from a time to the next, rounded. -/
def differences (t : K) : List K → List K
  | [] => []
  | t' :: times => float64 (t' - t) :: differences t' times

/-- The last of some times, from a time on. -/
def lastTime (t : K) : List K → K
  | [] => t
  | t' :: times => lastTime t' times

/-- The time of an input. -/
def Input.time (i : Input K) : K := TimedMerge.time Imu.time Group.time i

/-! ## Differences -/

omit [Field K] [LinearOrder K] [IsStrictOrderedRing K] [FloorRing K] in
lemma lastTime_append (t : K) (times times' : List K) :
    lastTime t (times ++ times') = lastTime (lastTime t times) times' := by
  induction times generalizing t with
  | nil => rfl
  | cons t₁ times ih => exact ih t₁

omit [IsStrictOrderedRing K] in
lemma differences_append (t : K) (times times' : List K) :
    differences t (times ++ times')
      = differences t times ++ differences (lastTime t times) times' := by
  induction times generalizing t with
  | nil => rfl
  | cons t₁ times ih => exact congrArg _ (ih t₁)

omit [IsStrictOrderedRing K] in
/-- Differences that are not rounded add up. -/
lemma sum_differences (t : K) (times : List K)
    (h : ∀ a ∈ t :: times, ∀ b ∈ t :: times, float64 (b - a) = b - a) :
    (differences t times).sum = lastTime t times - t := by
  induction times generalizing t with
  | nil => exact (sub_self t).symm
  | cons t' times ih =>
      have hrest := ih t' fun a ha b hb =>
        h a (List.mem_cons_of_mem _ ha) b (List.mem_cons_of_mem _ hb)
      have hhead := h t List.mem_cons_self t' (List.mem_cons_of_mem _ List.mem_cons_self)
      rw [differences, List.sum_cons, hrest, hhead, lastTime]
      ring

/-- Differences of times in their order are not negative. -/
lemma differences_nonneg (t : K) (times : List K) (h : (t :: times).Pairwise (· ≤ ·)) :
    ∀ dt ∈ differences t times, 0 ≤ dt := by
  induction times generalizing t with
  | nil => simp [differences]
  | cons t' times ih =>
      obtain ⟨hfirst, hrest⟩ := List.pairwise_cons.mp h
      intro dt hdt
      rcases List.mem_cons.mp hdt with rfl | hdt
      · exact Format.round_nonneg (sub_nonneg.mpr (hfirst t' List.mem_cons_self))
      · exact ih t' hrest dt hdt

/-! ## The calls for an input -/

/-- New calls: the state is predicted to the times, one after the other, and the covariance to some
of them. -/
structure Advances (f f' : Filtering K) (times : List K) (new : List (Call K)) : Prop where
  calls : f'.calls = f.calls ++ new
  state : new.filterMap Call.stateTime? = differences f.timePredictLastConst times
  time : f'.timePredictLastConst = lastTime f.timePredictLastConst times
  cov : ∃ kept : List K, kept.Sublist times ∧
    new.filterMap Call.covTime? = differences f.timeUpdateLast kept ∧
    f'.timeUpdateLast = lastTime f.timeUpdateLast kept
  forward : ∀ dt ∈ new.filterMap Call.covTime?, 0 < dt

omit [FloorRing K] in
lemma zero_point_zero_lt {x : K} : 0.0 < x ↔ 0 < x := by norm_num

lemma Filtering.imuComes_advances (f : Filtering K) (msg : Imu K) :
    ∃ new, Advances f (f.imuComes msg) [msg.time] new := by
  rw [Filtering.imuComes]
  simp only [zero_point_zero_lt]
  by_cases hdt : 0 < float64 (msg.time - f.timeUpdateLast)
  · rw [if_pos hdt]
    refine ⟨[.predict (float64 (msg.time - f.timePredictLastConst)) true false,
      .predict (float64 (msg.time - f.timeUpdateLast)) false true,
      .updateImu msg.angularVelocity msg.linearAcceleration], ?_, rfl, rfl,
      ⟨[msg.time], List.Sublist.refl _, rfl, rfl⟩, ?_⟩
    · rw [List.append_assoc]
      rfl
    · simpa [Call.covTime?] using hdt
  · rw [if_neg hdt]
    exact ⟨[.predict (float64 (msg.time - f.timePredictLastConst)) true false], rfl, rfl, rfl,
      ⟨[], List.nil_sublist _, rfl, rfl⟩, by simp [Call.covTime?]⟩

lemma Filtering.pointsCome_advances (f : Filtering K) (t : K) (points : List (PointType K)) :
    ∃ new, Advances f (f.pointsCome p t points) [t] new := by
  rw [Filtering.pointsCome]
  simp only [zero_point_zero_lt]
  by_cases hdt : p.propAtFreqOfImu = false ∧ 0 < float64 (t - f.timeUpdateLast)
  · rw [if_pos hdt]
    refine ⟨[.predict (float64 (t - f.timeUpdateLast)) false true,
      .predict (float64 (t - f.timePredictLastConst)) true false, .updatePoints points], ?_, rfl,
      rfl, ⟨[t], List.Sublist.refl _, rfl, rfl⟩, ?_⟩
    · rw [List.append_assoc]
      rfl
    · simpa [Call.covTime?] using hdt.2
  · rw [if_neg hdt]
    exact ⟨[.predict (float64 (t - f.timePredictLastConst)) true false, .updatePoints points], rfl,
      rfl, rfl, ⟨[], List.nil_sublist _, rfl, rfl⟩, by simp [Call.covTime?]⟩

lemma Filtering.react_advances (f : Filtering K) (i : Input K) :
    ∃ new, Advances f (f.react p i) [Input.time i] new := by
  cases i with
  | inl msg => exact f.imuComes_advances msg
  | inr g => exact f.pointsCome_advances g.time g.points

/-! ## All inputs -/

omit [IsStrictOrderedRing K] in
/-- First some calls, then others. -/
lemma Advances.trans {f₁ f₂ f₃ : Filtering K} {times₁ times₂ : List K} {new₁ new₂ : List (Call K)}
    (h₁ : Advances f₁ f₂ times₁ new₁) (h₂ : Advances f₂ f₃ times₂ new₂) :
    Advances f₁ f₃ (times₁ ++ times₂) (new₁ ++ new₂) where
  calls := by rw [h₂.calls, h₁.calls, List.append_assoc]
  state := by rw [List.filterMap_append, h₁.state, h₂.state, differences_append, h₁.time]
  time := by rw [h₂.time, h₁.time, lastTime_append]
  cov := by
    obtain ⟨kept₁, hsub₁, hcov₁, hlast₁⟩ := h₁.cov
    obtain ⟨kept₂, hsub₂, hcov₂, hlast₂⟩ := h₂.cov
    refine ⟨kept₁ ++ kept₂, hsub₁.append hsub₂, ?_, ?_⟩
    · rw [List.filterMap_append, hcov₁, hcov₂, differences_append, hlast₁]
    · rw [hlast₂, hlast₁, lastTime_append]
  forward dt hdt := by
    rw [List.filterMap_append] at hdt
    exact (List.mem_append.mp hdt).elim (h₁.forward dt) (h₂.forward dt)

/-- All inputs. -/
lemma foldl_react_advances (inputs : List (Input K)) (f : Filtering K) :
    ∃ new, Advances f (inputs.foldl (Filtering.react p) f) (inputs.map Input.time) new := by
  induction inputs generalizing f with
  | nil => exact ⟨[], by simp, rfl, rfl, ⟨[], List.Sublist.refl _, rfl, rfl⟩, by simp⟩
  | cons i inputs ih =>
      obtain ⟨new₁, h₁⟩ := f.react_advances (p := p) i
      obtain ⟨new₂, h₂⟩ := ih (f.react p i)
      exact ⟨new₁ ++ new₂, h₁.trans h₂⟩

omit [IsStrictOrderedRing K] in
/-- The filter is at the time of the last group it was told. -/
lemma timePredictLastConst_merge (imus : List (Imu K)) {groups : List (Group K)}
    (h : groups ≠ []) (f : Filtering K) :
    ((merge Imu.time Group.time imus groups).1.foldl (Filtering.react p) f).timePredictLastConst
      = (groups.getLast h).time := by
  conv_lhs => rw [← List.dropLast_append_getLast h]
  rw [merge_concat]
  exact congrArg Filtering.timePredictLastConst (foldl_react_tell f _ _ _)

/-! ## The groups in their order -/

/-- Scans of which none begins before the end of the one before. -/
def Successive (scans : List (Scan K)) : Prop :=
  scans.Pairwise fun scan scan' => scan.endTime ≤ scan'.begTime

variable {voxelGrid : VoxelGrid K} {timeSort : TimeSort K}

/-- The groups of a scan come in the order of their times. -/
lemma Scan.groups_sorted (p : Params K) (voxelGrid : VoxelGrid K) (timeSort : TimeSort K)
    (scan : Scan K) :
    (scan.groups p voxelGrid timeSort).Pairwise fun g g' => g.time ≤ g'.time := by
  have hsorted : (scan.body p voxelGrid timeSort).Pairwise fun a b => a.curvature ≤ b.curvature :=
    timeSort.sorted _
  rw [← flatten_timeGroups (scan.body p voxelGrid timeSort), List.pairwise_flatten] at hsorted
  rw [Scan.groups, List.pairwise_map]
  refine hsorted.2.imp_of_mem fun {part part'} hpart hpart' hle => ?_
  have hne : ∀ {part}, part ∈ timeGroups (scan.body p voxelGrid timeSort) → part ≠ [] :=
    fun hpart hnil => nil_notMem_timeGroups _ (hnil ▸ hpart)
  rw [groupAt_time _ (hne hpart), groupAt_time _ (hne hpart')]
  exact pointTime_mono _
    (hle _ (List.getLast_mem (hne hpart)) _ (List.getLast_mem (hne hpart')))

/-- No group is before the begin of its scan. -/
lemma Scan.begTime_le_group (scan : Scan K) :
    ∀ g ∈ scan.groups p voxelGrid timeSort, scan.begTime ≤ g.time := by
  intro g hg
  obtain ⟨part, hpart, rfl⟩ := List.mem_map.mp hg
  obtain ⟨pt, hpt, htime⟩ := exists_groupAt_time scan.begTime hpart
  have hmem := (timeSort.perm _).subset hpt
  have hcurv : 0 ≤ pt.curvature := by
    split_ifs at hmem
    · obtain ⟨q, hq, hle⟩ := voxelGrid.curvature_le _ pt hmem
      exact (scan.forward q hq).trans hle
    · exact scan.forward pt hmem
  rw [htime]
  exact scan.begTime_le_pointTime hcurv

/-- The groups of successive scans come in the order of their times. -/
lemma Successive.groups_sorted {scans : List (Scan K)} (h : Successive scans) :
    (scans.flatMap (Scan.groups p voxelGrid timeSort)).Pairwise fun g g' => g.time ≤ g'.time := by
  rw [List.pairwise_flatMap]
  refine ⟨fun scan _ => scan.groups_sorted p voxelGrid timeSort, h.imp ?_⟩
  intro scan scan' hle g hg g' hg'
  obtain ⟨part, hpart, rfl⟩ := List.mem_map.mp hg
  calc (groupAt scan.begTime part).time
      ≤ scan.endTime := scan.groupAt_le p voxelGrid timeSort part hpart
    _ ≤ scan'.begTime := hle
    _ ≤ g'.time := scan'.begTime_le_group g' hg'

omit [IsStrictOrderedRing K] in
/-- No message among the inputs is before the first group. -/
lemma first_le_message {later : List (Imu K)} {first : Group K} {rest : List (Group K)}
    (hlater : later.Pairwise fun m m' => m.time ≤ m'.time) {msg : Imu K}
    (h : .inl msg ∈ (merge Imu.time Group.time
      (later.dropWhile (earlier Imu.time first.time)) (first :: rest)).1) :
    first.time ≤ msg.time := by
  have hmem : msg ∈ later.dropWhile (earlier Imu.time first.time) := mem_of_mem_merge h
  have hrest : ∀ b ∈ [first], ∀ m ∈ (merge Imu.time Group.time later [first]).2,
      b.time ≤ m.time := merge_rest hlater
  exact hrest first List.mem_cons_self msg hmem

omit [IsStrictOrderedRing K] in
/-- The inputs come in the order of their times, none before the first group. -/
lemma inputs_sorted {later : List (Imu K)} {first : Group K} {rest : List (Group K)}
    (hlater : later.Pairwise fun m m' => m.time ≤ m'.time)
    (hgroups : (first :: rest).Pairwise fun g g' => g.time ≤ g'.time) :
    (first.time :: (merge Imu.time Group.time (later.dropWhile (earlier Imu.time first.time))
      (first :: rest)).1.map Input.time).Pairwise (· ≤ ·) := by
  have hkept := hlater.sublist (List.dropWhile_sublist (earlier Imu.time first.time))
  refine List.pairwise_cons.mpr ⟨List.forall_mem_map.mpr fun i hi => ?_,
    List.pairwise_map.mpr ((merge_sorted hkept hgroups).imp fun {i j} hbefore => ?_)⟩
  · cases i with
    | inl msg => exact first_le_message hlater hi
    | inr g =>
        have hmem : g ∈ first :: rest := mem_of_mem_merge hi
        rcases List.mem_cons.mp hmem with rfl | hmem
        · exact le_rfl
        · exact (List.pairwise_cons.mp hgroups).1 g hmem
  · cases i with
    | inl msg =>
        cases j with
        | inl msg' => exact hbefore
        | inr g => exact le_of_lt hbefore
    | inr g => exact hbefore

/-! ## Times near one another -/

/-- A `double` between a time and twice that time. -/
structure Near (T t : K) : Prop where
  isFloat : binary64.IsFloat t
  le : T ≤ t
  le_two_mul : t ≤ 2 * T

/-- The differences of such times are not rounded. -/
lemma Near.float64_sub {T a b : K} (ha : Near T a) (hb : Near T b) : float64 (b - a) = b - a := by
  have hab := ha.le_two_mul.trans (mul_le_mul_of_nonneg_left hb.le two_pos.le)
  have hba := hb.le_two_mul.trans (mul_le_mul_of_nonneg_left ha.le two_pos.le)
  exact (hb.isFloat.sub ha.isFloat hba hab).round_eq

/-- The groups of scans between a time and twice that time. -/
lemma Scan.near {T : K} (scan : Scan K) (hbeg : T ≤ scan.begTime) (hend : scan.endTime ≤ 2 * T) :
    ∀ g ∈ scan.groups p voxelGrid timeSort, Near T g.time := by
  intro g hg
  refine ⟨?_, hbeg.trans (scan.begTime_le_group g hg), ?_⟩
  · obtain ⟨part, -, rfl⟩ := List.mem_map.mp hg
    exact Format.isFloat_round _ _
  · obtain ⟨part, hpart, rfl⟩ := List.mem_map.mp hg
    exact (scan.groupAt_le p voxelGrid timeSort part hpart).trans hend

/-! ## A run -/

/-- The calls for some inputs, from a time on: the state is predicted from each input to the next,
and the covariance forward to some of them. -/
structure Predicted (f : Filtering K) (start : K) (inputs : List (Input K)) : Prop where
  state : f.calls.filterMap Call.stateTime? = differences start (inputs.map Input.time)
  cov : ∃ kept : List K, kept.Sublist (inputs.map Input.time) ∧
    f.calls.filterMap Call.covTime? = differences start kept ∧
    f.timeUpdateLast = lastTime start kept
  forward : ∀ dt ∈ f.calls.filterMap Call.covTime?, 0 < dt

omit [IsStrictOrderedRing K] in
lemma Advances.predicted {f f' : Filtering K} {t : K} {inputs : List (Input K)}
    {new : List (Call K)} (hstarts : f.Starts t) (h : Advances f f' (inputs.map Input.time) new) :
    Predicted f' t inputs ∧ f'.timePredictLastConst = lastTime t (inputs.map Input.time) := by
  have hcalls : f'.calls = new := by rw [h.calls, hstarts.calls, List.nil_append]
  have hstate := h.state
  have hcov := h.cov
  have htime := h.time
  rw [hstarts.timePredictLastConst] at hstate htime
  rw [hstarts.timeUpdateLast] at hcov
  exact ⟨⟨hcalls ▸ hstate, hcalls ▸ hcov, hcalls ▸ h.forward⟩, htime⟩

/-- If no difference is rounded, the predictions add up. -/
lemma Predicted.sum_eq {f : Filtering K} {start T : K} {inputs : List (Input K)}
    (h : Predicted f start inputs) (hnear : ∀ t ∈ start :: inputs.map Input.time, Near T t) :
    (f.calls.filterMap Call.stateTime?).sum = lastTime start (inputs.map Input.time) - start ∧
      (f.calls.filterMap Call.covTime?).sum = f.timeUpdateLast - start := by
  obtain ⟨kept, hsub, hcov, hlast⟩ := h.cov
  have hkept := (hsub.cons_cons start).subset
  rw [h.state, hcov, hlast]
  exact ⟨sum_differences _ _ fun a ha b hb => (hnear a ha).float64_sub (hnear b hb),
    sum_differences _ _ fun a ha b hb =>
      (hnear a (hkept ha)).float64_sub (hnear b (hkept hb))⟩

end SentryNav.PointLio
