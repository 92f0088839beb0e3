import SentryNav.Core.Machine
import SentryNav.LivoxDriver.Handshake

/-!
# The settings of the lidars, in all runs

* `settings_handshake`: in every run, every lidar of the configuration file that has a place is
  asked for just the values that the parser has stored, its bits say which of them it has not
  confirmed since it was announced, and it samples exactly if at some time all were confirmed.
* `sampling_at_rest`: once all requests for its settings have been answered, and if none was
  refused, it samples exactly if it has been announced and some setting is listed.  One of the file
  for which none is listed never samples, and nothing that it sends is published.
* `unlisted_handshake`: a lidar that is not in the file is asked for no setting when it is first
  announced, but if it got a place, it is asked for all of them to be 0 from the second time on.

The parser stores a setting in an `int8_t`, whatever the file says: 150 becomes -106, and 255
becomes the -1 that stands for a setting that is not listed.
-/

namespace SentryNav.LivoxDriver

open Machine

variable {K : Type*} [Field K]

/-! ## Places -/

section Places

variable {c : CacheIndex} {owner : Fin kMaxSourceLidar → ℕ}

/-- No place is left. -/
def CacheIndex.Full (c : CacheIndex) : Prop := ∀ i, c.indexCache i = true

/-- What `GetFreeIndex` does: without a place left nothing, else the lidar has the place that it
returns, which had been its place or was free. -/
lemma CacheIndex.Owned.getFreeIndex (h : c.Owned owner) (handle : ℕ) :
    ((c.getFreeIndex handle) = (c, none) ∧ c.mapIndex handle = none ∧ c.Full) ∨
    ∃ i, (c.getFreeIndex handle).2 = some i
      ∧ (c.getFreeIndex handle).1.mapIndex = Function.update c.mapIndex handle (some i)
      ∧ (c.getFreeIndex handle).1.indexCache = Function.update c.indexCache i true
      ∧ (c.mapIndex handle = some i ∨ c.mapIndex handle = none ∧ c.indexCache i = false)
      ∧ (∀ handle' ≠ handle, c.mapIndex handle' ≠ some i)
      ∧ ∃ owner', (c.getFreeIndex handle).1.Owned owner' := by
  cases hmap : c.mapIndex handle with
  | some i =>
      have hget : c.getFreeIndex handle = (c, some i) := by rw [CacheIndex.getFreeIndex, hmap]
      obtain ⟨htaken, howner⟩ := h handle i hmap
      rw [hget]
      refine .inr ⟨i, rfl, ?_, ?_, .inl rfl, fun handle' hne hmap' => hne ?_, owner, h⟩
      · rw [← hmap, Function.update_eq_self]
      · rw [← htaken, Function.update_eq_self]
      · rw [← (h handle' i hmap').2, howner]
  | none =>
      have hget : c.getFreeIndex handle = c.allocate handle := by rw [CacheIndex.getFreeIndex, hmap]
      obtain ⟨owner', hlater, -⟩ := h.allocate handle
      rw [hget]
      cases hfind : (List.finRange kMaxSourceLidar).find? fun i => !c.indexCache i with
      | none =>
          refine .inl ⟨by rw [CacheIndex.allocate, hfind], rfl, fun i => ?_⟩
          simpa using List.find?_eq_none.mp hfind i (List.mem_finRange i)
      | some i =>
          have hfree : c.indexCache i = false := by simpa using List.find?_some hfind
          refine .inr ⟨i, ?_, ?_, ?_, .inr ⟨rfl, hfree⟩, fun handle' _ hmap' => ?_, owner',
            hlater.owned⟩
          · rw [CacheIndex.allocate, hfind]
          · rw [CacheIndex.allocate, hfind]
          · rw [CacheIndex.allocate, hfind]
          · rw [(h handle' i hmap').1] at hfree
            cases hfree

end Places

/-! ## What holds of the devices anyway -/

/-- Each place has one lidar, and the devices of free places have not been written to. -/
structure Placed (l : LdsLidar K) : Prop where
  owned : ∃ owner, l.cacheIndex.Owned owner
  untouched : ∀ i, l.cacheIndex.indexCache i = false → l.lidars i = .reset

variable {l : LdsLidar K} {handle handle' : ℕ} {i j : Fin kMaxSourceLidar}

lemma Placed.taken (h : Placed l) (hplace : l.getLidarDevice handle = some i) :
    l.cacheIndex.indexCache i = true := by
  obtain ⟨owner, howned⟩ := h.owned
  exact (howned handle i hplace).1

/-- Two lidars do not share a place. -/
lemma Placed.apart (h : Placed l) (hplace : l.getLidarDevice handle = some i)
    (hplace' : l.getLidarDevice handle' = some j) (hne : handle' ≠ handle) : j ≠ i := by
  rintro rfl
  obtain ⟨owner, howned⟩ := h.owned
  exact hne ((howned handle' j hplace').2.symm.trans (howned handle j hplace).2)

/-- What is written to the device of a lidar leaves the free places. -/
lemma Placed.update (h : Placed l) (hplace : l.getLidarDevice handle = some i)
    (d : ConfiguredDevice K) : Placed { l with lidars := Function.update l.lidars i d } where
  owned := h.owned
  untouched j hj := by
    have hne : j ≠ i := by
      rintro rfl
      exact absurd ((h.taken hplace).symm.trans hj) (by decide)
    exact (Function.update_of_ne hne ..).trans (h.untouched j hj)

lemma Placed.setCallback (h : Placed l) (code : ConfigCode) (status : LivoxStatus) (handle : ℕ) :
    Placed (LdsLidar.setCallback code l status handle).1 := by
  rw [LdsLidar.setCallback]
  cases hplace : l.getLidarDevice handle with
  | none => exact h
  | some i =>
      cases status with
      | success => exact h.update hplace _
      | timeout => exact h
      | failure => exact h

omit [Field K] in
/-- An answer for a setting is handled by the callback for the setting. -/
lemma answered_asks {r : Request K} {code : ConfigCode} (hasks : r.asks = some (handle, code))
    (status : LivoxStatus) (response : Bool) :
    l.answered r status response = LdsLidar.setCallback code l status handle := by
  cases r <;> cases hasks <;> rfl

omit [Field K] in
/-- Other answers leave the devices, and no setting is asked for. -/
lemma answered_other {r : Request K} (hasks : r.asks = none) (status : LivoxStatus)
    (response : Bool) : (l.answered r status response).1 = l ∧
      ∀ sent ∈ (l.answered r status response).2, sent.asks = none := by
  cases r with
  | installAttitude handle attitude =>
      refine ⟨rfl, fun sent hsent => ?_⟩
      simp only [LdsLidar.answered, LdsLidar.setAttitudeCallback] at hsent
      split at hsent
      · cases hsent
      · split_ifs at hsent
        · rw [List.mem_singleton.mp hsent]
          rfl
        · cases hsent
  | workModeNormal handle =>
      refine ⟨rfl, fun sent hsent => ?_⟩
      simp only [LdsLidar.answered, LdsLidar.workModeChangedCallback] at hsent
      split_ifs at hsent
      · cases hsent
      · rw [List.mem_singleton.mp hsent]
        rfl
  | imuData handle =>
      refine ⟨rfl, fun sent hsent => ?_⟩
      simp only [LdsLidar.answered, LdsLidar.enableLivoxLidarImuDataCallback] at hsent
      split at hsent
      · cases hsent
      · split_ifs at hsent
        · rw [List.mem_singleton.mp hsent]
          rfl
        · cases hsent
  | _ => cases hasks

lemma Placed.answered (h : Placed l) (r : Request K) (status : LivoxStatus) (response : Bool) :
    Placed (l.answered r status response).1 := by
  cases hasks : r.asks with
  | none => rwa [(answered_other hasks status response).1]
  | some asked =>
      rw [answered_asks hasks]
      exact h.setCallback ..

/-- A place given to a lidar. -/
lemma Placed.given (h : Placed l) {c : CacheIndex}
    (hcache : c.indexCache = Function.update l.cacheIndex.indexCache i true)
    (howned : ∃ owner, c.Owned owner) : Placed { l with cacheIndex := c } where
  owned := howned
  untouched j hj := by
    have hj' : c.indexCache j = false := hj
    rw [hcache] at hj'
    by_cases hij : j = i
    · subst hij
      rw [Function.update_self] at hj'
      cases hj'
    · rw [Function.update_of_ne hij] at hj'
      exact h.untouched j hj'

omit [Field K] in
/-- What an announcement does to a lidar that has a place. -/
lemma lidarInfoChangeCallback_known (hplace : l.getLidarDevice handle = some i) :
    l.lidarInfoChangeCallback handle =
      let d := l.lidars i
      let asked := ConfigCode.all.filter d.livoxConfig.has
      ({ l with lidars := Function.update l.lidars i (asked.foldl .await d) },
        asked.map (d.livoxConfig.request handle)
          ++ [.installAttitude d.livoxConfig.handle d.livoxConfig.extrinsicParam,
            .workModeNormal handle, .imuData handle]) := by
  rw [LdsLidar.lidarInfoChangeCallback, hplace]

/-- What it does to one that has none: it may be given one, and is asked for no setting. -/
lemma Placed.lidarInfoChangeCallback_unknown (h : Placed l)
    (hplace : l.getLidarDevice handle = none) :
    (∀ r ∈ (l.lidarInfoChangeCallback handle).2, r.asks = none) ∧
    ((l.lidarInfoChangeCallback handle).1 = l ∧ l.cacheIndex.Full ∨
      ∃ i c, (l.lidarInfoChangeCallback handle).1 = { l with cacheIndex := c }
        ∧ c.mapIndex = Function.update l.cacheIndex.mapIndex handle (some i)
        ∧ l.cacheIndex.indexCache i = false ∧ Placed { l with cacheIndex := c }) := by
  have hasks : ∀ r ∈ [Request.workModeNormal (K := K) handle, .imuData handle], r.asks = none := by
    simp [Request.asks]
  obtain ⟨owner, howned⟩ := h.owned
  rcases howned.getFreeIndex handle with ⟨hget, -, hfull⟩ | ⟨i, hi, hmap, hcache, hfree, -, hgiven⟩
  · rw [LdsLidar.lidarInfoChangeCallback, hplace]
    simp only [hget]
    exact ⟨fun r hr => absurd hr List.not_mem_nil, .inl ⟨trivial, hfull⟩⟩
  · have hget : l.cacheIndex.getFreeIndex handle = ((l.cacheIndex.getFreeIndex handle).1, some i) :=
      Prod.ext rfl hi
    rw [LdsLidar.lidarInfoChangeCallback, hplace, hget]
    refine ⟨hasks, .inr ⟨i, _, rfl, hmap, ?_, h.given hcache hgiven⟩⟩
    exact (hfree.resolve_left fun hsome => nomatch hplace.symm.trans hsome).2

/-! ## The configuration file -/

/-- The last configuration of a lidar in the file. -/
def lastConfig (configs : List (UserLivoxLidarConfig K)) (handle : ℕ) :
    Option (UserLivoxLidarConfig K) :=
  (configs.filter fun config => config.handle = handle).getLast?

omit [Field K] in
lemma lastConfig_concat (configs : List (UserLivoxLidarConfig K))
    (config : UserLivoxLidarConfig K) (handle : ℕ) :
    lastConfig (configs ++ [config]) handle =
      if config.handle = handle then some config else lastConfig configs handle := by
  rw [lastConfig, List.filter_append]
  split_ifs with h <;> simp [h, lastConfig]

/-- The lidars of the file have got their configurations. -/
structure FilledIn (configs : List (UserLivoxLidarConfig K)) (l : LdsLidar K) : Prop where
  placed : Placed l
  off : ∀ i, (l.lidars i).connectState = .off
  listed : ∀ handle i, l.getLidarDevice handle = some i →
    lastConfig configs handle = some (l.lidars i).livoxConfig

lemma FilledIn.fillIn {configs : List (UserLivoxLidarConfig K)} (h : FilledIn configs l)
    (config : UserLivoxLidarConfig K) : FilledIn (configs ++ [config]) (l.fillIn config) := by
  obtain ⟨owner, howned⟩ := h.placed.owned
  rcases howned.getFreeIndex config.handle with
    ⟨hget, hnone, -⟩ | ⟨i, hi, hmap, hcache, -, hothers, hgiven⟩
  · rw [LdsLidar.fillIn, hget]
    refine ⟨h.placed, h.off, fun handle i hplace => ?_⟩
    rw [lastConfig_concat, if_neg]
    · exact h.listed handle i hplace
    · rintro rfl
      exact nomatch hnone.symm.trans hplace
  · have hget : l.cacheIndex.getFreeIndex config.handle =
        ((l.cacheIndex.getFreeIndex config.handle).1, some i) := Prod.ext rfl hi
    have hplace : ∀ handle, (l.cacheIndex.getFreeIndex config.handle).1.mapIndex handle =
        if handle = config.handle then some i else l.getLidarDevice handle := by
      intro handle
      rw [hmap, Function.update_apply]
      rfl
    rw [LdsLidar.fillIn, hget]
    have hnew : LdsLidar.getLidarDevice
        { l with cacheIndex := (l.cacheIndex.getFreeIndex config.handle).1 } config.handle
          = some i := (hplace _).trans (if_pos rfl)
    have hplaced := (h.placed.given hcache hgiven).update hnew
      { l.lidars i with livoxConfig := config, handle := config.handle }
    refine ⟨⟨hplaced.owned, hplaced.untouched⟩, fun j => ?_, fun handle j hj => ?_⟩
    · by_cases hij : j = i
      · subst hij
        simp only [Function.update_self]
        exact h.off j
      · simp only [Function.update_of_ne hij]
        exact h.off j
    · have hj' := (hplace handle).symm.trans hj
      rw [lastConfig_concat]
      by_cases hhandle : handle = config.handle
      · rw [if_pos hhandle] at hj'
        simp only [if_pos hhandle.symm, ← Option.some.inj hj', Function.update_self]
      · rw [if_neg hhandle] at hj'
        have hij : j ≠ i := by
          rintro rfl
          exact hothers handle hhandle hj'
        simp only [if_neg (Ne.symm hhandle), Function.update_of_ne hij]
        exact h.listed handle j hj'

lemma filledIn_make : FilledIn (K := K) [] .make where
  placed := ⟨⟨fun _ => 0, fun _ _ h => nomatch h⟩, fun _ _ => rfl⟩
  off _ := rfl
  listed _ _ h := nomatch h

lemma filledIn_initLivoxLidar (entries : List (LidarConfigEntry K)) :
    FilledIn (parseUserConfigs entries) (.initLivoxLidar entries) := by
  have hfold : ∀ (rest done : List (UserLivoxLidarConfig K)) (l : LdsLidar K), FilledIn done l →
      FilledIn (done ++ rest) (rest.foldl .fillIn l) := by
    intro rest
    induction rest with
    | nil => exact fun done l h => by rwa [List.append_nil]
    | cons config rest ih =>
        intro done l h
        rw [List.append_cons]
        exact ih _ _ (h.fillIn config)
  exact hfold _ [] _ filledIn_make

/-! ## Runs -/

omit [Field K] in
/-- A callback leaves the places, and asks for nothing but the same setting again. -/
lemma setCallback_rest (code : ConfigCode) (status : LivoxStatus) (handle : ℕ) :
    (LdsLidar.setCallback code l status handle).1.cacheIndex = l.cacheIndex ∧
    ∀ r ∈ (LdsLidar.setCallback code l status handle).2, r.asks = some (handle, code) := by
  rw [LdsLidar.setCallback]
  cases l.getLidarDevice handle with
  | none => exact ⟨rfl, fun r hr => absurd hr List.not_mem_nil⟩
  | some i =>
      cases status with
      | success => exact ⟨rfl, fun r hr => absurd hr List.not_mem_nil⟩
      | timeout =>
          refine ⟨rfl, fun r hr => ?_⟩
          rw [List.mem_singleton.mp hr, asks_request]
      | failure => exact ⟨rfl, fun r hr => absurd hr List.not_mem_nil⟩

/-- It leaves the devices of other lidars. -/
lemma Placed.setCallback_other (h : Placed l) (hplace : l.getLidarDevice handle = some i)
    (hne : handle' ≠ handle) (code : ConfigCode) (status : LivoxStatus) :
    (LdsLidar.setCallback code l status handle').1.lidars i = l.lidars i := by
  rw [LdsLidar.setCallback]
  cases hplace' : l.getLidarDevice handle' with
  | none => rfl
  | some j =>
      cases status with
      | success => exact Function.update_of_ne (h.apart hplace hplace' hne).symm ..
      | timeout => rfl
      | failure => rfl

/-- A lidar has the place, and its device agrees with what has happened since some time. -/
structure Known (config : UserLivoxLidarConfig K) (handle : ℕ) (i : Fin kMaxSourceLidar)
    (base : List (Happening K)) (s : Driver K) : Prop where
  placed : Placed s.lds
  place : s.lds.getLidarDevice handle = some i
  since : ∃ since, s.log = since ++ base ∧
    Handshake config handle since s.inFlight (s.lds.lidars i)

section Steps

variable {config : UserLivoxLidarConfig K} {base : List (Happening K)} {s : Driver K}

lemma Known.announced (h : Known config handle i base s) (handle' : ℕ) :
    Known config handle i base (s.step (.announced handle')) := by
  obtain ⟨since, hlog, hshake⟩ := h.since
  have hlog' : Happening.announced handle' :: s.log = (.announced handle' :: since) ++ base :=
    congrArg _ hlog
  cases hplace' : s.lds.getLidarDevice handle' with
  | some j =>
      have hplaced : Placed (s.step (.announced handle')).lds := by
        rw [Driver.step, lidarInfoChangeCallback_known hplace']
        exact h.placed.update hplace' _
      rw [Driver.step, lidarInfoChangeCallback_known hplace'] at hplaced ⊢
      by_cases heq : handle' = handle
      · subst heq
        obtain rfl := Option.some.inj (h.place.symm.trans hplace')
        refine ⟨hplaced, h.place, _, hlog', ?_⟩
        simp only [Function.update_self]
        exact hshake.announced (by simp [Request.asks])
      · refine ⟨hplaced, h.place, _, hlog', ?_⟩
        simp only [Function.update_of_ne (h.placed.apart h.place hplace' heq).symm]
        refine hshake.announced_other heq fun r hr code hasks => ?_
        rcases List.mem_append.mp hr with hr | hr
        · obtain ⟨code', -, rfl⟩ := List.mem_map.mp hr
          rw [asks_request] at hasks
          exact heq (congrArg Prod.fst (Option.some.inj hasks))
        · simp only [List.mem_cons, List.not_mem_nil, or_false] at hr
          rcases hr with rfl | rfl | rfl <;> cases hasks
  | none =>
      have hne : handle' ≠ handle := by
        rintro rfl
        exact nomatch hplace'.symm.trans h.place
      obtain ⟨hasks, hcases⟩ := h.placed.lidarInfoChangeCallback_unknown hplace'
      have hshake' := hshake.announced_other hne fun r hr code => by
        rw [hasks r hr]
        simp
      rw [Driver.step]
      rcases hcases with ⟨hlds, -⟩ | ⟨j, c, hlds, hmap, -, hplaced⟩
      · simp only [hlds]
        exact ⟨h.placed, h.place, _, hlog', hshake'⟩
      · simp only [hlds]
        refine ⟨hplaced, ?_, _, hlog', hshake'⟩
        exact (congrFun hmap handle).trans ((Function.update_of_ne hne.symm ..).trans h.place)

variable {k : ℕ} {r : Request K}

/-- An answer to a request that is for no setting. -/
lemma Known.answered_nothing (h : Known config handle i base s) (hr : s.inFlight[k]? = some r)
    (hasks : r.asks = none) (status : LivoxStatus) (response : Bool) :
    Known config handle i base (s.step (.answered k status response)) := by
  obtain ⟨since, hlog, hshake⟩ := h.since
  obtain ⟨hlds, hsent⟩ := answered_other (l := s.lds) hasks status response
  simp only [Driver.step, hr, hlds]
  refine ⟨h.placed, h.place, .answered r status :: since, congrArg _ hlog,
    hshake.unconfirmed hr ?_ (fun code => ?_) ?_⟩
  · rintro code ⟨hasks', -⟩
    exact nomatch hasks.symm.trans hasks'
  · rw [hasks, if_neg (by simp)]
    exact outstanding_eq_zero fun r' hr' => by simp [hsent r' hr']
  · intro r' hr' code hasks'
    exact nomatch (hsent r' hr').symm.trans hasks'

/-- An answer to a request for a setting of the lidar: it is confirmed, asked for again or
refused. -/
lemma Known.answered_own (h : Known config handle i base s) (hr : s.inFlight[k]? = some r)
    {code : ConfigCode} (hasks : r.asks = some (handle, code)) (status : LivoxStatus)
    (response : Bool) : Known config handle i base (s.step (.answered k status response)) := by
  obtain ⟨since, hlog, hshake⟩ := h.since
  have hlog' : Happening.answered r status :: s.log = (.answered r status :: since) ++ base :=
    congrArg _ hlog
  have hplaced := h.placed.answered r status response
  simp only [Driver.step, hr, answered_asks (l := s.lds) hasks status response] at hplaced ⊢
  rw [LdsLidar.setCallback, h.place] at hplaced ⊢
  cases status with
  | success =>
      refine ⟨hplaced, h.place, _, hlog', ?_⟩
      simp only [Function.update_self, List.append_nil]
      exact hshake.success hr hasks
  | timeout =>
      obtain ⟨bits, hconfig⟩ := hshake.livoxConfig
      refine ⟨hplaced, h.place, _, hlog', hshake.unconfirmed hr (by simp [Happening.Confirms])
        (fun code' => ?_) fun r' hr' code' hasks' => ?_⟩
      · simp [outstanding, List.countP_cons, hasks]
      · obtain rfl := List.mem_singleton.mp hr'
        rw [asks_request] at hasks'
        cases hasks'
        rw [hconfig, request_congr]
  | failure =>
      refine ⟨hplaced, h.place, _, hlog', hshake.unconfirmed hr (by simp [Happening.Confirms])
        (fun code' => ?_) fun r' hr' => absurd hr' List.not_mem_nil⟩
      simp [outstanding]

/-- An answer to a request for a setting of another lidar. -/
lemma Known.answered_stranger (h : Known config handle i base s) (hr : s.inFlight[k]? = some r)
    {code : ConfigCode} (hasks : r.asks = some (handle', code)) (hne : handle' ≠ handle)
    (status : LivoxStatus) (response : Bool) :
    Known config handle i base (s.step (.answered k status response)) := by
  obtain ⟨since, hlog, hshake⟩ := h.since
  have hplaced := h.placed.answered r status response
  have hdevice := h.placed.setCallback_other h.place hne code status
  obtain ⟨hcache, hasked⟩ := setCallback_rest (l := s.lds) code status handle'
  have hsent : ∀ r ∈ (LdsLidar.setCallback code s.lds status handle').2, ∀ code',
      r.asks ≠ some (handle, code') := fun r' hr' code' hasks' =>
    hne (congrArg Prod.fst (Option.some.inj ((hasked r' hr').symm.trans hasks')))
  simp only [Driver.step, hr, answered_asks (l := s.lds) hasks status response] at hplaced ⊢
  refine ⟨hplaced, ?_, .answered r status :: since, congrArg _ hlog, ?_⟩
  · rw [LdsLidar.getLidarDevice, hcache]
    exact h.place
  · simp only [hdevice]
    refine hshake.unconfirmed hr ?_ (fun code' => ?_) fun r' hr' code' hasks' =>
      absurd hasks' (hsent r' hr' code')
    · rintro code' ⟨hasks', -⟩
      exact hne (congrArg Prod.fst (Option.some.inj (hasks.symm.trans hasks')))
    · rw [outstanding_eq_zero fun r' hr' => hsent r' hr' code', if_neg]
      rintro ⟨hasks', -⟩
      exact hne (congrArg Prod.fst (Option.some.inj (hasks.symm.trans hasks')))

lemma Known.answered (h : Known config handle i base s) (k : ℕ) (status : LivoxStatus)
    (response : Bool) : Known config handle i base (s.step (.answered k status response)) := by
  cases hr : s.inFlight[k]? with
  | none =>
      rw [Driver.step, hr]
      exact h
  | some r =>
      cases hasks : r.asks with
      | none => exact h.answered_nothing hr hasks status response
      | some asked =>
          obtain ⟨handle', code⟩ := asked
          by_cases heq : handle' = handle
          · exact h.answered_own hr (heq ▸ hasks) status response
          · exact h.answered_stranger hr hasks heq status response

lemma Known.step (h : Known config handle i base s) (e : DriverEvent) :
    Known config handle i base (s.step e) := by
  cases e with
  | announced handle' => exact h.announced handle'
  | answered k status response => exact h.answered k status response

lemma Known.run (h : Known config handle i base s) (events : List DriverEvent) :
    Known config handle i base (Machine.run Driver.step s events) :=
  run_keeps _ (fun _ e h => h.step e) events s h

end Steps

/-! ## Lidars of the configuration file -/

lemma setBits_eq_zero {entries : List (LidarConfigEntry K)}
    {config : UserLivoxLidarConfig K} (h : config ∈ parseUserConfigs entries) :
    config.setBits = 0 := by
  obtain ⟨entry, -, hentry⟩ := List.mem_filterMap.mp h
  obtain ⟨ip, -, rfl⟩ := Option.map_eq_some_iff.mp hentry
  rfl

/-- A lidar of the file with a place is known from the start. -/
lemma known_init {entries : List (LidarConfigEntry K)}
    (hplace : (LdsLidar.initLivoxLidar entries).getLidarDevice handle = some i) :
    ∃ config, lastConfig (parseUserConfigs entries) handle = some config ∧
      Known config handle i [] (.init entries) := by
  have hfilled := filledIn_initLivoxLidar entries
  have hlast := hfilled.listed handle i hplace
  refine ⟨_, hlast, hfilled.placed, hplace, [], rfl, ?_⟩
  exact handshake_start rfl (setBits_eq_zero (List.mem_of_mem_filter (List.mem_of_getLast? hlast)))
    (hfilled.off i) fun r hr => absurd hr List.not_mem_nil

/-- **The bits and the state of a lidar agree with what has happened**, in every run, for each lidar
of the file that has a place; and it is asked for the values that the parser has stored. -/
theorem settings_handshake (entries : List (LidarConfigEntry K))
    (hplace : (LdsLidar.initLivoxLidar entries).getLidarDevice handle = some i)
    (events : List DriverEvent) :
    ∃ config, lastConfig (parseUserConfigs entries) handle = some config ∧
      (run Driver.step (.init entries) events).lds.getLidarDevice handle = some i ∧
      Handshake config handle (run Driver.step (.init entries) events).log
        (run Driver.step (.init entries) events).inFlight
        ((run Driver.step (.init entries) events).lds.lidars i) := by
  obtain ⟨config, hlast, hknown⟩ := known_init hplace
  obtain ⟨-, hplace', since, hlog, hshake⟩ := hknown.run events
  rw [List.append_nil] at hlog
  exact ⟨config, hlast, hplace', hlog ▸ hshake⟩

/-- **Which lidars of the file sample**: only those that were announced and for which some setting
is listed, and these do when their requests have been answered and none was refused. -/
theorem sampling_at_rest (entries : List (LidarConfigEntry K))
    (hplace : (LdsLidar.initLivoxLidar entries).getLidarDevice handle = some i)
    (events : List DriverEvent) :
    let s := run Driver.step (.init entries) events
    ∃ config, lastConfig (parseUserConfigs entries) handle = some config ∧
      ((s.lds.lidars i).connectState = .sampling →
        0 < announcements handle s.log ∧ ∃ code, config.has code) ∧
      ((∀ code, outstanding handle code s.inFlight = 0) →
        (∀ code, ¬ Refused handle code s.log) →
        ((s.lds.lidars i).connectState = .sampling ↔
          0 < announcements handle s.log ∧ ∃ code, config.has code)) := by
  obtain ⟨config, hlast, hknown⟩ := known_init hplace
  obtain ⟨-, -, since, hlog, hshake⟩ := hknown.run events
  rw [List.append_nil] at hlog
  subst hlog
  refine ⟨config, hlast, hshake.announced_of_sampling, fun hrest hrefused =>
    ⟨hshake.announced_of_sampling, ?_⟩⟩
  rintro ⟨hannounced, code, hhas⟩
  exact hshake.sampling_of_rest hrest hrefused hannounced hhas

/-! ## Other lidars -/

/-- A lidar without a place: nothing has been asked of it, and it was not announced while there was
a place left. -/
structure Unknown (handle : ℕ) (s : Driver K) : Prop where
  placed : Placed s.lds
  noPlace : s.lds.getLidarDevice handle = none
  quiet : ∀ r ∈ s.inFlight, ∀ code, r.asks ≠ some (handle, code)
  unannounced : announcements handle s.log = 0 ∨ s.lds.cacheIndex.Full

/-- The settings of a device that nothing has been written to. -/
def noSettings : UserLivoxLidarConfig K := ConfiguredDevice.reset.livoxConfig

/-- A lidar got its place when it was first announced, and is treated since as if 0 had been listed
for each setting. -/
def TakenOn (handle : ℕ) (s : Driver K) : Prop :=
  ∃ i sooner, announcements handle sooner = 0 ∧
    Known noSettings handle i (.announced handle :: sooner) s

section Unlisted

variable {s : Driver K}

lemma Unknown.quiet_append (h : Unknown handle s) {sent rest : List (Request K)}
    (hrest : ∀ r ∈ rest, r ∈ s.inFlight)
    (hsent : ∀ r ∈ sent, ∀ code, r.asks ≠ some (handle, code)) :
    ∀ r ∈ rest ++ sent, ∀ code, r.asks ≠ some (handle, code) := by
  intro r hr
  rcases List.mem_append.mp hr with hr | hr
  · exact h.quiet r (hrest r hr)
  · exact hsent r hr

/-- The lidar itself is announced. -/
lemma Unknown.announced_self (h : Unknown handle s) :
    Unknown handle (s.step (.announced handle)) ∨ TakenOn handle (s.step (.announced handle)) := by
  obtain ⟨hasks, hcases⟩ := h.placed.lidarInfoChangeCallback_unknown h.noPlace
  have hquiet := h.quiet_append (fun r hr => hr) fun r hr code => by
    rw [hasks r hr]
    simp
  rw [Driver.step]
  rcases hcases with ⟨hlds, hfull⟩ | ⟨i, c, hlds, hmap, hfree, hplaced⟩
  · simp only [hlds]
    exact .inl ⟨h.placed, h.noPlace, hquiet, .inr hfull⟩
  · have hunannounced : announcements handle s.log = 0 :=
      h.unannounced.resolve_right fun hfull => nomatch (hfull i).symm.trans hfree
    have hreset := h.placed.untouched i hfree
    simp only [hlds]
    refine .inr ⟨i, s.log, hunannounced, hplaced, (congrFun hmap handle).trans
      (Function.update_self ..), [], rfl, ?_⟩
    refine handshake_start ?_ rfl ?_ hquiet
    · rw [hreset]
      rfl
    · rw [hreset]
      rfl

/-- Another lidar is announced. -/
lemma Unknown.announced_other (h : Unknown handle s) (hne : handle' ≠ handle) :
    Unknown handle (s.step (.announced handle')) := by
  have hcount :
      announcements handle (.announced handle' :: s.log) = announcements handle s.log := by
    rw [announcements_announced, if_neg hne, Nat.add_zero]
  cases hplace' : s.lds.getLidarDevice handle' with
  | some j =>
      rw [Driver.step, lidarInfoChangeCallback_known hplace']
      refine ⟨h.placed.update hplace' _, h.noPlace, h.quiet_append (fun r hr => hr)
        fun r hr code hasks => ?_, ?_⟩
      · rcases List.mem_append.mp hr with hr | hr
        · obtain ⟨code', -, rfl⟩ := List.mem_map.mp hr
          rw [asks_request] at hasks
          exact hne (congrArg Prod.fst (Option.some.inj hasks))
        · simp only [List.mem_cons, List.not_mem_nil, or_false] at hr
          rcases hr with rfl | rfl | rfl <;> cases hasks
      · rw [hcount]
        exact h.unannounced
  | none =>
      obtain ⟨hasks, hcases⟩ := h.placed.lidarInfoChangeCallback_unknown hplace'
      have hquiet := h.quiet_append (fun r hr => hr) fun r hr code => by
        rw [hasks r hr]
        simp
      rw [Driver.step]
      rcases hcases with ⟨hlds, hfull⟩ | ⟨j, c, hlds, hmap, hfree, hplaced⟩
      · simp only [hlds]
        exact ⟨h.placed, h.noPlace, hquiet, .inr hfull⟩
      · have hunannounced : announcements handle s.log = 0 :=
          h.unannounced.resolve_right fun hfull => nomatch (hfull j).symm.trans hfree
        simp only [hlds]
        exact ⟨hplaced, (congrFun hmap handle).trans ((Function.update_of_ne hne.symm ..).trans
          h.noPlace), hquiet, .inl (hcount.trans hunannounced)⟩

lemma Unknown.answered (h : Unknown handle s) (k : ℕ) (status : LivoxStatus) (response : Bool) :
    Unknown handle (s.step (.answered k status response)) := by
  rw [Driver.step]
  cases hr : s.inFlight[k]? with
  | none => exact h
  | some r =>
      have hplaced := h.placed.answered r status response
      have hunannounced := h.unannounced
      rw [← announcements_answered r status] at hunannounced
      have hrest : ∀ r' ∈ s.inFlight.eraseIdx k, r' ∈ s.inFlight :=
        fun r' hr' => List.mem_of_mem_eraseIdx hr'
      cases hasks : r.asks with
      | none =>
          obtain ⟨hlds, hsent⟩ := answered_other (l := s.lds) hasks status response
          simp only [hlds]
          refine ⟨h.placed, h.noPlace, h.quiet_append hrest fun r' hr' code => ?_, hunannounced⟩
          rw [hsent r' hr']
          simp
      | some asked =>
          obtain ⟨handle', code⟩ := asked
          have hne : handle' ≠ handle := by
            rintro rfl
            exact h.quiet r (List.mem_of_getElem? hr) code hasks
          have hanswer := answered_asks (l := s.lds) hasks status response
          obtain ⟨hcache, hasked⟩ := setCallback_rest (l := s.lds) code status handle'
          simp only [hanswer] at hplaced ⊢
          refine ⟨hplaced, ?_, h.quiet_append hrest fun r' hr' code' hasks' => ?_, ?_⟩
          · rw [LdsLidar.getLidarDevice, hcache]
            exact h.noPlace
          · exact hne (congrArg Prod.fst (Option.some.inj ((hasked r' hr').symm.trans hasks')))
          · rw [hcache]
            exact hunannounced

lemma Unknown.step (h : Unknown handle s) (e : DriverEvent) :
    Unknown handle (s.step e) ∨ TakenOn handle (s.step e) := by
  cases e with
  | announced handle' =>
      by_cases heq : handle' = handle
      · subst heq
        exact h.announced_self
      · exact .inl (h.announced_other heq)
  | answered k status response => exact .inl (h.answered k status response)

end Unlisted

/-- **A lidar that is not in the file**: as long as it has no place it is asked for no setting, and
it has none only before it is announced, or if no place is left.  From the announcement on with
which it gets its place, which is the first, it is treated as if 0 had been listed for each setting;
that announcement itself does not count. -/
theorem unlisted_handshake (entries : List (LidarConfigEntry K))
    (hunlisted : ∀ config ∈ parseUserConfigs entries, config.handle ≠ handle)
    (events : List DriverEvent) :
    let s := run Driver.step (.init entries) events
    (s.lds.getLidarDevice handle = none ∧
        (announcements handle s.log = 0 ∨ s.lds.cacheIndex.Full) ∧
        ∀ r ∈ s.inFlight, ∀ code, r.asks ≠ some (handle, code)) ∨
      ∃ i since sooner, s.lds.getLidarDevice handle = some i
        ∧ s.log = since ++ .announced handle :: sooner ∧ announcements handle sooner = 0
        ∧ Handshake noSettings handle since s.inFlight (s.lds.lidars i) := by
  have hfilled := filledIn_initLivoxLidar entries
  have hunknown : Unknown handle (Driver.init entries) := by
    refine ⟨hfilled.placed, ?_, fun r hr => absurd hr List.not_mem_nil, .inl rfl⟩
    cases hplace : (LdsLidar.initLivoxLidar entries).getLidarDevice handle with
    | none => exact hplace
    | some i =>
        have hmem := List.mem_of_getLast? (hfilled.listed handle i hplace)
        obtain ⟨hmem, hhandle⟩ := List.mem_filter.mp hmem
        exact absurd (of_decide_eq_true hhandle) (hunlisted _ hmem)
  have hrun := run_keeps (fun s : Driver K => Unknown handle s ∨ TakenOn handle s)
    (fun s e h => h.elim (fun h => h.step e) fun ⟨i, sooner, hsooner, h⟩ =>
      .inr ⟨i, sooner, hsooner, h.step e⟩) events _ (.inl hunknown)
  rcases hrun with h | ⟨i, sooner, hsooner, -, hplace, since, hlog, hshake⟩
  · exact .inl ⟨h.noPlace, h.unannounced, h.quiet⟩
  · exact .inr ⟨i, since, sooner, hplace, hlog, hsooner, hshake⟩

/-! ## A lidar with two settings -/

/-- A file with one lidar, of which the point type and the scan pattern are set. -/
def oneLidar : List (LidarConfigEntry ℚ) :=
  [{ ip := some 7, pclDataType := some 1, patternMode := some 0, blindSpotSet := none
     dualEmitEn := none, extrinsicParameter := none }]

/-- The lidar is announced and confirms one setting after the other; the first request for the
second times out. -/
def setUp : List DriverEvent :=
  [.announced 7, .answered 0 .success true, .answered 0 .timeout false, .answered 3 .success true]

/-- It has the first place. -/
lemma place_oneLidar : (LdsLidar.initLivoxLidar oneLidar).getLidarDevice 7 = some ⟨0, by decide⟩ :=
  rfl

theorem settings_handshake_oneLidar :
    ∃ config, lastConfig (parseUserConfigs oneLidar) 7 = some config ∧
      (run Driver.step (.init oneLidar) setUp).lds.getLidarDevice 7 = some ⟨0, by decide⟩ ∧
      Handshake config 7 (run Driver.step (.init oneLidar) setUp).log
        (run Driver.step (.init oneLidar) setUp).inFlight
        ((run Driver.step (.init oneLidar) setUp).lds.lidars ⟨0, by decide⟩) :=
  settings_handshake oneLidar place_oneLidar setUp

theorem sampling_at_rest_oneLidar :
    ((run Driver.step (.init oneLidar) setUp).lds.lidars ⟨0, by decide⟩).connectState
      = .sampling := by
  obtain ⟨config, hlast, -, hiff⟩ := sampling_at_rest oneLidar place_oneLidar setUp
  obtain rfl := Option.some.inj hlast
  refine (hiff (fun code => ?_) fun code hrefused => ?_).mpr ⟨?_, .dataType, rfl⟩
  · cases code <;> rfl
  · obtain ⟨r, hr, -⟩ := hrefused
    have hlog : (run Driver.step (.init oneLidar) setUp).log =
        [.answered (.scanPattern 7 0) .success, .answered (.scanPattern 7 0) .timeout,
          .answered (.pclDataType 7 1) .success, .announced 7] := rfl
    simp [hlog] at hr
  · exact Nat.one_pos

/-- Another lidar is announced twice, and confirms one of the settings that it is asked for. -/
def takenOn : List DriverEvent := [.announced 8, .announced 8, .answered 3 .success true]

theorem unlisted_handshake_oneLidar :
    let s := run Driver.step (.init oneLidar) takenOn
    ∃ i since sooner, s.lds.getLidarDevice 8 = some i
      ∧ s.log = since ++ .announced 8 :: sooner ∧ announcements 8 sooner = 0
      ∧ Handshake noSettings 8 since s.inFlight (s.lds.lidars i) := by
  have hunlisted : ∀ config ∈ parseUserConfigs oneLidar, config.handle ≠ 8 := by
    intro config hconfig
    obtain rfl := List.mem_singleton.mp hconfig
    decide
  refine (unlisted_handshake oneLidar hunlisted takenOn).resolve_left fun h => ?_
  exact absurd h.1 (by decide)

end SentryNav.LivoxDriver
