import Mathlib.Data.List.Perm.Basic
import SentryNav.LivoxDriver.LidarCallback

/-!
# When a lidar samples

A lidar is awaited to confirm a setting from an announcement on until it confirms the setting.  The
bits of its device say for which settings that is, and the lidar samples exactly if there was a
confirmation with which no setting was awaited any more (`Handshake`).  What is still awaited has a
request in flight or was refused.

This is told by the log, and each lemma says what one happening makes of it; that it is so in all
runs is proved in the next module.  Only a lidar that was announced and has some setting samples,
and it does when all requests have been answered and none was refused.
-/

namespace SentryNav.LivoxDriver

variable {K : Type*}

/-! ## What is told by the log -/

/-- The setting that a request is for, with the lidar. -/
def Request.asks : Request K → Option (ℕ × ConfigCode)
  | .pclDataType handle _ => some (handle, .dataType)
  | .scanPattern handle _ => some (handle, .scanPattern)
  | .blindSpot handle _ => some (handle, .blindSpot)
  | .dualEmit handle _ => some (handle, .dualEmit)
  | .installAttitude _ _ => none
  | .workModeNormal _ => none
  | .imuData _ => none

/-- The lidar confirms the setting. -/
def Happening.Confirms (handle : ℕ) (code : ConfigCode) : Happening K → Prop
  | .announced _ => False
  | .answered r status => r.asks = some (handle, code) ∧ status = .success

/-- There was an announcement, and the setting has not been confirmed since. -/
def Awaited (handle : ℕ) (code : ConfigCode) : List (Happening K) → Prop
  | [] => False
  | .announced handle' :: log => handle' = handle ∨ Awaited handle code log
  | .answered r status :: log =>
      ¬ (Happening.answered r status).Confirms handle code ∧ Awaited handle code log

/-- With the latest that happened, a setting was confirmed and none is awaited any more. -/
def Completes (config : UserLivoxLidarConfig K) (handle : ℕ) : List (Happening K) → Prop
  | [] => False
  | happening :: log => (∃ code, happening.Confirms handle code) ∧
      ∀ code, config.has code → ¬ Awaited handle code (happening :: log)

/-- At some time a setting was confirmed and none was awaited any more. -/
def Completed (config : UserLivoxLidarConfig K) (handle : ℕ) (log : List (Happening K)) : Prop :=
  ∃ log', log' <:+ log ∧ Completes config handle log'

/-- How often the lidar was announced. -/
def announcements (handle : ℕ) (log : List (Happening K)) : ℕ :=
  log.countP fun
    | .announced handle' => handle' = handle
    | .answered _ _ => false

/-- How often the lidar has confirmed the setting or refused it. -/
def settled (handle : ℕ) (code : ConfigCode) (log : List (Happening K)) : ℕ :=
  log.countP fun
    | .announced _ => false
    | .answered r status => r.asks = some (handle, code) ∧ status ≠ .timeout

/-- The lidar has refused the setting. -/
def Refused (handle : ℕ) (code : ConfigCode) (log : List (Happening K)) : Prop :=
  ∃ r, .answered r .failure ∈ log ∧ r.asks = some (handle, code)

/-- How many requests for the setting have not been answered. -/
def outstanding (handle : ℕ) (code : ConfigCode) (inFlight : List (Request K)) : ℕ :=
  inFlight.countP fun r => r.asks = some (handle, code)

/-- A device and the requests in flight are as the configuration and the log say. -/
structure Handshake (config : UserLivoxLidarConfig K) (handle : ℕ) (log : List (Happening K))
    (inFlight : List (Request K)) (d : ConfiguredDevice K) : Prop where
  livoxConfig : ∃ bits, d.livoxConfig = { config with setBits := bits }
  /-- The bits are those of the settings that are awaited. -/
  bits : ∀ n, d.livoxConfig.setBits.getLsbD n = true
    ↔ ∃ code, code.bit = n ∧ config.has code ∧ Awaited handle code log
  sampling : d.connectState = .sampling ↔ Completed config handle log
  /-- There is one request in flight for each announcement, until it is confirmed or refused. -/
  requests : ∀ code, outstanding handle code inFlight + settled handle code log
    = if config.has code then announcements handle log else 0
  values : ∀ r ∈ inFlight, ∀ code, r.asks = some (handle, code) → r = config.request handle code
  waiting : ∀ code, config.has code → Awaited handle code log →
    0 < outstanding handle code inFlight ∨ Refused handle code log

/-! ## Bits -/

lemma bit_injective : Function.Injective ConfigCode.bit := by
  intro a b h
  cases a <;> cases b <;> first | rfl | exact absurd h (by decide)

lemma mem_all (code : ConfigCode) : code ∈ ConfigCode.all := by
  cases code <;> decide

lemma getLsbD_mask (code : ConfigCode) (n : ℕ) :
    code.mask.getLsbD n = decide (code.bit = n) := by
  have hbit : code.bit < 32 := by cases code <;> decide
  rw [ConfigCode.mask, BitVec.getLsbD_twoPow, decide_eq_true hbit, Bool.true_and]

namespace ConfiguredDevice

lemma await_bits (d : ConfiguredDevice K) (codes : List ConfigCode) (n : ℕ) :
    (codes.foldl await d).livoxConfig.setBits.getLsbD n = true ↔
      d.livoxConfig.setBits.getLsbD n = true ∨ ∃ code ∈ codes, code.bit = n := by
  induction codes generalizing d with
  | nil => simp
  | cons code codes ih => simp [ih, await, getLsbD_mask, or_assoc]

/-- Nothing else of the device is changed. -/
lemma await_rest (d : ConfiguredDevice K) (codes : List ConfigCode) :
    (codes.foldl await d).connectState = d.connectState ∧
      ∃ bits, (codes.foldl await d).livoxConfig = { d.livoxConfig with setBits := bits } := by
  induction codes generalizing d with
  | nil => exact ⟨rfl, _, rfl⟩
  | cons code codes ih =>
      obtain ⟨hstate, bits, hconfig⟩ := ih (d.await code)
      exact ⟨hstate, bits, hconfig⟩

lemma confirm_bits (d : ConfiguredDevice K) (code : ConfigCode) (n : ℕ) :
    (d.confirm code).livoxConfig.setBits.getLsbD n = true ↔
      d.livoxConfig.setBits.getLsbD n = true ∧ code.bit ≠ n := by
  simp only [confirm, BitVec.getLsbD_and, BitVec.getLsbD_not, getLsbD_mask, Bool.and_eq_true,
    Bool.not_eq_true', decide_eq_true_eq, decide_eq_false_iff_not]
  constructor
  · rintro ⟨hbit, -, hne⟩
    exact ⟨hbit, hne⟩
  · rintro ⟨hbit, hne⟩
    exact ⟨hbit, BitVec.lt_of_getLsbD hbit, hne⟩

lemma confirm_sampling (d : ConfiguredDevice K) (code : ConfigCode) :
    (d.confirm code).connectState = .sampling ↔
      (∀ n, (d.confirm code).livoxConfig.setBits.getLsbD n ≠ true) ∨
        d.connectState = .sampling := by
  have hzero : (d.confirm code).livoxConfig.setBits = 0 ↔
      ∀ n, (d.confirm code).livoxConfig.setBits.getLsbD n ≠ true := by
    constructor
    · intro h n
      rw [h]
      simp
    · intro h
      apply BitVec.eq_of_getLsbD_eq
      intro n _
      simpa using h n
  rw [← hzero]
  show (if (d.confirm code).livoxConfig.setBits = 0 then _ else _) = _ ↔ _
  by_cases h : (d.confirm code).livoxConfig.setBits = 0
  · rw [if_pos h]
    exact iff_of_true rfl (.inl h)
  · rw [if_neg h]
    exact (or_iff_right h).symm

end ConfiguredDevice

/-! ## What a happening adds to the log -/

section Log

variable {config : UserLivoxLidarConfig K} {handle : ℕ} {log : List (Happening K)}

lemma completed_cons (happening : Happening K) :
    Completed config handle (happening :: log) ↔
      Completes config handle (happening :: log) ∨ Completed config handle log := by
  constructor
  · rintro ⟨log', hsuffix, hcompletes⟩
    rcases List.suffix_cons_iff.mp hsuffix with rfl | hsuffix
    · exact .inl hcompletes
    · exact .inr ⟨log', hsuffix, hcompletes⟩
  · rintro (hcompletes | ⟨log', hsuffix, hcompletes⟩)
    · exact ⟨_, List.suffix_rfl, hcompletes⟩
    · exact ⟨log', hsuffix.trans (List.suffix_cons ..), hcompletes⟩

lemma not_completed_nil : ¬ Completed config handle [] := by
  rintro ⟨log', hsuffix, hcompletes⟩
  rw [List.suffix_nil.mp hsuffix] at hcompletes
  exact hcompletes

lemma not_confirms_announced {handle' : ℕ} {code : ConfigCode} :
    ¬ (Happening.announced handle' : Happening K).Confirms handle code :=
  fun h => h

/-- Without a confirmation nothing is completed. -/
lemma completed_cons_of_not_confirms {happening : Happening K}
    (h : ∀ code, ¬ happening.Confirms handle code) :
    Completed config handle (happening :: log) ↔ Completed config handle log := by
  rw [completed_cons, or_iff_right]
  rintro ⟨⟨code, hconfirms⟩, -⟩
  exact h code hconfirms

/-- An answer that is not a confirmation leaves what is awaited. -/
lemma awaited_answered {r : Request K} {status : LivoxStatus} {code : ConfigCode}
    (h : ¬ (Happening.answered r status).Confirms handle code) :
    Awaited handle code (.answered r status :: log) ↔ Awaited handle code log :=
  and_iff_right h

lemma announcements_announced (handle' : ℕ) :
    announcements handle (.announced handle' :: log)
      = announcements handle log + if handle' = handle then 1 else 0 := by
  simp [announcements, List.countP_cons]

lemma announcements_answered (r : Request K) (status : LivoxStatus) :
    announcements handle (.answered r status :: log) = announcements handle log := by
  simp [announcements]

lemma settled_announced (handle' : ℕ) (code : ConfigCode) :
    settled handle code (.announced handle' :: log) = settled handle code log := by
  simp [settled]

lemma settled_answered (r : Request K) (status : LivoxStatus) (code : ConfigCode) :
    settled handle code (.answered r status :: log) = settled handle code log
      + if r.asks = some (handle, code) ∧ status ≠ .timeout then 1 else 0 := by
  simp [settled, List.countP_cons]

end Log

/-! ## Requests in flight -/

section InFlight

variable {handle : ℕ} {code : ConfigCode} {inFlight : List (Request K)}

lemma outstanding_append (sent : List (Request K)) :
    outstanding handle code (inFlight ++ sent)
      = outstanding handle code inFlight + outstanding handle code sent :=
  List.countP_append

lemma outstanding_eq_zero (h : ∀ r ∈ inFlight, r.asks ≠ some (handle, code)) :
    outstanding handle code inFlight = 0 := by
  simpa [outstanding, List.countP_eq_zero] using h

/-- A request that is answered was in flight once. -/
lemma outstanding_eraseIdx {k : ℕ} {r : Request K} (hr : inFlight[k]? = some r) :
    outstanding handle code (inFlight.eraseIdx k)
        + (if r.asks = some (handle, code) then 1 else 0)
      = outstanding handle code inFlight := by
  obtain ⟨hk, rfl⟩ := List.getElem?_eq_some_iff.mp hr
  rw [outstanding, outstanding, ← (List.getElem_cons_eraseIdx_perm hk).countP_eq _]
  simp [List.countP_cons]

end InFlight

/-! ## What becomes of a device -/

section Device

variable {config : UserLivoxLidarConfig K} {handle : ℕ} {log : List (Happening K)}
  {inFlight : List (Request K)} {d : ConfiguredDevice K}

@[simp] lemma asks_request (code : ConfigCode) :
    (config.request handle code).asks = some (handle, code) := by
  cases code <;> rfl

lemma request_congr {bits : BitVec 32} (code : ConfigCode) :
    UserLivoxLidarConfig.request { config with setBits := bits } handle code
      = config.request handle code := by
  cases code <;> rfl

lemma has_congr {bits : BitVec 32} :
    UserLivoxLidarConfig.has { config with setBits := bits } = config.has := by
  funext code
  cases code <;> rfl

/-- At the start nothing has happened. -/
lemma handshake_start (hconfig : d.livoxConfig = config) (hbits : config.setBits = 0)
    (hstate : d.connectState = .off) (hinFlight : ∀ r ∈ inFlight, ∀ code,
      r.asks ≠ some (handle, code)) : Handshake config handle [] inFlight d where
  livoxConfig := ⟨config.setBits, hconfig⟩
  bits n := by
    rw [hconfig, hbits]
    simp [Awaited]
  sampling := by
    rw [hstate]
    exact iff_of_false (by decide) not_completed_nil
  requests code := by
    rw [outstanding_eq_zero fun r hr => hinFlight r hr code]
    simp [settled, announcements]
  values r hr code hasks := absurd hasks (hinFlight r hr code)
  waiting _ _ hawaited := hawaited.elim

/-- An announcement: the lidar is asked for each of its settings. -/
lemma Handshake.announced (h : Handshake config handle log inFlight d) {others : List (Request K)}
    (hothers : ∀ r ∈ others, r.asks = none) :
    Handshake config handle (.announced handle :: log)
      (inFlight ++ ((ConfigCode.all.filter d.livoxConfig.has).map (d.livoxConfig.request handle)
        ++ others))
      ((ConfigCode.all.filter d.livoxConfig.has).foldl .await d) := by
  obtain ⟨bits, hconfig⟩ := h.livoxConfig
  have hhas : d.livoxConfig.has = config.has := by rw [hconfig, has_congr]
  have hrequest : d.livoxConfig.request handle = config.request handle := by
    funext code
    rw [hconfig, request_congr]
  obtain ⟨hstate, bits', hconfig'⟩ := d.await_rest (ConfigCode.all.filter config.has)
  rw [hhas, hrequest]
  have hasked (code : ConfigCode) : outstanding handle code
      ((ConfigCode.all.filter config.has).map (config.request handle))
        = if config.has code then 1 else 0 := by
    simp only [outstanding, List.countP_map, Function.comp_def, asks_request, List.countP_filter,
      Option.some.injEq, Prod.mk.injEq, true_and, ConfigCode.all]
    cases code <;> simp [List.countP_cons]
  refine ⟨⟨bits', ?_⟩, fun n => ?_, ?_, fun code => ?_, fun r hr code hasks => ?_,
    fun code hhas _ => .inl ?_⟩
  · rw [hconfig', hconfig]
  · rw [ConfiguredDevice.await_bits, h.bits]
    constructor
    · rintro (⟨code, hbit, hhas, hawaited⟩ | ⟨code, hcode, hbit⟩)
      · exact ⟨code, hbit, hhas, .inr hawaited⟩
      · exact ⟨code, hbit, (List.mem_filter.mp hcode).2, .inl rfl⟩
    · rintro ⟨code, hbit, hhas, -⟩
      exact .inr ⟨code, List.mem_filter.mpr ⟨mem_all code, hhas⟩, hbit⟩
  · rw [hstate, h.sampling, completed_cons_of_not_confirms fun _ => not_confirms_announced]
  · have hrequests := h.requests code
    have hnone : outstanding handle code others = 0 :=
      outstanding_eq_zero fun r hr hasks => nomatch (hothers r hr).symm.trans hasks
    rw [outstanding_append, outstanding_append, hasked, hnone, settled_announced,
      announcements_announced, if_pos rfl]
    split_ifs at hrequests ⊢ <;> omega
  · rcases List.mem_append.mp hr with hr | hr
    · exact h.values r hr code hasks
    · rcases List.mem_append.mp hr with hr | hr
      · obtain ⟨code', -, rfl⟩ := List.mem_map.mp hr
        rw [asks_request] at hasks
        cases hasks
        rfl
      · rw [hothers r hr] at hasks
        cases hasks
  · rw [outstanding_append, outstanding_append, hasked, if_pos hhas]
    omega

/-- A confirmation. -/
lemma Handshake.success (h : Handshake config handle log inFlight d) {k : ℕ} {r : Request K}
    (hr : inFlight[k]? = some r) {code : ConfigCode} (hasks : r.asks = some (handle, code)) :
    Handshake config handle (.answered r .success :: log) (inFlight.eraseIdx k)
      (d.confirm code) := by
  have hconfirms (code' : ConfigCode) :
      (Happening.answered r .success).Confirms handle code' ↔ code = code' := by
    simp [Happening.Confirms, hasks]
  have hbits (n : ℕ) : (d.confirm code).livoxConfig.setBits.getLsbD n = true ↔
      ∃ code', code'.bit = n ∧ config.has code'
        ∧ Awaited handle code' (.answered r .success :: log) := by
    rw [ConfiguredDevice.confirm_bits, h.bits]
    constructor
    · rintro ⟨⟨code', rfl, hhas, hawaited⟩, hne⟩
      exact ⟨code', rfl, hhas, fun hc => hne (congrArg _ ((hconfirms code').mp hc)), hawaited⟩
    · rintro ⟨code', rfl, hhas, hc, hawaited⟩
      exact ⟨⟨code', rfl, hhas, hawaited⟩,
        fun heq => hc ((hconfirms code').mpr (bit_injective heq))⟩
  have hconfig : ∃ bits, (d.confirm code).livoxConfig = { config with setBits := bits } := by
    obtain ⟨bits, hconfig⟩ := h.livoxConfig
    exact ⟨d.livoxConfig.setBits &&& ~~~code.mask, by rw [ConfiguredDevice.confirm, hconfig]⟩
  refine ⟨hconfig, hbits, ?_, fun code' => ?_,
    fun r' hr' => h.values r' (List.mem_of_mem_eraseIdx hr'), fun code' hhas ha => ?_⟩
  · rw [ConfiguredDevice.confirm_sampling, h.sampling, completed_cons]
    refine or_congr_left ⟨fun hnone => ⟨⟨code, (hconfirms code).mpr rfl⟩, fun code' hhas ha => ?_⟩,
      fun ⟨_, hall⟩ n hn => ?_⟩
    · exact hnone code'.bit ((hbits _).mpr ⟨code', rfl, hhas, ha⟩)
    · obtain ⟨code', -, hhas, ha⟩ := (hbits n).mp hn
      exact hall code' hhas ha
  · have hrequests := h.requests code'
    rw [← outstanding_eraseIdx hr] at hrequests
    rw [settled_answered, announcements_answered, ← hrequests]
    simp only [ne_eq, reduceCtorEq, not_false_eq_true, and_true]
    omega
  · have hne : r.asks ≠ some (handle, code') := fun heq => ha.1 ⟨heq, rfl⟩
    rcases h.waiting code' hhas ha.2 with hpos | ⟨r', hr', hrefused⟩
    · rw [← outstanding_eraseIdx hr, if_neg hne] at hpos
      exact .inl hpos
    · exact .inr ⟨r', List.mem_cons_of_mem _ hr', hrefused⟩

/-- An answer that leaves the device: a refusal, a timeout, or one for something else. -/
lemma Handshake.unconfirmed (h : Handshake config handle log inFlight d) {k : ℕ} {r : Request K}
    (hr : inFlight[k]? = some r) {status : LivoxStatus}
    (hconfirms : ∀ code, ¬ (Happening.answered r status).Confirms handle code)
    {sent : List (Request K)} (hsent : ∀ code, outstanding handle code sent =
      if r.asks = some (handle, code) ∧ status = .timeout then 1 else 0)
    (hvalues : ∀ r' ∈ sent, ∀ code, r'.asks = some (handle, code) →
      r' = config.request handle code) :
    Handshake config handle (.answered r status :: log) (inFlight.eraseIdx k ++ sent) d where
  livoxConfig := h.livoxConfig
  bits n := by simp only [h.bits, awaited_answered (hconfirms _)]
  sampling := by rw [h.sampling, completed_cons_of_not_confirms hconfirms]
  requests code := by
    have hrequests := h.requests code
    rw [← outstanding_eraseIdx hr] at hrequests
    rw [settled_answered, announcements_answered, ← hrequests, outstanding_append, hsent]
    by_cases hasks : r.asks = some (handle, code) <;> by_cases hstatus : status = .timeout
      <;> simp [hasks, hstatus]
    omega
  values r' hr' := by
    rcases List.mem_append.mp hr' with hr' | hr'
    · exact h.values r' (List.mem_of_mem_eraseIdx hr')
    · exact hvalues r' hr'
  waiting code hhas ha := by
    rcases h.waiting code hhas ha.2 with hpos | ⟨r', hr', hrefused⟩
    · rw [← outstanding_eraseIdx hr] at hpos
      rw [outstanding_append, hsent]
      by_cases hasks : r.asks = some (handle, code)
      · cases status with
        | success => exact absurd ⟨hasks, rfl⟩ ha.1
        | timeout => exact .inl (by simp [hasks])
        | failure => exact .inr ⟨r, List.mem_cons_self, hasks⟩
      · exact .inl (by simpa [hasks] using hpos)
    · exact .inr ⟨r', List.mem_cons_of_mem _ hr', hrefused⟩

/-- Another lidar is announced. -/
lemma Handshake.announced_other (h : Handshake config handle log inFlight d) {handle' : ℕ}
    (hne : handle' ≠ handle) {sent : List (Request K)}
    (hsent : ∀ r ∈ sent, ∀ code, r.asks ≠ some (handle, code)) :
    Handshake config handle (.announced handle' :: log) (inFlight ++ sent) d where
  livoxConfig := h.livoxConfig
  bits n := by simp only [h.bits, Awaited, or_iff_right hne]
  sampling := by rw [h.sampling, completed_cons_of_not_confirms fun _ => not_confirms_announced]
  requests code := by
    rw [outstanding_append, outstanding_eq_zero fun r hr => hsent r hr code, settled_announced,
      announcements_announced, if_neg hne]
    exact h.requests code
  values r hr code hasks := by
    rcases List.mem_append.mp hr with hr | hr
    · exact h.values r hr code hasks
    · exact absurd hasks (hsent r hr code)
  waiting code hhas ha := by
    rcases h.waiting code hhas (ha.resolve_left hne) with hpos | ⟨r, hr, hrefused⟩
    · exact .inl (by rw [outstanding_append]; omega)
    · exact .inr ⟨r, List.mem_cons_of_mem _ hr, hrefused⟩

/-! ## When nothing is in flight -/

/-- What is awaited stays so until it is confirmed. -/
lemma Awaited.cons {code : ConfigCode} (h : Awaited handle code log) {happening : Happening K}
    (hconfirms : ¬ happening.Confirms handle code) : Awaited handle code (happening :: log) := by
  cases happening with
  | announced handle' => exact .inr h
  | answered r status => exact ⟨hconfirms, h⟩

/-- If a setting was confirmed, the latest confirmation completes the settings, provided that none
is awaited now. -/
lemma completed_of_confirms {happening : Happening K} (hmem : happening ∈ log) {code : ConfigCode}
    (hconfirms : happening.Confirms handle code)
    (hnone : ∀ code, config.has code → ¬ Awaited handle code log) :
    Completed config handle log := by
  induction log with
  | nil => cases hmem
  | cons latest log ih =>
      rw [completed_cons]
      by_cases hlatest : ∃ code, latest.Confirms handle code
      · exact .inl ⟨hlatest, hnone⟩
      · rw [not_exists] at hlatest
        rcases List.mem_cons.mp hmem with rfl | hmem
        · exact absurd hconfirms (hlatest code)
        · exact .inr (ih hmem fun code' hhas ha => hnone code' hhas (ha.cons (hlatest code')))

/-- Only a lidar that was announced and has some setting samples. -/
lemma Handshake.announced_of_sampling (h : Handshake config handle log inFlight d)
    (hsampling : d.connectState = .sampling) :
    0 < announcements handle log ∧ ∃ code, config.has code := by
  rw [h.sampling] at hsampling
  obtain ⟨_ | ⟨happening, log'⟩, hsuffix, hcompletes⟩ := hsampling
  · exact hcompletes.elim
  · obtain ⟨code, hconfirms⟩ := hcompletes.1
    have hsettled : 0 < settled handle code log := by
      refine List.countP_pos_iff.mpr ⟨happening, hsuffix.subset List.mem_cons_self, ?_⟩
      cases happening with
      | announced handle' => exact hconfirms.elim
      | answered r status =>
          obtain ⟨hasks, rfl⟩ := hconfirms
          simp [hasks]
    have hrequests := h.requests code
    split_ifs at hrequests with hhas
    · exact ⟨by omega, code, hhas⟩
    · omega

/-- Without requests in flight and without refusals, such a lidar does sample. -/
lemma Handshake.sampling_of_rest (h : Handshake config handle log inFlight d)
    (hrest : ∀ code, outstanding handle code inFlight = 0)
    (hrefused : ∀ code, ¬ Refused handle code log)
    (hannounced : 0 < announcements handle log) {code : ConfigCode} (hhas : config.has code) :
    d.connectState = .sampling := by
  have hsettled : 0 < settled handle code log := by
    have hrequests := h.requests code
    rw [hrest, Nat.zero_add, if_pos hhas] at hrequests
    rwa [hrequests]
  rw [h.sampling]
  obtain ⟨happening, hmem, hsettles⟩ := List.countP_pos_iff.mp hsettled
  have hconfirms : happening.Confirms handle code := by
    cases happening with
    | announced handle' => cases hsettles
    | answered r status =>
        obtain ⟨hasks, hstatus⟩ := of_decide_eq_true hsettles
        cases status with
        | success => exact ⟨hasks, rfl⟩
        | timeout => exact absurd rfl hstatus
        | failure => exact absurd ⟨r, hmem, hasks⟩ (hrefused code)
  refine completed_of_confirms hmem hconfirms fun code' hhas' hawaited => ?_
  rcases h.waiting code' hhas' hawaited with hpos | hrefused'
  · exact absurd (hrest code') hpos.ne'
  · exact hrefused code' hrefused'

end Device

end SentryNav.LivoxDriver
