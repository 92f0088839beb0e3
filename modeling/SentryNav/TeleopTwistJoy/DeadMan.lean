import SentryNav.TeleopTwistJoy.Node
import Mathlib.Data.List.GetD
import Mathlib.Data.Rat.Floor

/-!
# The dead-man switch

When no button is held that enables the joystick, the robot should be at rest: the last velocity
command is zero, and nothing is sent to the gimbal or the gun.  The velocity is zeroed once, on
release, by way of `sent_disable_msg_`: `ReleaseInv` is what that flag stands for in every run.  The
gimbal is driven in the same branches.  But `fillShootMsg` is called after them, for every message.

`deadMan_iff` is what this comes to in every run: the switch works just when in no message the shoot
axis is held while the buttons are not.  `trigger_without_enable` is a message that shoots.
-/

namespace SentryNav.TeleopTwistJoy

open Machine

variable {K : Type*}

/-! ## What should hold -/

/-- A button of the message is held. -/
def Pressed (joy : JoyEvent K) (i : ℤ) : Prop :=
  0 ≤ i ∧ ∃ value, joy.buttons[i.toNat]? = some value ∧ value ≠ 0

/-- Neither button that enables the joystick is held. -/
structure Released (cfg : Config K) (joy : JoyEvent K) : Prop where
  enable : ¬ Pressed joy cfg.enableButton
  turbo : ¬ Pressed joy cfg.enableTurboButton

/-- The velocity that an output commands. -/
def Output.velocity : Output K → Option (Twist K)
  | .cmdVel msg => some msg
  | .cmdVelStamped msg => some msg.twist
  | _ => none

/-- The velocity commanded last, of outputs listed newest first. -/
def lastCmdVel (outputs : List (Output K)) : Option (Twist K) := outputs.findSome? Output.velocity

variable [Field K] [LinearOrder K]

/-- A message leaves the robot at rest: `outputs` is what it has sent, and `soFar` is all that has
been sent, newest first. -/
structure AtRest (soFar outputs : List (Output K)) : Prop where
  velocity : ∀ twist, lastCmdVel soFar = some twist → twist = default
  gimbal : ∀ msg, .cmdGimbalJoint msg ∉ outputs
  shoot : ∀ data, .cmdShoot data ∈ outputs → data = some 0

/-- A message without a button held leaves the robot at rest. -/
def DeadMan [FloorRing K] (cfg : Config K) (past : Past (JoyEvent K) (Output K)) (s : State K)
    (joy : JoyEvent K) : Prop :=
  Released cfg joy →
    AtRest (past.step joy (joyCallback cfg s joy).2).outputs (joyCallback cfg s joy).2

/-- The shoot axis is not configured, or not there, or not held far enough to make a one. -/
def ShootIdle (cfg : Config K) (joy : JoyEvent K) : Prop :=
  ∀ axis, cfg.axisGimbalMap.lookup "shoot" = some axis →
    ∀ scale, (cfg.scaleGimbalMap .normal).lookup "shoot" = some scale →
      axis = -1 ∨ toInt joy.axes.length ≤ axis ∨
        |vectorAt joy.axes joy.outsideAxes axis * scale| < 1

/-! ## Reading a message -/

lemma bmod_le (size modulus : ℕ) : Int.bmod size modulus ≤ size := by
  have hmod : (size : ℤ) % modulus ≤ size := by
    rw [← Int.natCast_mod]
    exact Int.ofNat_le.mpr (Nat.mod_le _ _)
  rw [Int.bmod_def]
  split
  · exact hmod
  · exact (Int.sub_le_self _ (Int.natCast_nonneg _)).trans hmod

omit [Field K] [LinearOrder K] in
lemma pressed_of_buttonDown {joy : JoyEvent K} {i : ℤ} (hi : 0 ≤ i) (h : buttonDown joy i = true) :
    Pressed joy i := by
  simp only [buttonDown, Bool.and_eq_true, decide_eq_true_iff, bne_iff_ne, vectorAt, if_pos hi] at h
  obtain ⟨hlt, hvalue⟩ := h
  have hthere : i.toNat < joy.buttons.length := by
    have : toInt joy.buttons.length ≤ joy.buttons.length := bmod_le _ _
    omega
  rw [List.getD_eq_getElem _ _ hthere] at hvalue
  exact ⟨hi, _, List.getElem?_eq_getElem hthere, hvalue⟩

lemma toUInt8_eq_zero_iff [FloorRing K] [IsStrictOrderedRing K] {v : K} :
    toUInt8 v = some 0 ↔ |v| < 1 := by
  rw [← Raster.trunc_eq_zero_iff, toUInt8]
  split
  · next hfits =>
      rw [Option.some.injEq, ← UInt8.toNat_inj, UInt8.toNat_ofNat']
      show (Raster.trunc v).toNat % 256 = 0 ↔ Raster.trunc v = 0
      omega
  · next hnot =>
      refine iff_of_false nofun fun hzero => hnot ?_
      rw [hzero]
      decide

/-- The shoot command is zero just when the shoot axis is idle. -/
theorem fillShootMsg_eq_zero_iff [FloorRing K] [IsStrictOrderedRing K] (cfg : Config K)
    (joy : JoyEvent K) : fillShootMsg cfg joy .normal = some 0 ↔ ShootIdle cfg joy := by
  rw [fillShootMsg, toUInt8_eq_zero_iff, getVal, ShootIdle]
  split
  · next axis scale haxis hscale =>
      simp only [haxis, hscale, Option.some.injEq, forall_eq', ← or_assoc]
      split
      · next hskip => simp [hskip]
      · next hread => simp only [hread, false_or]
  · next hnone =>
      refine iff_of_true (by simp) fun axis haxis scale hscale => ?_
      exact absurd hscale (hnone axis scale haxis)

/-! ## What a message does -/

omit [Field K] [LinearOrder K] in
@[simp] lemma velocity_publishCmdVel (cfg : Config K) (joy : JoyEvent K) (twist : Twist K) :
    (publishCmdVel cfg joy twist).velocity = some twist := by
  rw [publishCmdVel]
  split <;> rfl

omit [Field K] [LinearOrder K] in
@[simp] lemma lastCmdVel_cons (o : Output K) (outputs : List (Output K)) :
    lastCmdVel (o :: outputs) = o.velocity.or (lastCmdVel outputs) := by
  rw [lastCmdVel, List.findSome?_cons]
  cases o.velocity <;> rfl

omit [Field K] [LinearOrder K] in
@[simp] lemma velocity_cmdShoot (data : Option UInt8) :
    (Output.cmdShoot data : Output K).velocity = none := rfl

lemma moveOrStop_cases (cfg : Config K) (joy : JoyEvent K) (s : State K) :
    (∃ which, moveOrStop cfg joy s = sendCmdVelMsg cfg joy which s) ∨
      moveOrStop cfg joy s = stop cfg joy s := by
  rw [moveOrStop]
  split
  · exact Or.inl ⟨.turbo, rfl⟩
  · split
    · exact Or.inl ⟨.normal, rfl⟩
    · exact Or.inr rfl

lemma moveOrStop_released {cfg : Config K} (hrequire : cfg.requireEnableButton = true)
    (henable : 0 ≤ cfg.enableButton) {joy : JoyEvent K} (h : Released cfg joy) (s : State K) :
    moveOrStop cfg joy s = stop cfg joy s := by
  have hturbo : ¬ (0 ≤ cfg.enableTurboButton && buttonDown joy cfg.enableTurboButton) = true := by
    simp only [Bool.and_eq_true, decide_eq_true_iff, not_and]
    exact fun hpos hdown => h.turbo (pressed_of_buttonDown hpos hdown)
  have hnormal : ¬ (!cfg.requireEnableButton || buttonDown joy cfg.enableButton) = true := by
    simp only [hrequire, Bool.not_true, Bool.false_or]
    exact fun hdown => h.enable (pressed_of_buttonDown henable hdown)
  rw [moveOrStop, if_neg hturbo, if_neg hnormal]

/-- What is known of the velocity that was commanded last: unless it is zero, the flag that asks for
a stop is set. -/
def ReleaseInv (past : Past (JoyEvent K) (Output K)) (s : State K) : Prop :=
  s.sentDisableMsg = false → ∀ twist, lastCmdVel past.outputs = some twist → twist = default

omit [LinearOrder K] in
lemma releaseInv_init (sentDisableMsg : Bool) (dt : K) :
    ReleaseInv .start (State.init sentDisableMsg dt) := by
  rintro - twist hlast
  exact absurd hlast (by simp [lastCmdVel, Past.start])

omit [LinearOrder K] in
/-- After a stop the velocity commanded last is zero. -/
lemma ReleaseInv.stop {past : Past (JoyEvent K) (Output K)} {s : State K} (h : ReleaseInv past s)
    (cfg : Config K) (joy : JoyEvent K) (data : Option UInt8) :
    ∀ twist, lastCmdVel (past.step joy ((stop cfg joy (measureTime joy s)).2 ++
      [.cmdShoot data])).outputs = some twist → twist = default := by
  intro twist hlast
  rw [TeleopTwistJoy.stop] at hlast
  split at hlast
  · simpa [Past.step, sendZeroCommand, eq_comm] using hlast
  · next hunset =>
      refine h (Bool.eq_false_iff.mpr hunset) twist ?_
      simpa [Past.step] using hlast

omit [LinearOrder K] in
/-- A stop, and the shoot command after it, have nothing for the gimbal. -/
lemma mem_stop {cfg : Config K} {joy : JoyEvent K} {s : State K} {data : Option UInt8}
    {o : Output K} (h : o ∈ (stop cfg joy s).2 ++ [.cmdShoot data]) :
    o = .cancelGoalsBefore joy.now ∨ (∃ twist, o.velocity = some twist) ∨ o = .cmdShoot data := by
  simp only [TeleopTwistJoy.stop, sendZeroCommand] at h
  split at h
  · simp only [List.mem_append, List.mem_singleton, List.mem_ite_nil_right] at h
    rcases h with (⟨-, hcancel⟩ | hzero) | hshoot
    · exact Or.inl hcancel
    · rw [hzero]
      exact Or.inr (Or.inl ⟨default, velocity_publishCmdVel cfg joy default⟩)
    · exact Or.inr (Or.inr hshoot)
  · exact Or.inr (Or.inr (List.mem_singleton.mp h))

variable [FloorRing K]

lemma ReleaseInv.step {past : Past (JoyEvent K) (Output K)} {s : State K} (h : ReleaseInv past s)
    (cfg : Config K) (joy : JoyEvent K) :
    ReleaseInv (past.step joy (joyCallback cfg s joy).2) (joyCallback cfg s joy).1 := by
  rw [joyCallback]
  rcases moveOrStop_cases cfg joy (measureTime joy s) with ⟨which, hmove⟩ | hmove
  · intro hunset
    rw [hmove] at hunset
    exact absurd hunset (by simp [sendCmdVelMsg])
  · intro _
    rw [hmove]
    exact h.stop cfg joy _

/-- **One message.**  If no button is held, it leaves the robot at rest just when the shoot axis is
idle. -/
theorem ReleaseInv.atRest_iff [IsStrictOrderedRing K] {past : Past (JoyEvent K) (Output K)}
    {s : State K} (h : ReleaseInv past s) {cfg : Config K}
    (hrequire : cfg.requireEnableButton = true) (henable : 0 ≤ cfg.enableButton)
    (joy : JoyEvent K) :
    DeadMan cfg past s joy ↔ (Released cfg joy → ShootIdle cfg joy) := by
  refine forall_congr' fun hreleased => ?_
  rw [joyCallback, moveOrStop_released hrequire henable hreleased, ← fillShootMsg_eq_zero_iff]
  constructor
  · intro hrest
    exact hrest.shoot _ (List.mem_append_right _ (List.mem_singleton_self _))
  · intro hzero
    refine ⟨h.stop cfg joy _, fun msg hmsg => ?_, fun data hdata => ?_⟩
    · rcases mem_stop hmsg with hcancel | ⟨twist, hvelocity⟩ | hshoot
      · exact absurd hcancel nofun
      · exact absurd hvelocity nofun
      · exact absurd hshoot nofun
    · rcases mem_stop hdata with hcancel | ⟨twist, hvelocity⟩ | hshoot
      · exact absurd hcancel nofun
      · exact absurd hvelocity nofun
      · rw [Output.cmdShoot.inj hshoot]
        exact hzero

/-- **When the dead-man switch works.**  In every run of a node that requires the enable button,
every message without a button held leaves the robot at rest, just when in none of them the shoot
axis is held. -/
theorem deadMan_iff [IsStrictOrderedRing K] (cfg : Config K)
    (hrequire : cfg.requireEnableButton = true) (henable : 0 ≤ cfg.enableButton)
    (sentDisableMsg : Bool) (dt : K) (events : List (JoyEvent K)) :
    Admissible (joyCallback cfg) (DeadMan cfg) .start (State.init sentDisableMsg dt) events ↔
      ∀ joy ∈ events, Released cfg joy → ShootIdle cfg joy := by
  have hmem : Admissible (joyCallback cfg) (fun _ _ joy => Released cfg joy → ShootIdle cfg joy)
      .start (State.init sentDisableMsg dt) events ↔
        ∀ joy ∈ events, Released cfg joy → ShootIdle cfg joy := admissible_iff_forall_mem
  rw [← hmem]
  exact admissible_congr ReleaseInv (fun _ _ joy h => h.step cfg joy)
    (fun _ _ joy h => h.atRest_iff hrequire henable joy) events .start _
    (releaseInv_init sentDisableMsg dt)

/-- A message of a joystick whose axes 0 to 4 are at rest. -/
def joyMessage (axis5 : ℚ) (buttons : List ℤ) : JoyEvent ℚ where
  axes := [0, 0, 0, 0, 0, axis5]
  buttons := buttons
  outsideAxes _ := 0
  outsideButtons _ := 0
  now := 0
  transform := none

/-- Driving with the button held, and letting go of everything. -/
theorem deadMan_let_go :
    Admissible (joyCallback Config.declared) (DeadMan Config.declared) .start (State.init false 0)
      [joyMessage 1 [0, 0, 0, 0, 0, 1], joyMessage 0 [0, 0, 0, 0, 0, 0]] := by
  refine (deadMan_iff Config.declared rfl (by decide) false 0 _).mpr fun joy hmem hreleased => ?_
  simp only [List.mem_cons, List.not_mem_nil, or_false] at hmem
  rcases hmem with rfl | rfl
  · exact absurd ⟨by decide, 1, rfl, by decide⟩ hreleased.enable
  · rw [← fillShootMsg_eq_zero_iff]
    decide +kernel

/-- **Shooting without the enable button.**  With the parameters as declared, the trigger alone
makes the robot shoot. -/
theorem trigger_without_enable :
    ¬ ∀ (cfg : Config ℚ) (sentDisableMsg : Bool) (dt : ℚ) (events : List (JoyEvent ℚ)),
      cfg.requireEnableButton = true → 0 ≤ cfg.enableButton → cfg.controlMode = "manual_control" →
      Admissible (joyCallback cfg) (DeadMan cfg) .start (State.init sentDisableMsg dt) events := by
  intro hsafe
  have hrun := hsafe Config.declared false 0 [joyMessage 1 []] rfl (by decide) rfl
  have hreleased : Released (Config.declared : Config ℚ) (joyMessage 1 []) :=
    { enable := by rintro ⟨-, value, hvalue, -⟩; exact absurd hvalue nofun
      turbo := by rintro ⟨hneg, -⟩; exact absurd hneg (by decide) }
  have hshoot : fillShootMsg Config.declared (joyMessage 1 []) .normal = some 1 := by decide +kernel
  have hzero := (hrun.1 hreleased).shoot (some 1)
  rw [joyCallback, hshoot] at hzero
  exact absurd (hzero (List.mem_append_right _ (List.mem_singleton_self _))) (by decide)

end SentryNav.TeleopTwistJoy
