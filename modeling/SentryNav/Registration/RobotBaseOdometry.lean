import SentryNav.Core.RotationQuaternion
import SentryNav.Registration.SensorScanGeneration
import Mathlib.Data.Rat.Cast.OfScientific

/-!
# The odometry of the robot base

`publishOdometry` gives the pose of the robot base, and velocities from the difference to the pose
before.  The rotation in between is the quotient of two quaternions that `getRotation` reads off the
two rotation matrices; its angle is taken for the angle of the turn.  It can be more than half a
turn, since the signs of the two quaternions are not chosen together.

* `angular_speed_le_iff` says when it is not, in terms of the matrices, and `angular_speed_eq` what
  is published in either case.
* `yaw_speed_le_iff` is the case of a robot that stays upright; `long_way_round` is a small turn
  that is published as a large one.
-/

section

-- here, as within the namespace `Quaternion` is the message type
open scoped Quaternion

namespace SentryNav.Registration

open Matrix

variable {K : Type*} [Field K] [LinearOrder K]

/-- The functions of tf2 on rotation matrices and quaternions. -/
structure Tf2 (K : Type*) [CommRing K] where
  getRotation : Matrix (Fin 3) (Fin 3) K → ℍ[K]
  getAxis : ℍ[K] → Fin 3 → K
  getAngle : ℍ[K] → K

/-- `nav_msgs::msg::Odometry`, as it is published. -/
structure FullOdometry (K : Type*) where
  header : Header
  childFrameId : String
  pose : Pose K
  twist : Twist K

/-- A vector as a message. -/
def toVector3 (v : Fin 3 → K) : Vector3 K :=
  ⟨vecHead v, vecHead (vecTail v), vecHead (vecTail (vecTail v))⟩

/-- `tf2::toMsg` of a quaternion. -/
def toMsg (q : ℍ[K]) : Quaternion K := ⟨q.imI, q.imJ, q.imK, q.re⟩

/-- The arguments of `publishOdometry`, and what the steady clock shows, in nanoseconds. -/
structure OdometryCall (K : Type*) [CommRing K] where
  transform : Rigid K
  parentFrame : String
  childFrame : String
  stamp : ℤ
  currentTime : ℤ

/-- The static variables of `publishOdometry`.  `previous_transform` need not be a rigid transform:
its constructor sets nothing. -/
structure Statics (K : Type*) where
  previousBasis : Matrix (Fin 3) (Fin 3) K
  previousOrigin : Fin 3 → K
  previousTime : ℤ

/-- The static variables when the first call comes to them. -/
def Statics.initial (now : ℤ) : Statics K := ⟨0, 0, now⟩

/-- `dt`: the seconds between two times of the steady clock. -/
def seconds (previousTime currentTime : ℤ) : K := ((currentTime - previousTime : ℤ) : K) * 1e-9

/-- `angular_velocity`, from the quaternions of the transform and of the one before; `inverse` of a
quaternion is its conjugate. -/
def angularVelocity (tf2 : Tf2 K) (current previous : ℍ[K]) (dt : K) : Fin 3 → K :=
  let qDiff := current * star previous
  fun i => tf2.getAxis qDiff i * tf2.getAngle qDiff / dt

/-- `publishOdometry`: the message, and the static variables afterwards. -/
def publishOdometry (tf2 : Tf2 K) (call : OdometryCall K) (s : Statics K) :
    FullOdometry K × Statics K :=
  let rotation := tf2.getRotation call.transform.basis
  let dt : K := seconds s.previousTime call.currentTime
  let twist : Twist K :=
    if 0 < dt then
      { linear := toVector3 fun i => (call.transform.origin i - s.previousOrigin i) / dt
        angular :=
          toVector3 (angularVelocity tf2 rotation (tf2.getRotation s.previousBasis) dt) }
    else default
  ({ header := { stamp := call.stamp, frameId := call.parentFrame }
     childFrameId := call.childFrame
     pose := { position := toVector3 call.transform.origin, orientation := toMsg rotation }
     twist := twist },
    { previousBasis := call.transform.basis
      previousOrigin := call.transform.origin
      previousTime := call.currentTime })

/-- The message of the second of two successive calls. -/
def published (tf2 : Tf2 K) (s : Statics K) (first second : OdometryCall K) : FullOdometry K :=
  (publishOdometry tf2 second (publishOdometry tf2 first s).2).1

/-! ## The angular speed -/

/-- The length of a vector. -/
noncomputable def length (v : Fin 3 → ℝ) : ℝ := √(∑ i, v i ^ 2)

/-- The length of a vector in a message. -/
noncomputable def magnitude (v : Vector3 ℝ) : ℝ := √(v.x ^ 2 + v.y ^ 2 + v.z ^ 2)

lemma magnitude_toVector3 (v : Fin 3 → ℝ) : magnitude (toVector3 v) = length v := by
  rw [length, Fin.sum_univ_three]
  rfl

lemma length_smul {r : ℝ} (hr : 0 ≤ r) (v : Fin 3 → ℝ) : length (r • v) = r * length v := by
  have hsquares : ∑ i, (r • v) i ^ 2 = r ^ 2 * ∑ i, v i ^ 2 := by
    simp only [Pi.smul_apply, smul_eq_mul, mul_pow, Finset.mul_sum]
  rw [length, length, hsquares, Real.sqrt_mul (sq_nonneg r), Real.sqrt_sq hr]

/-- The vector part of a quaternion. -/
def vectorPart (q : ℍ[K]) : Fin 3 → K := ![q.imI, q.imJ, q.imK]

/-- What the functions of tf2 do without rounding.  A quaternion without a vector part has an
arbitrary axis. -/
structure Tf2.Exact (tf2 : Tf2 ℝ) : Prop where
  getRotation : ∀ T : Rigid ℝ, Rotation.Chosen T.basis (tf2.getRotation T.basis)
  getAngle : ∀ q, tf2.getAngle q = 2 * Real.arccos q.re
  getAxis : ∀ q, vectorPart q ≠ 0 → tf2.getAxis q = (length (vectorPart q))⁻¹ • vectorPart q
  getAxis_arbitrary : ∀ q, vectorPart q = 0 → length (tf2.getAxis q) = 1

variable {tf2 : Tf2 ℝ}

lemma length_pos {v : Fin 3 → ℝ} (h : v ≠ 0) : 0 < length v := by
  obtain ⟨i, hi⟩ := Function.ne_iff.mp h
  rw [length, Real.sqrt_pos]
  exact Finset.sum_pos' (fun i _ => sq_nonneg (v i)) ⟨i, Finset.mem_univ i, sq_pos_iff.mpr hi⟩

/-- An axis has the length one. -/
lemma Tf2.Exact.length_getAxis (h : tf2.Exact) (q : ℍ[ℝ]) : length (tf2.getAxis q) = 1 := by
  by_cases hq : vectorPart q = 0
  · exact h.getAxis_arbitrary q hq
  · have hpos := length_pos hq
    rw [h.getAxis q hq, length_smul (inv_nonneg.mpr hpos.le), inv_mul_cancel₀ hpos.ne']

/-- The angular speed is the angle that is read off, in the time between. -/
lemma Tf2.Exact.length_angularVelocity (h : tf2.Exact) (current previous : ℍ[ℝ]) {dt : ℝ}
    (hdt : 0 < dt) :
    length (angularVelocity tf2 current previous dt)
      = 2 * Real.arccos (current * star previous).re / dt := by
  have hangle : 0 ≤ 2 * Real.arccos (current * star previous).re / dt :=
    div_nonneg (mul_nonneg zero_le_two (Real.arccos_nonneg _)) hdt.le
  have hsmul : angularVelocity tf2 current previous dt
      = (2 * Real.arccos (current * star previous).re / dt)
        • tf2.getAxis (current * star previous) := by
    funext i
    rw [angularVelocity, h.getAngle, Pi.smul_apply, smul_eq_mul]
    ring
  rw [hsmul, length_smul hangle, h.length_getAxis, mul_one]

/-- The angular velocity that is published, if time has passed. -/
lemma publishOdometry_angular (tf2 : Tf2 K) (call : OdometryCall K) (s : Statics K)
    (hdt : 0 < (seconds s.previousTime call.currentTime : K)) :
    (publishOdometry tf2 call s).1.twist.angular
      = toVector3 (angularVelocity tf2 (tf2.getRotation call.transform.basis)
          (tf2.getRotation s.previousBasis) (seconds s.previousTime call.currentTime)) := by
  simp only [publishOdometry, if_pos hdt]

lemma published_angular (tf2 : Tf2 K) (s : Statics K) {first second : OdometryCall K}
    (hdt : 0 < (seconds first.currentTime second.currentTime : K)) :
    (published tf2 s first second).twist.angular
      = toVector3 (angularVelocity tf2 (tf2.getRotation second.transform.basis)
          (tf2.getRotation first.transform.basis)
          (seconds first.currentTime second.currentTime)) :=
  publishOdometry_angular tf2 second (publishOdometry tf2 first s).2 hdt

lemma Tf2.Exact.magnitude_le_iff {tf2 : Tf2 ℝ} (h : tf2.Exact) (s : Statics ℝ)
    {first second : OdometryCall ℝ}
    (hdt : 0 < (seconds first.currentTime second.currentTime : ℝ)) :
    magnitude (published tf2 s first second).twist.angular
        ≤ Real.pi / seconds first.currentTime second.currentTime ↔
      Rotation.SameSide first.transform.basis second.transform.basis := by
  rw [published_angular tf2 s hdt, magnitude_toVector3, h.length_angularVelocity _ _ hdt,
    div_le_div_iff_of_pos_right hdt]
  exact Rotation.two_arccos_le_pi_iff (h.getRotation _) (h.getRotation _)

/-- **Whether the published rotation is the shortest one**: for every two successive transforms with
time in between, the angular speed is at most half a turn in this time exactly if the quaternions
for the two were chosen on the same side, which can be told from the matrices.  With the opposite of
either quaternion, what is missing to a full turn would be published. -/
theorem angular_speed_le_iff (tf2 : Tf2 ℝ) (htf2 : tf2.Exact) (s : Statics ℝ)
    (first second : OdometryCall ℝ)
    (hdt : 0 < (seconds first.currentTime second.currentTime : ℝ)) :
    (magnitude (published tf2 s first second).twist.angular
        ≤ Real.pi / seconds first.currentTime second.currentTime ↔
      Rotation.SameSide first.transform.basis second.transform.basis) ∧
    magnitude (toVector3 (angularVelocity tf2 (-tf2.getRotation second.transform.basis)
        (tf2.getRotation first.transform.basis) (seconds first.currentTime second.currentTime)))
      = 2 * Real.pi / seconds first.currentTime second.currentTime
        - magnitude (published tf2 s first second).twist.angular ∧
    magnitude (toVector3 (angularVelocity tf2 (tf2.getRotation second.transform.basis)
        (-tf2.getRotation first.transform.basis) (seconds first.currentTime second.currentTime)))
      = 2 * Real.pi / seconds first.currentTime second.currentTime
        - magnitude (published tf2 s first second).twist.angular := by
  refine ⟨htf2.magnitude_le_iff s hdt, ?_⟩
  simp only [published_angular tf2 s hdt, magnitude_toVector3, htf2.length_angularVelocity _ _ hdt]
  constructor
  · have hneg := Rotation.re_neg_mul_star (tf2.getRotation second.transform.basis)
      (tf2.getRotation first.transform.basis)
    rw [hneg, Real.arccos_neg]
    ring
  · have hneg := Rotation.re_mul_star_neg (tf2.getRotation second.transform.basis)
      (tf2.getRotation first.transform.basis)
    rw [hneg, Real.arccos_neg]
    ring

/-- **The angular speed that is published**: the angle between the two rotations in the time
between, or that of the rest of the full turn. -/
theorem angular_speed_eq (tf2 : Tf2 ℝ) (htf2 : tf2.Exact) (s : Statics ℝ)
    {first second : OdometryCall ℝ}
    (hdt : 0 < (seconds first.currentTime second.currentTime : ℝ)) :
    (Rotation.SameSide first.transform.basis second.transform.basis →
      magnitude (published tf2 s first second).twist.angular
        = Rotation.turn first.transform.basis second.transform.basis
          / seconds first.currentTime second.currentTime) ∧
    (¬ Rotation.SameSide first.transform.basis second.transform.basis →
      magnitude (published tf2 s first second).twist.angular
        = (2 * Real.pi - Rotation.turn first.transform.basis second.transform.basis)
          / seconds first.currentTime second.currentTime) := by
  obtain ⟨hsame, hopposite⟩ := Rotation.two_arccos_eq (htf2.getRotation first.transform)
    (htf2.getRotation second.transform)
  rw [published_angular tf2 s hdt, magnitude_toVector3, htf2.length_angularVelocity _ _ hdt]
  exact ⟨fun h => by rw [hsame h], fun h => by rw [hopposite h]⟩

/-! ## A robot that turns on the spot -/

/-- The functions of tf2 without rounding. -/
noncomputable def exactTf2 : Tf2 ℝ where
  getRotation := Rotation.ofMatrix
  getAxis q :=
    if vectorPart q = 0 then ![1, 0, 0] else (length (vectorPart q))⁻¹ • vectorPart q
  getAngle q := 2 • Real.arccos q.re

lemma exactTf2_exact : exactTf2.Exact where
  getRotation := Rotation.chosen_ofMatrix
  getAngle q := (two_nsmul (Real.arccos q.re)).trans (two_mul _).symm
  getAxis _ h := if_neg h
  getAxis_arbitrary q h := by
    have haxis : exactTf2.getAxis q = ![1, 0, 0] := if_pos h
    rw [haxis, length, Fin.sum_univ_three]
    simp

/-- A transform that turns about the vertical axis, by an angle with this cosine and sine. -/
def yaw (c s : ℝ) (h : c ^ 2 + s ^ 2 = 1) : Rigid ℝ where
  basis := !![c, -s, 0; s, c, 0; 0, 0, 1]
  origin := 0
  orthogonal := by
    ext i j
    fin_cases i <;> fin_cases j <;> simp [Matrix.mul_apply, Fin.sum_univ_three] <;>
      first
      | ring1
      | linear_combination h
  special := by
    rw [Matrix.det_fin_three]
    simp
    linear_combination h

/-- Within a third of a turn to either side the real part is made positive, and beyond that the
vertical one. -/
lemma pivot_yaw {c s : ℝ} (h : c ^ 2 + s ^ 2 = 1) :
    Rotation.pivot (yaw c s h).basis = if 0 < 1 + 2 * c then .w else .z := by
  have htrace : c + c + 1 = 1 + 2 * c := by ring
  simp only [Rotation.pivot, yaw, Matrix.of_apply, Matrix.cons_val, htrace, lt_irrefl, if_false]
  by_cases hfront : 0 < 1 + 2 * c
  · rw [if_pos hfront, if_pos hfront]
  · have hback : c < 1 := by linarith
    rw [if_neg hfront, if_neg hfront]
    exact if_pos hback

lemma pivotColumn_front {c s : ℝ} (h : c ^ 2 + s ^ 2 = 1) (hfront : 0 < 1 + 2 * c) :
    Rotation.pivotColumn (yaw c s h).basis = ⟨2 + 2 * c, 0, 0, 2 * s⟩ := by
  rw [Rotation.pivotColumn, pivot_yaw, if_pos hfront]
  refine Rotation.component_ext fun i => ?_
  cases i <;> simp [Rotation.component, Rotation.column, yaw] <;> ring

lemma pivotColumn_back {c s : ℝ} (h : c ^ 2 + s ^ 2 = 1) (hback : ¬ 0 < 1 + 2 * c) :
    Rotation.pivotColumn (yaw c s h).basis = ⟨2 * s, 0, 0, 2 - 2 * c⟩ := by
  rw [Rotation.pivotColumn, pivot_yaw, if_neg hback]
  refine Rotation.component_ext fun i => ?_
  cases i <;> simp [Rotation.component, Rotation.column, yaw] <;> ring

/-- Turning about the vertical axis by an angle. -/
noncomputable def yawBy (θ : ℝ) : Rigid ℝ :=
  yaw (Real.cos θ) (Real.sin θ) (Real.cos_sq_add_sin_sq θ)

/-- The column of the pivot points along the half of the angle, which is taken between -60 and 120
degrees. -/
lemma pivotColumn_yawBy {θ : ℝ} (hlow : -(2 * Real.pi / 3) < θ) (hhigh : θ ≤ 4 * Real.pi / 3) :
    ∃ r, 0 < r ∧ Rotation.pivotColumn (yawBy θ).basis
      = ⟨r * Real.cos (θ / 2), 0, 0, r * Real.sin (θ / 2)⟩ := by
  have hpi := Real.pi_pos
  have hcos : Real.cos θ = 2 * Real.cos (θ / 2) ^ 2 - 1 := by
    rw [← Real.cos_two_mul, mul_div_cancel₀ θ two_ne_zero]
  have hsin : Real.sin θ = 2 * Real.sin (θ / 2) * Real.cos (θ / 2) := by
    rw [← Real.sin_two_mul, mul_div_cancel₀ θ two_ne_zero]
  have hsquares := Real.sin_sq_add_cos_sq (θ / 2)
  -- up to a half angle of 60 degrees the cosine is large enough
  have hleft : θ ≤ 0 → 1 / 2 < Real.cos (θ / 2) := by
    intro hneg
    rw [← Real.cos_pi_div_three, ← Real.cos_neg (θ / 2)]
    exact Real.cos_lt_cos_of_nonneg_of_le_pi (by linarith) (by linarith) (by linarith)
  by_cases hfront : 0 < 1 + 2 * Real.cos θ
  · have hlarge : 0 < (Real.cos (θ / 2) + 1 / 2) * (Real.cos (θ / 2) - 1 / 2) := by
      rw [hcos] at hfront
      linarith
    have hright : 0 ≤ Real.cos (θ / 2) + 1 / 2 := by
      rcases le_or_gt θ 0 with hneg | hnonneg
      · linarith [hleft hneg]
      · have hthird : Real.cos (Real.pi - Real.pi / 3) ≤ Real.cos (θ / 2) :=
          Real.cos_le_cos_of_nonneg_of_le_pi (by linarith) (by linarith) (by linarith)
        rw [Real.cos_pi_sub, Real.cos_pi_div_three] at hthird
        linarith
    have hpos : 0 < Real.cos (θ / 2) := by linarith [pos_of_mul_pos_right hlarge hright]
    refine ⟨4 * Real.cos (θ / 2), by linarith, ?_⟩
    rw [yawBy, pivotColumn_front _ hfront, hcos, hsin]
    congr 1 <;> ring
  · have hnonneg : 0 < θ := by
      by_contra hneg
      have hlarge := hleft (not_lt.mp hneg)
      rw [hcos] at hfront
      nlinarith
    have hpos : 0 < Real.sin (θ / 2) :=
      Real.sin_pos_of_pos_of_lt_pi (by linarith) (by linarith)
    refine ⟨4 * Real.sin (θ / 2), by linarith, ?_⟩
    rw [yawBy, pivotColumn_back _ hfront, hcos, hsin]
    congr 1
    · ring
    · linear_combination (-4) * hsquares

/-- **Turns about the vertical axis**: the chosen quaternions are on the same side exactly if the
two angles, taken between -120 and 240 degrees, are not more than half a turn apart. -/
theorem sameSide_yawBy_iff {θ θ' : ℝ} (hlow : -(2 * Real.pi / 3) < θ) (hhigh : θ ≤ 4 * Real.pi / 3)
    (hlow' : -(2 * Real.pi / 3) < θ') (hhigh' : θ' ≤ 4 * Real.pi / 3) :
    Rotation.SameSide (yawBy θ).basis (yawBy θ').basis ↔ |θ' - θ| ≤ Real.pi := by
  obtain ⟨r, hr, hcolumn⟩ := pivotColumn_yawBy hlow hhigh
  obtain ⟨r', hr', hcolumn'⟩ := pivotColumn_yawBy hlow' hhigh'
  have hproduct : r' * Real.cos (θ' / 2) * (r * Real.cos (θ / 2)) + 0 * 0 + 0 * 0
      + r' * Real.sin (θ' / 2) * (r * Real.sin (θ / 2))
        = r' * r * Real.cos (|θ' - θ| / 2) := by
    have hhalf : |θ' - θ| / 2 = |θ' / 2 - θ / 2| := by
      rw [← sub_div, abs_div, abs_two]
    rw [hhalf, Real.cos_abs, Real.cos_sub]
    ring
  rw [Rotation.SameSide, Rotation.re_mul_star, hcolumn, hcolumn', hproduct,
    mul_nonneg_iff_of_pos_left (mul_pos hr' hr)]
  have hspan : |θ' - θ| < 2 * Real.pi := abs_lt.mpr ⟨by linarith, by linarith⟩
  constructor
  · intro hcos
    by_contra hfar
    have hneg := Real.cos_neg_of_pi_div_two_lt_of_lt (x := |θ' - θ| / 2) (by linarith)
      (by linarith [Real.pi_pos])
    exact absurd hcos hneg.not_ge
  · intro hnear
    have hnonneg := abs_nonneg (θ' - θ)
    exact Real.cos_nonneg_of_neg_pi_div_two_le_of_le (by linarith [Real.pi_pos]) (by linarith)

/-- **A robot that turns about the vertical axis**: what is published is not the shortest rotation
exactly if the angle, taken between -120 and 240 degrees, changes by more than half a turn. -/
theorem yaw_speed_le_iff (tf2 : Tf2 ℝ) (htf2 : tf2.Exact) (s : Statics ℝ)
    {first second : OdometryCall ℝ}
    (hdt : 0 < (seconds first.currentTime second.currentTime : ℝ)) {θ θ' : ℝ}
    (hlow : -(2 * Real.pi / 3) < θ) (hhigh : θ ≤ 4 * Real.pi / 3)
    (hlow' : -(2 * Real.pi / 3) < θ') (hhigh' : θ' ≤ 4 * Real.pi / 3)
    (hfirst : first.transform.basis = (yawBy θ).basis)
    (hsecond : second.transform.basis = (yawBy θ').basis) :
    magnitude (published tf2 s first second).twist.angular
        ≤ Real.pi / seconds first.currentTime second.currentTime ↔
      |θ' - θ| ≤ Real.pi := by
  rw [htf2.magnitude_le_iff s hdt, hfirst, hsecond]
  exact sameSide_yawBy_iff hlow hhigh hlow' hhigh'

/-- A call with a transform, at a time. -/
def callAt (transform : Rigid ℝ) (currentTime : ℤ) : OdometryCall ℝ where
  transform := transform
  parentFrame := "odom"
  childFrame := "gimbal_yaw"
  stamp := currentTime
  currentTime := currentTime

/-- A turn of sixteen degrees, straight ahead, in a tenth of a second. -/
theorem angular_speed_le_ahead :
    magnitude (published exactTf2 (.initial 0) (callAt (yaw (4 / 5) (3 / 5) (by norm_num)) 0)
        (callAt (yaw (3 / 5) (4 / 5) (by norm_num)) 100000000)).twist.angular
      ≤ Real.pi / seconds 0 100000000 := by
  have hsame : Rotation.SameSide (yaw (4 / 5) (3 / 5) (by norm_num)).basis
      (yaw (3 / 5) (4 / 5) (by norm_num)).basis := by
    rw [Rotation.SameSide, Rotation.re_mul_star, pivotColumn_front _ (by norm_num),
      pivotColumn_front _ (by norm_num)]
    norm_num
  refine (angular_speed_le_iff exactTf2 exactTf2_exact (.initial 0) (callAt _ 0)
    (callAt _ 100000000) ?_).1.mpr hsame
  norm_num [callAt, seconds]

/-- **A turn of fourteen degrees is published as one of 346 to the other side**, when it leads over
a third of a turn to the right. -/
theorem long_way_round :
    exactTf2.Exact ∧ 0 < (seconds 0 100000000 : ℝ) ∧
      Rotation.turn (yaw (-5 / 13) (-12 / 13) (by norm_num)).basis
          (yaw (-3 / 5) (-4 / 5) (by norm_num)).basis = Real.arccos (63 / 65) ∧
      ¬ magnitude (published exactTf2 (.initial 0)
            (callAt (yaw (-5 / 13) (-12 / 13) (by norm_num)) 0)
            (callAt (yaw (-3 / 5) (-4 / 5) (by norm_num)) 100000000)).twist.angular
          ≤ Real.pi / seconds 0 100000000 := by
  have hdt : 0 < (seconds 0 100000000 : ℝ) := by norm_num [seconds]
  refine ⟨exactTf2_exact, hdt, ?_, ?_⟩
  · rw [Rotation.turn]
    congr 1
    simp only [yaw, Matrix.trace_fin_three, Matrix.mul_apply, Fin.sum_univ_three,
      Matrix.transpose_apply, Matrix.of_apply, Matrix.cons_val]
    norm_num
  · refine mt (exactTf2_exact.magnitude_le_iff (.initial 0) hdt).mp ?_
    have hopposite : ¬ Rotation.SameSide (yaw (-5 / 13) (-12 / 13) (by norm_num)).basis
        (yaw (-3 / 5) (-4 / 5) (by norm_num)).basis := by
      rw [Rotation.SameSide, Rotation.re_mul_star, pivotColumn_back _ (by norm_num),
        pivotColumn_front _ (by norm_num)]
      norm_num
    exact hopposite

end SentryNav.Registration

end
