import SentryNav.Core.Rigid
import Mathlib.Algebra.Quaternion
import Mathlib.LinearAlgebra.Matrix.Adjugate
import Mathlib.Analysis.SpecialFunctions.Trigonometric.Inverse
import Mathlib.Tactic.LinearCombination
import Mathlib.Tactic.Linarith

/-!
# Rotations as quaternions

A unit quaternion stands for a rotation, and its opposite stands for the same one.  Who reads a
quaternion off a rotation matrix has to choose, and the usual choice is to make one component
positive, the `pivot`.  Which one that is depends on the matrix, so two rotations that are close can
be given quaternions that are nearly opposite.

* `Chosen` says which quaternion is chosen; `chosen_ofMatrix` is that there always is one.
* `sameSide_iff`: whether two chosen quaternions point to opposite sides can be told from the
  matrices, without a root.
* `two_arccos_eq`: if they do, the angle that is read off them is not the angle between the
  rotations, but the rest of the full turn.
-/

namespace Rotation

open Matrix
open scoped Quaternion

variable {K : Type*}

/-- The components of a quaternion. -/
inductive Component
  | w | x | y | z
deriving DecidableEq

section Ring

variable [CommRing K]

/-- A component of a quaternion. -/
def component (q : ℍ[K]) : Component → K
  | .w => q.re
  | .x => q.imI
  | .y => q.imJ
  | .z => q.imK

lemma component_ext {p q : ℍ[K]} (h : ∀ i, component p i = component q i) : p = q :=
  Quaternion.ext p q (h .w) (h .x) (h .y) (h .z)

@[simp] lemma component_smul (r : K) (q : ℍ[K]) (i : Component) :
    component (r • q) i = r * component q i := by
  cases i <;> rfl

lemma normSq_eq (q : ℍ[K]) :
    Quaternion.normSq q
      = component q .w ^ 2 + component q .x ^ 2 + component q .y ^ 2 + component q .z ^ 2 :=
  Quaternion.normSq_def' q

lemma re_mul_star (q p : ℍ[K]) :
    (q * star p).re = q.re * p.re + q.imI * p.imI + q.imJ * p.imJ + q.imK * p.imK := by
  rw [Quaternion.re_mul, Quaternion.re_star, Quaternion.imI_star, Quaternion.imJ_star,
    Quaternion.imK_star]
  ring

/-- The opposite of either factor gives the opposite product. -/
lemma re_neg_mul_star (q p : ℍ[K]) : (-q * star p).re = -(q * star p).re := by
  rw [neg_mul, Quaternion.re_neg]

lemma re_mul_star_neg (q p : ℍ[K]) : (q * star (-p)).re = -(q * star p).re := by
  rw [star_neg, mul_neg, Quaternion.re_neg]

/-- The rotation that a unit quaternion stands for. -/
def rotationMatrix (q : ℍ[K]) : Matrix (Fin 3) (Fin 3) K :=
  !![1 - 2 • (q.imJ ^ 2 + q.imK ^ 2), 2 • (q.imI * q.imJ - q.re * q.imK),
      2 • (q.imI * q.imK + q.re * q.imJ);
    2 • (q.imI * q.imJ + q.re * q.imK), 1 - 2 • (q.imI ^ 2 + q.imK ^ 2),
      2 • (q.imJ * q.imK - q.re * q.imI);
    2 • (q.imI * q.imK - q.re * q.imJ), 2 • (q.imJ * q.imK + q.re * q.imI),
      1 - 2 • (q.imI ^ 2 + q.imJ ^ 2)]

/-- Four times a unit quaternion, times one of its components: linear in the rotation. -/
def column (B : Matrix (Fin 3) (Fin 3) K) : Component → ℍ[K]
  | .w => ⟨1 + B 0 0 + B 1 1 + B 2 2, B 2 1 - B 1 2, B 0 2 - B 2 0, B 1 0 - B 0 1⟩
  | .x => ⟨B 2 1 - B 1 2, 1 + B 0 0 - B 1 1 - B 2 2, B 0 1 + B 1 0, B 0 2 + B 2 0⟩
  | .y => ⟨B 0 2 - B 2 0, B 0 1 + B 1 0, 1 - B 0 0 + B 1 1 - B 2 2, B 1 2 + B 2 1⟩
  | .z => ⟨B 1 0 - B 0 1, B 0 2 + B 2 0, B 1 2 + B 2 1, 1 - B 0 0 - B 1 1 + B 2 2⟩

lemma column_rotationMatrix {q : ℍ[K]} (h : Quaternion.normSq q = 1) (k : Component) :
    column (rotationMatrix q) k = (4 * component q k) • q := by
  rw [Quaternion.normSq_def'] at h
  refine component_ext fun i => ?_
  rw [component_smul]
  cases k <;> cases i <;>
    simp only [column, rotationMatrix, component, of_apply, cons_val, cons_val_zero,
      cons_val_one] <;>
    first
    | ring1
    | linear_combination (-4 : K) * h

/-- The rotation from one to another turns by twice the angle between their quaternions. -/
lemma trace_relative {p q : ℍ[K]} (hp : Quaternion.normSq p = 1)
    (hq : Quaternion.normSq q = 1) :
    (rotationMatrix q * (rotationMatrix p).transpose).trace = 4 * (q * star p).re ^ 2 - 1 := by
  rw [Quaternion.normSq_def'] at hp hq
  rw [re_mul_star]
  simp only [trace_fin_three, mul_apply, Fin.sum_univ_three, transpose_apply, rotationMatrix,
    of_apply, cons_val]
  linear_combination (-4 * q.re ^ 2) * hp
    + 4 * (p.imI ^ 2 + p.imJ ^ 2 + p.imK ^ 2 - 1) * hq

section Rotation

variable (T : Rigid K)

/-- The cofactors of a rotation are its entries. -/
lemma adjugate_basis : T.basis.adjugate = T.basis.transpose := by
  calc T.basis.adjugate = T.basis.adjugate * (T.basis * T.basis.transpose) := by
        rw [T.orthogonal', Matrix.mul_one]
    _ = T.basis.transpose := by
        rw [← Matrix.mul_assoc, adjugate_mul, T.special, one_smul, Matrix.one_mul]

/-- **The columns of a rotation are multiples of one quaternion.** -/
lemma column_proportional (k i : Component) :
    component (column T.basis k) i • column T.basis k
      = component (column T.basis k) k • column T.basis i := by
  have hcofactor := adjugate_basis T
  have hrows := T.orthogonal'
  have hcolumns := T.orthogonal
  rw [adjugate_fin_three] at hcofactor
  simp only [← ext_iff, Fin.forall_fin_succ, mul_apply, Fin.sum_univ_three, transpose_apply,
    of_apply, cons_val, one_apply, IsEmpty.forall_iff, and_true, Fin.isValue,
    Fin.succ_zero_eq_one, Fin.succ_one_eq_two, Fin.reduceEq, if_true, if_false]
    at hcofactor hrows hcolumns
  -- all four components at once, so that `grind` treats the entries as one system
  rw [Quaternion.ext_iff]
  simp only [Quaternion.re_smul, Quaternion.imI_smul, Quaternion.imJ_smul, Quaternion.imK_smul,
    smul_eq_mul]
  cases k <;> cases i <;> simp only [column, component] <;> grind

lemma normSq_column (k : Component) :
    Quaternion.normSq (column T.basis k) = 4 * component (column T.basis k) k := by
  have hsquare : ∀ i, component (column T.basis k) i * component (column T.basis k) i
      = component (column T.basis k) k * component (column T.basis i) i := by
    intro i
    rw [← component_smul, column_proportional, component_smul]
  have hdiagonal : component (column T.basis .w) .w + component (column T.basis .x) .x
      + component (column T.basis .y) .y + component (column T.basis .z) .z = 4 := by
    simp only [column, component]
    ring
  rw [normSq_eq]
  linear_combination hsquare .w + hsquare .x + hsquare .y + hsquare .z
    + component (column T.basis k) k * hdiagonal

end Rotation

end Ring

section Field

variable [Field K] [LinearOrder K]

/-- The component that is made positive: the real one if the trace is, else that of the largest
diagonal entry. -/
def pivot (B : Matrix (Fin 3) (Fin 3) K) : Component :=
  if 0 < B 0 0 + B 1 1 + B 2 2 then .w
  else if B 0 0 < B 1 1 then
    if B 1 1 < B 2 2 then .z else .y
  else if B 0 0 < B 2 2 then .z
  else .x

/-- The quaternion that is chosen for a rotation. -/
structure Chosen (B : Matrix (Fin 3) (Fin 3) K) (q : ℍ[K]) : Prop where
  unit : Quaternion.normSq q = 1
  matrix : rotationMatrix q = B
  positive : 0 < component q (pivot B)

/-- The column of the pivot, which points where the chosen quaternion does. -/
def pivotColumn (B : Matrix (Fin 3) (Fin 3) K) : ℍ[K] := column B (pivot B)

/-- The quaternions that are chosen for two rotations do not point to opposite sides. -/
def SameSide (A B : Matrix (Fin 3) (Fin 3) K) : Prop :=
  0 ≤ (pivotColumn B * star (pivotColumn A)).re

variable [IsStrictOrderedRing K] {A B : Matrix (Fin 3) (Fin 3) K} {p q : ℍ[K]}

omit [IsStrictOrderedRing K] in
lemma Chosen.pivotColumn_eq (h : Chosen B q) :
    pivotColumn B = (4 * component q (pivot B)) • q := by
  rw [pivotColumn]
  nth_rewrite 1 [← h.matrix]
  exact column_rotationMatrix h.unit _

/-- **On which sides the chosen quaternions point**, from the matrices. -/
theorem sameSide_iff (hp : Chosen A p) (hq : Chosen B q) :
    SameSide A B ↔ 0 ≤ (q * star p).re := by
  have hpos : 0 < 4 * component q (pivot B) * (4 * component p (pivot A)) :=
    mul_pos (mul_pos four_pos hq.positive) (mul_pos four_pos hp.positive)
  rw [SameSide, hp.pivotColumn_eq, hq.pivotColumn_eq, Quaternion.star_smul, smul_mul_smul_comm,
    Quaternion.re_smul, smul_eq_mul, mul_nonneg_iff_of_pos_left hpos]

/-- The pivot of its column is not small. -/
lemma pivot_pos (B : Matrix (Fin 3) (Fin 3) K) : 0 < component (pivotColumn B) (pivot B) := by
  rw [pivotColumn, pivot]
  split_ifs <;> simp only [column, component] <;> linarith

/-- A rotation is determined by the products of the components. -/
lemma rotationMatrix_eq
    (h : ∀ i j, 4 * (component q i * component q j) = component (column B i) j) :
    rotationMatrix q = B := by
  have hxx := h .x .x
  have hyy := h .y .y
  have hzz := h .z .z
  have hwx := h .w .x
  have hwy := h .w .y
  have hwz := h .w .z
  have hxy := h .x .y
  have hxz := h .x .z
  have hyz := h .y .z
  simp only [component, column] at hxx hyy hzz hwx hwy hwz hxy hxz hyz
  ext i j
  fin_cases i <;> fin_cases j <;> simp [rotationMatrix] <;> linarith

end Field

/-! ## The quaternion of a rotation -/

section Real

/-- The pivot column at unit length. -/
noncomputable def ofMatrix (B : Matrix (Fin 3) (Fin 3) ℝ) : ℍ[ℝ] :=
  (√(Quaternion.normSq (pivotColumn B)))⁻¹ • pivotColumn B

/-- **Every rotation has a quaternion** with a positive pivot. -/
theorem chosen_ofMatrix (T : Rigid ℝ) : Chosen T.basis (ofMatrix T.basis) := by
  have hpos := pivot_pos T.basis
  have hnorm : Quaternion.normSq (pivotColumn T.basis)
      = 4 * component (pivotColumn T.basis) (pivot T.basis) := normSq_column T _
  have hnormpos : 0 < Quaternion.normSq (pivotColumn T.basis) := by
    rw [hnorm]
    exact mul_pos four_pos hpos
  obtain ⟨r, hr⟩ : ∃ r, (√(Quaternion.normSq (pivotColumn T.basis)))⁻¹ = r := ⟨_, rfl⟩
  have hrpos : 0 < r := hr ▸ inv_pos.mpr (Real.sqrt_pos.mpr hnormpos)
  have hunit : r ^ 2 * Quaternion.normSq (pivotColumn T.basis) = 1 := by
    rw [← hr, inv_pow, Real.sq_sqrt hnormpos.le, inv_mul_cancel₀ hnormpos.ne']
  -- four times the products of the components are the columns
  have hproduct : ∀ i j, 4 * (component (ofMatrix T.basis) i * component (ofMatrix T.basis) j)
      = component (column T.basis i) j := by
    intro i j
    have hij := congrArg (component · j) (column_proportional T (pivot T.basis) i)
    rw [component_smul, component_smul] at hij
    rw [ofMatrix, hr, component_smul, component_smul, pivotColumn]
    rw [hnorm, pivotColumn] at hunit
    linear_combination 4 * r ^ 2 * hij + component (column T.basis i) j * hunit
  refine ⟨?_, ?_, ?_⟩
  · rw [ofMatrix, hr, Quaternion.normSq_smul, hunit]
  · exact rotationMatrix_eq hproduct
  · rw [ofMatrix, hr, component_smul]
    exact mul_pos hrpos hpos

/-! ## Angles -/

/-- The angle by which one has to turn from one rotation to another. -/
noncomputable def turn (A B : Matrix (Fin 3) (Fin 3) ℝ) : ℝ :=
  Real.arccos (((B * A.transpose).trace - 1) / (2 : ℕ))

/-- The real part of a unit quaternion is a cosine. -/
lemma re_mem_Icc {d : ℍ[ℝ]} (h : Quaternion.normSq d = 1) : -1 ≤ d.re ∧ d.re ≤ 1 := by
  rw [Quaternion.normSq_def'] at h
  refine abs_le.mp (abs_le_one_iff_mul_self_le_one.mpr ?_)
  linarith [sq_nonneg d.imI, sq_nonneg d.imJ, sq_nonneg d.imK, sq d.re]

variable {A B : Matrix (Fin 3) (Fin 3) ℝ} {p q : ℍ[ℝ]}

lemma Chosen.normSq_relative (hp : Chosen A p) (hq : Chosen B q) :
    Quaternion.normSq (q * star p) = 1 := by
  rw [map_mul, Quaternion.normSq_star, hp.unit, hq.unit, one_mul]

/-- The angle that is read off the quaternions is at most half a turn exactly if they were chosen
on the same side. -/
lemma two_arccos_le_pi_iff (hp : Chosen A p) (hq : Chosen B q) :
    2 * Real.arccos (q * star p).re ≤ Real.pi ↔ SameSide A B := by
  rw [sameSide_iff hp hq, ← Real.arccos_le_pi_div_two, le_div_iff₀' two_pos]

/-- **The angle that is read off the quaternions**: that by which one has to turn, or the rest of
the full turn. -/
theorem two_arccos_eq (hp : Chosen A p) (hq : Chosen B q) :
    (SameSide A B → 2 * Real.arccos (q * star p).re = turn A B) ∧
      (¬ SameSide A B → 2 * Real.arccos (q * star p).re = 2 * Real.pi - turn A B) := by
  obtain ⟨hlow, hhigh⟩ := re_mem_Icc (hp.normSq_relative hq)
  have hcos : ((B * A.transpose).trace - 1) / 2 = Real.cos (2 * Real.arccos (q * star p).re) := by
    rw [← hp.matrix, ← hq.matrix, trace_relative hp.unit hq.unit, Real.cos_two_mul,
      Real.cos_arccos hlow hhigh]
    ring
  have hnonneg := Real.arccos_nonneg (q * star p).re
  have hle := Real.arccos_le_pi (q * star p).re
  rw [turn, Nat.cast_ofNat, hcos, ← two_arccos_le_pi_iff hp hq]
  constructor
  · intro hshort
    rw [Real.arccos_cos (by linarith) hshort]
  · intro hlong
    rw [← Real.cos_two_pi_sub, Real.arccos_cos (by linarith) (by linarith), sub_sub_cancel]

end Real

end Rotation
