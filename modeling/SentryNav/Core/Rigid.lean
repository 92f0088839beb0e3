import Mathlib.LinearAlgebra.Matrix.NonsingularInverse

/-!
# Rigid transforms of space

A rigid transform turns and then moves: a rotation matrix, the `basis`, and an `origin`.  They
compose, and the inverse is got from the transposed basis.  `Rigid` carries the proof that its
basis is a rotation, so that the rules of a group acting on points hold for every value of it:
transforms of clouds of points can be reasoned about by `mul_smul` and `inv_smul_smul`.
-/

/-- A rigid transform of three-dimensional space. -/
@[ext]
structure Rigid (K : Type*) [CommRing K] where
  basis : Matrix (Fin 3) (Fin 3) K
  origin : Fin 3 → K
  /-- The inverse of the basis is its transpose. -/
  orthogonal : basis.transpose * basis = 1
  /-- It is a rotation, not a reflection. -/
  special : basis.det = 1

namespace Rigid

open Matrix

variable {K : Type*} [CommRing K] (S T : Rigid K)

lemma orthogonal' : T.basis * T.basis.transpose = 1 := mul_eq_one_comm.mp T.orthogonal

instance : One (Rigid K) where
  one :=
    { basis := 1
      origin := 0
      orthogonal := by rw [transpose_one, one_mul]
      special := det_one }

/-- First `T`, then `S`. -/
instance : Mul (Rigid K) where
  mul S T :=
    { basis := S.basis * T.basis
      origin := S.basis *ᵥ T.origin + S.origin
      orthogonal := by
        rw [transpose_mul, Matrix.mul_assoc, ← Matrix.mul_assoc _ S.basis, S.orthogonal,
          Matrix.one_mul, T.orthogonal]
      special := by rw [det_mul, S.special, T.special, one_mul] }

instance : Inv (Rigid K) where
  inv T :=
    { basis := T.basis.transpose
      origin := T.basis.transpose *ᵥ (-T.origin)
      orthogonal := by rw [transpose_transpose, T.orthogonal']
      special := by rw [det_transpose, T.special] }

@[simp] lemma one_basis : (1 : Rigid K).basis = 1 := rfl
@[simp] lemma one_origin : (1 : Rigid K).origin = 0 := rfl
@[simp] lemma mul_basis : (S * T).basis = S.basis * T.basis := rfl
@[simp] lemma mul_origin : (S * T).origin = S.basis *ᵥ T.origin + S.origin := rfl
@[simp] lemma inv_basis : T⁻¹.basis = T.basis.transpose := rfl
@[simp] lemma inv_origin : T⁻¹.origin = T.basis.transpose *ᵥ (-T.origin) := rfl

instance : Group (Rigid K) where
  mul_assoc R S T := by
    ext1
    · simp only [mul_basis, Matrix.mul_assoc]
    · simp only [mul_origin, mul_basis, mulVec_add, mulVec_mulVec, add_assoc]
  one_mul T := by
    ext1
    · rw [mul_basis, one_basis, Matrix.one_mul]
    · rw [mul_origin, one_basis, one_origin, one_mulVec, add_zero]
  mul_one T := by
    ext1
    · rw [mul_basis, one_basis, Matrix.mul_one]
    · rw [mul_origin, one_origin, mulVec_zero, zero_add]
  inv_mul_cancel T := by
    ext1
    · rw [mul_basis, inv_basis, T.orthogonal, one_basis]
    · rw [mul_origin, inv_basis, inv_origin, ← mulVec_add, add_neg_cancel, mulVec_zero, one_origin]

/-- Applying a transform to a point. -/
instance : MulAction (Rigid K) (Fin 3 → K) where
  smul T p := T.basis *ᵥ p + T.origin
  one_smul p := by
    show (1 : Matrix (Fin 3) (Fin 3) K) *ᵥ p + 0 = p
    rw [one_mulVec, add_zero]
  mul_smul S T p := by
    show (S.basis * T.basis) *ᵥ p + (S.basis *ᵥ T.origin + S.origin)
      = S.basis *ᵥ (T.basis *ᵥ p + T.origin) + S.origin
    rw [mulVec_add, mulVec_mulVec, add_assoc]

lemma smul_def (p : Fin 3 → K) : T • p = T.basis *ᵥ p + T.origin := rfl

/-- Moving without turning. -/
def translation (v : Fin 3 → K) : Rigid K where
  basis := 1
  origin := v
  orthogonal := by rw [transpose_one, one_mul]
  special := det_one

@[simp] lemma translation_smul (v p : Fin 3 → K) : translation v • p = p + v := by
  rw [smul_def]
  show (1 : Matrix (Fin 3) (Fin 3) K) *ᵥ p + v = p + v
  rw [one_mulVec]

/-! ## Clouds of points -/

variable {T}

/-- Taking a transform back after it has been applied to a list of points. -/
lemma map_inv_smul_map_smul (points : List (Fin 3 → K)) :
    (points.map fun p => T • p).map (fun p => T⁻¹ • p) = points := by
  rw [List.map_map]
  exact (List.map_congr_left fun p _ => inv_smul_smul T p).trans points.map_id

/-- A transform and its inverse do the same to a list of points iff applying it twice does
nothing to any of them. -/
theorem map_inv_eq_map_iff (points : List (Fin 3 → K)) :
    (points.map fun p => T⁻¹ • p) = (points.map fun p => T • p) ↔
      ∀ p ∈ points, T • T • p = p := by
  rw [List.map_inj_left]
  refine forall₂_congr fun p _ => ?_
  rw [inv_smul_eq_iff, eq_comm]

end Rigid
