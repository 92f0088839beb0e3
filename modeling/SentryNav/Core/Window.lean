import Mathlib.Data.List.Basic
import Mathlib.Order.MinMax
import Mathlib.Tactic.Common

/-!
# Windows that grow

A window in the plane that is extended to all the places that something was done at, as a record of
what is to be looked at again.  `touchAll_contains` says which cells of a raster it contains in the
end: those that, along each axis, have a touched place on either side, or had the window there
already.
-/

/-- A rectangle; it is empty if an end comes before its start. -/
structure Window (K : Type*) where
  minX : K
  minY : K
  maxX : K
  maxY : K

namespace Window

variable {K C : Type*} [LinearOrder K] [LinearOrder C]

/-- Extend a window to a place. -/
def touch (w : Window K) (place : K × K) : Window K where
  minX := min place.1 w.minX
  minY := min place.2 w.minY
  maxX := max place.1 w.maxX
  maxY := max place.2 w.maxY

/-- Extend a window to some places, one after the other. -/
def touchAll (w : Window K) (places : List (K × K)) : Window K := places.foldl touch w

/-- The cells of a raster in a window: those from the column of its start to that of its end, and
from row to row.  A coordinate is in the column and the row that the functions say. -/
def Contains (column row : K → C) (w : Window K) (ix iy : C) : Prop :=
  (column w.minX ≤ ix ∧ ix ≤ column w.maxX) ∧ row w.minY ≤ iy ∧ iy ≤ row w.maxY

instance (column row : K → C) (w : Window K) (ix iy : C) :
    Decidable (w.Contains column row ix iy) :=
  inferInstanceAs (Decidable ((_ ∧ _) ∧ _ ∧ _))

/-- Along both axes there are places, or ends of the window, on both sides of a cell. -/
def Brackets (column row : K → C) (w : Window K) (places : List (K × K)) (ix iy : C) : Prop :=
  ((column w.minX ≤ ix ∨ ∃ place ∈ places, column place.1 ≤ ix) ∧
      (ix ≤ column w.maxX ∨ ∃ place ∈ places, ix ≤ column place.1)) ∧
    (row w.minY ≤ iy ∨ ∃ place ∈ places, row place.2 ≤ iy) ∧
      (iy ≤ row w.maxY ∨ ∃ place ∈ places, iy ≤ row place.2)

lemma touchAll_append (w : Window K) (places others : List (K × K)) :
    w.touchAll (places ++ others) = (w.touchAll places).touchAll others :=
  List.foldl_append

variable {column row : K → C} {ix iy : C} {places : List (K × K)} {place : K × K}

lemma apply_min_le (hmono : Monotone column) {a b : K} :
    column (min a b) ≤ ix ↔ column b ≤ ix ∨ column a ≤ ix := by
  rw [hmono.map_min, min_le_iff, or_comm]

lemma le_apply_max (hmono : Monotone column) {a b : K} :
    ix ≤ column (max a b) ↔ ix ≤ column b ∨ ix ≤ column a := by
  rw [hmono.map_max, le_max_iff, or_comm]

/-- **What a grown window contains.** -/
theorem touchAll_contains (hcolumn : Monotone column) (hrow : Monotone row) (w : Window K)
    (places : List (K × K)) :
    (w.touchAll places).Contains column row ix iy ↔ w.Brackets column row places ix iy := by
  induction places generalizing w with
  | nil => simp [touchAll, Contains, Brackets]
  | cons place places ih =>
      have htail := ih (w.touch place)
      simp only [Brackets, touch, apply_min_le hcolumn, le_apply_max hcolumn, apply_min_le hrow,
        le_apply_max hrow] at htail
      simp only [Brackets, List.exists_mem_cons_iff, ← or_assoc]
      exact htail

/-- A place that was touched is in its cell, and that is in the window. -/
lemma contains_of_touched (hcolumn : Monotone column) (hrow : Monotone row) {w : Window K}
    (hplace : place ∈ places) :
    (w.touchAll places).Contains column row (column place.1) (row place.2) := by
  rw [touchAll_contains hcolumn hrow]
  exact ⟨⟨.inr ⟨place, hplace, le_rfl⟩, .inr ⟨place, hplace, le_rfl⟩⟩,
    .inr ⟨place, hplace, le_rfl⟩, .inr ⟨place, hplace, le_rfl⟩⟩

end Window
