/-
**Definite forms.**

Over an ordered field a form may have a sign. A definite form vanishes on nothing but zero, and so
does the transpose of a matrix whose rows are independent.

* `Vec.eq_zero_of_pairing_self`: a sequence that pairs to zero with itself is zero;
* `Mat.PositiveDefinite` and `Mat.PositiveSemidefinite` are said of the form alone, and
  `Mat.PositiveDefinite.eq_zero` is how the first is used;
* `Mat.FullRowRank` and `Mat.FullRowRank.eq_zero`: multipliers that the transpose takes to zero are
  zero.
-/

import Mathlib.Algebra.Order.BigOperators.Ring.Finset
import Mathlib.LinearAlgebra.LinearIndependent.Basic
import RecedingHorizon.Proofs.Dense.Forms

set_option linter.unusedSectionVars false

namespace RecedingHorizon

universe u

variable {K : Type u} [Field K] [LinearOrder K] [IsStrictOrderedRing K]

/-! ### Squares -/

namespace Vec

theorem pairing_self_nonneg (length : ℕ) (x : ℕ → K) : 0 ≤ pairing length x x :=
  Finset.sum_nonneg fun index _ => mul_self_nonneg (x index)

/-- **A sequence that pairs to zero with itself is zero.** -/
theorem eq_zero_of_pairing_self {length : ℕ} {x : ℕ → K} (zero : pairing length x x = 0)
    {index : ℕ} (inside : index < length) : x index = 0 := by
  have squares := (Finset.sum_eq_zero_iff_of_nonneg fun position _ =>
    mul_self_nonneg (x position)).mp zero
  exact mul_self_eq_zero.mp (squares index (Finset.mem_range.mpr inside))

end Vec

/-! ### Definite matrices -/

namespace Mat

/-- The form is never negative. -/
def PositiveSemidefinite (matrix : Mat K) : Prop :=
  ∀ x, 0 ≤ matrix.form x x

/-- The form is positive on every sequence that is not zero on the rows of the matrix. -/
def PositiveDefinite (matrix : Mat K) : Prop :=
  ∀ x, (∃ row, row < matrix.rows ∧ x row ≠ 0) → 0 < matrix.form x x

/-- The rows are linearly independent. -/
def FullRowRank (matrix : Mat K) : Prop :=
  LinearIndependent K fun row : Fin matrix.rows => matrix.get row

variable {matrix : Mat K}

/-- Where the form is not positive, the sequence is zero. -/
theorem PositiveDefinite.eq_zero (definite : matrix.PositiveDefinite) {x : ℕ → K}
    (low : matrix.form x x ≤ 0) {row : ℕ} (inside : row < matrix.rows) : x row = 0 := by
  by_contra nonzero
  exact absurd (definite x ⟨row, inside, nonzero⟩) (not_lt.mpr low)

theorem PositiveDefinite.semidefinite (definite : matrix.PositiveDefinite) :
    matrix.PositiveSemidefinite := by
  intro x
  by_cases somewhere : ∃ row, row < matrix.rows ∧ x row ≠ 0
  · exact (definite x somewhere).le
  · have nowhere : ∀ row, row < matrix.rows → x row = (0 : ℕ → K) row := by
      intro row inside
      by_contra nonzero
      exact somewhere ⟨row, inside, nonzero⟩
    rw [form_congr nowhere fun _ _ => rfl, zero_form]

/-- **Independent rows add up to zero in one way only.** -/
theorem FullRowRank.eq_zero (independent : matrix.FullRowRank) {y : ℕ → K}
    (zero : matrix.transposeLinear y = 0) {row : ℕ} (inside : row < matrix.rows) : y row = 0 := by
  have combined : ∑ index : Fin matrix.rows, y index • matrix.get index = 0 := by
    funext col
    have entry := congrFun zero col
    rw [transposeLinear_apply, Finset.sum_range] at entry
    simpa [mul_comm] using entry
  exact Fintype.linearIndependent_iff.mp independent (fun index => y index) combined ⟨row, inside⟩

end Mat

end RecedingHorizon
