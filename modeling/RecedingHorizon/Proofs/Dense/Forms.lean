/-
**Bilinear forms.**

A matrix is a bilinear form on sequences, and its transpose is its adjoint for the pairing of
sequences up to a length.

* `Vec.pairing` is the sum of products of two sequences up to a length, and `Mat.form` the form
  `xᵀ M y`;
* `Mat.pairing_linear` and `Mat.pairing_transposeLinear` move a matrix from one side of a pairing to
  the other;
* `Mat.Symmetric` matrices have symmetric forms, which `Mat.Symmetric.form_add_add` expands;
* `Vec.pairing_length_mul` splits a pairing of flat vectors into those of their blocks.
-/

import Mathlib.Algebra.BigOperators.Intervals
import RecedingHorizon.Proofs.Dense.Coordinates

set_option linter.unusedSectionVars false

namespace RecedingHorizon

universe u

variable {K : Type u} [CommRing K]

/-! ### Pairings -/

namespace Vec

/-- The sum of the products of two sequences up to a length. -/
def pairing (length : ℕ) (x y : ℕ → K) : K :=
  ∑ index ∈ Finset.range length, x index * y index

theorem pairing_comm (length : ℕ) (x y : ℕ → K) : pairing length x y = pairing length y x := by
  simp only [pairing, mul_comm]

@[simp]
theorem pairing_zero (length : ℕ) (x : ℕ → K) : pairing length x 0 = 0 := by
  simp [pairing]

theorem pairing_add (length : ℕ) (x y other : ℕ → K) :
    pairing length x (y + other) = pairing length x y + pairing length x other := by
  simp [pairing, mul_add, Finset.sum_add_distrib]

theorem pairing_sub (length : ℕ) (x y other : ℕ → K) :
    pairing length x (y - other) = pairing length x y - pairing length x other := by
  simp [pairing, mul_sub, Finset.sum_sub_distrib]

theorem pairing_smul (length : ℕ) (factor : K) (x y : ℕ → K) :
    pairing length x (factor • y) = factor * pairing length x y := by
  simp [pairing, Finset.mul_sum, mul_left_comm]

@[simp]
theorem zero_pairing (length : ℕ) (y : ℕ → K) : pairing length 0 y = 0 := by
  rw [pairing_comm, pairing_zero]

theorem add_pairing (length : ℕ) (x other y : ℕ → K) :
    pairing length (x + other) y = pairing length x y + pairing length other y := by
  rw [pairing_comm, pairing_add, pairing_comm length y, pairing_comm length y]

theorem smul_pairing (length : ℕ) (factor : K) (x y : ℕ → K) :
    pairing length (factor • x) y = factor * pairing length x y := by
  rw [pairing_comm, pairing_smul, pairing_comm length y]

/-- A pairing reads the sequences up to its length only. -/
theorem pairing_congr {length : ℕ} {x other y another : ℕ → K}
    (first : ∀ index, index < length → x index = other index)
    (second : ∀ index, index < length → y index = another index) :
    pairing length x y = pairing length other another := by
  simp only [pairing]
  refine Finset.sum_congr rfl fun index inside => ?_
  have below := Finset.mem_range.mp inside
  rw [first index below, second index below]

/-- A pairing of two parts, one behind the other. -/
theorem pairing_length_add (first second : ℕ) (x y : ℕ → K) :
    pairing (first + second) x y = pairing first x y +
      pairing second (fun index => x (first + index)) fun index => y (first + index) := by
  simp only [pairing]
  exact Finset.sum_range_add _ _ _

/-- **A pairing of `count` blocks of one width** is the sum over the blocks. -/
theorem pairing_length_mul (count width : ℕ) (x y : ℕ → K) :
    pairing (count * width) x y = ∑ block ∈ Finset.range count,
      pairing width (fun index => x (block * width + index))
        fun index => y (block * width + index) := by
  induction count with
  | zero => simp [pairing]
  | succ count hypothesis =>
    rw [Nat.succ_mul, pairing_length_add, hypothesis, Finset.sum_range_succ]

end Vec

/-! ### Forms -/

namespace Mat

/-- The form `xᵀ M y`. -/
def form (matrix : Mat K) (x y : ℕ → K) : K :=
  Vec.pairing matrix.rows x (matrix.linear y)

section Linearity

variable (matrix : Mat K)

@[simp]
theorem zero_form (y : ℕ → K) : matrix.form 0 y = 0 :=
  Vec.zero_pairing _ _

@[simp]
theorem form_zero (x : ℕ → K) : matrix.form x 0 = 0 := by
  simp [form]

theorem form_add (x y other : ℕ → K) :
    matrix.form x (y + other) = matrix.form x y + matrix.form x other := by
  simp only [form, map_add, Vec.pairing_add]

theorem add_form (x other y : ℕ → K) :
    matrix.form (x + other) y = matrix.form x y + matrix.form other y :=
  Vec.add_pairing _ _ _ _

theorem form_smul (factor : K) (x y : ℕ → K) :
    matrix.form x (factor • y) = factor * matrix.form x y := by
  simp only [form, map_smul, Vec.pairing_smul]

theorem neg_form (x y : ℕ → K) : matrix.form (-x) y = -matrix.form x y := by
  rw [form, form, ← neg_one_smul K x, Vec.smul_pairing, neg_one_mul]

end Linearity

/-- The matrix on the right of a pairing. -/
theorem pairing_linear (matrix : Mat K) (x y : ℕ → K) :
    Vec.pairing matrix.rows x (matrix.linear y) = matrix.form x y :=
  rfl

/-- **The transpose is the adjoint.** -/
theorem pairing_transposeLinear (matrix : Mat K) (x y : ℕ → K) :
    Vec.pairing matrix.cols (matrix.transposeLinear x) y = matrix.form x y := by
  rw [← pairing_linear]
  simp only [Vec.pairing, linear_apply, transposeLinear_apply, Finset.sum_mul,
    Finset.mul_sum]
  rw [Finset.sum_comm]
  refine Finset.sum_congr rfl fun row _ => Finset.sum_congr rfl fun col _ => ?_
  ring

/-- The form of a matrix that is given by its entries. -/
theorem form_ofFn (rows cols : ℕ) (entry : ℕ → ℕ → K) (x y : ℕ → K) :
    (ofFn rows cols entry).form x y =
      ∑ row ∈ Finset.range rows, x row * ∑ col ∈ Finset.range cols, entry row col * y col := by
  show ∑ row ∈ Finset.range rows, x row * ∑ col ∈ Finset.range cols,
    (ofFn rows cols entry).get row col * y col = _
  refine Finset.sum_congr rfl fun row inside => congrArg (x row * ·) ?_
  refine Finset.sum_congr rfl fun col beside => ?_
  rw [get_ofFn, if_pos ⟨Finset.mem_range.mp inside, Finset.mem_range.mp beside⟩]

/-- A form reads the sequences inside its matrix only. -/
theorem form_congr {matrix : Mat K} {x other y another : ℕ → K}
    (first : ∀ row, row < matrix.rows → x row = other row)
    (second : ∀ col, col < matrix.cols → y col = another col) :
    matrix.form x y = matrix.form other another := by
  rw [← pairing_linear, ← pairing_linear]
  refine Vec.pairing_congr first fun row _ => ?_
  simp only [linear_apply]
  refine Finset.sum_congr rfl fun col inside => ?_
  rw [second col (Finset.mem_range.mp inside)]

/-- A square matrix that is its own transpose. -/
structure Symmetric (matrix : Mat K) : Prop where
  square : matrix.cols = matrix.rows
  entries : ∀ row col, matrix.get row col = matrix.get col row

section Symmetric

variable {matrix : Mat K} (symmetric : matrix.Symmetric)
include symmetric

theorem Symmetric.linear_eq_transposeLinear : matrix.linear = matrix.transposeLinear := by
  refine LinearMap.ext fun x => funext fun row => ?_
  rw [linear_apply, transposeLinear_apply, symmetric.square]
  simp only [symmetric.entries row]

/-- The form of a symmetric matrix is symmetric. -/
theorem Symmetric.form_comm (x y : ℕ → K) : matrix.form x y = matrix.form y x := by
  rw [← pairing_transposeLinear, ← symmetric.linear_eq_transposeLinear, symmetric.square,
    Vec.pairing_comm, pairing_linear]

/-- The square of a sum, as a change of the square of the first term. -/
theorem Symmetric.form_add_add (x y : ℕ → K) :
    matrix.form (x + y) (x + y) = matrix.form x x + 2 * matrix.form y x + matrix.form y y := by
  simp only [form_add, add_form]
  rw [symmetric.form_comm x y]
  ring

end Symmetric

end Mat

end RecedingHorizon
