/-
**Sums of squares.**

The optimality norm adds up squares, those of a vector in order and those of a matrix by columns.
Over a ring the order does not matter, and over an ordered field the sum says whether there is
anything to add up.

* `Vec.normSq_eq_sum` and `Mat.normSq_eq_sum`: the kernels compute the sum of the squares of all
  entries;
* `Vec.normSq_eq_zero_iff` and `Mat.normSq_eq_zero_iff`: the sum is zero if and only if every entry
  is.
-/

import RecedingHorizon.Proofs.Dense.Definite

set_option linter.unusedSectionVars false

namespace RecedingHorizon

universe u

variable {K : Type u}

/-! ### Sums in any order -/

section Ring

variable [CommRing K]

namespace Vec

theorem sumOfSquares_eq_sum (values : List K) :
    sumOfSquares values = (values.map fun value => value * value).sum := by
  have accumulated : ∀ initial : K, values.foldl (fun sum value => sum + value * value) initial =
      initial + (values.map fun value => value * value).sum := by
    induction values with
    | nil => simp
    | cons value values hypothesis =>
      intro initial
      rw [List.foldl_cons, hypothesis, List.map_cons, List.sum_cons, add_assoc]
  unfold sumOfSquares
  rw [accumulated, neg_zero, zero_add]

theorem sumOfSquares_append (first second : List K) :
    sumOfSquares (first ++ second) = sumOfSquares first + sumOfSquares second := by
  simp only [sumOfSquares_eq_sum, List.map_append, List.sum_append]

/-- The squares of a vector are its pairing with itself. -/
theorem normSq_eq_pairing (vector : Vec K) :
    vector.normSq = pairing vector.size vector.coord vector.coord := by
  show sumOfSquares vector.toList = _
  rw [sumOfSquares_eq_sum, ← List.zipWith_self, sum_zipWith _ rfl rfl]
  rfl

/-- **The kernel adds up the squares of all entries.** -/
theorem normSq_eq_sum (vector : Vec K) :
    vector.normSq = ∑ index ∈ Finset.range vector.size, vector.coord index ^ 2 := by
  rw [normSq_eq_pairing]
  exact Finset.sum_congr rfl fun index _ => (sq _).symm

@[simp]
theorem normSq_zeros (length : ℕ) : normSq (zeros length : Vec K) = 0 := by
  rw [normSq_eq_pairing, coord_zeros, pairing_zero]

end Vec

namespace Mat

/-- The squares by columns, as a sum over the columns. -/
theorem normSq_eq_sum_columns (matrix : Mat K) :
    matrix.normSq = (matrix.columns.toList.map Vec.normSq).sum := by
  show Vec.sumOfSquares (matrix.columns.toList.flatMap Array.toList) = _
  induction matrix.columns.toList with
  | nil => simp [Vec.sumOfSquares]
  | cons column columns hypothesis =>
    rw [List.flatMap_cons, Vec.sumOfSquares_append, hypothesis, List.map_cons, List.sum_cons]
    rfl

/-- **The kernel adds up the squares of all entries**, and so the squares of the rows. -/
theorem normSq_eq_sum (matrix : Mat K) :
    matrix.normSq = ∑ row ∈ Finset.range matrix.rows, ∑ col ∈ Finset.range matrix.cols,
      matrix.get row col ^ 2 := by
  have column : ∀ col : Fin matrix.cols,
      Vec.normSq (matrix.entries.toArray.map fun row => row[col]) =
        ∑ row ∈ Finset.range matrix.rows, matrix.get row col ^ 2 := by
    intro col
    have size : (matrix.entries.toArray.map fun row => row[col]).size = matrix.rows := by simp
    rw [Vec.normSq_eq_sum, size]
    refine Finset.sum_congr rfl fun row _ => ?_
    exact congrArg (· ^ 2) (congrFun (coord_column matrix col.isLt) row)
  rw [normSq_eq_sum_columns, Finset.sum_comm, Finset.sum_range, ← List.sum_ofFn]
  unfold columns
  rw [Array.toList_ofFn, List.map_ofFn]
  exact congrArg (fun entry => (List.ofFn entry).sum) (funext column)

@[simp]
theorem normSq_zeros (rows cols : ℕ) : normSq (zeros rows cols : Mat K) = 0 := by
  rw [normSq_eq_sum]
  exact Finset.sum_eq_zero fun row _ => Finset.sum_eq_zero fun col _ => by simp

end Mat

end Ring

/-! ### Sums that vanish -/

section Ordered

variable [Field K] [LinearOrder K] [IsStrictOrderedRing K]

namespace Vec

theorem normSq_nonneg (vector : Vec K) : 0 ≤ vector.normSq := by
  rw [normSq_eq_pairing]
  exact pairing_self_nonneg _ _

/-- **The squares of a vector add up to zero** if and only if the vector is zero. -/
theorem normSq_eq_zero_iff {vector : Vec K} {length : ℕ} (size : vector.size = length) :
    vector.normSq = 0 ↔ vector = zeros length := by
  constructor
  · intro zero
    rw [normSq_eq_pairing] at zero
    refine ext_coord (size.trans (size_zeros _).symm) ?_
    funext index
    rw [coord_zeros]
    by_cases inside : index < vector.size
    · exact eq_zero_of_pairing_self zero inside
    · exact coord_of_le (Nat.not_lt.mp inside)
  · rintro rfl
    exact normSq_zeros _

end Vec

namespace Mat

theorem normSq_nonneg (matrix : Mat K) : 0 ≤ matrix.normSq := by
  rw [normSq_eq_sum]
  exact Finset.sum_nonneg fun row _ => Finset.sum_nonneg fun col _ => sq_nonneg _

/-- **The squares of a matrix add up to zero** if and only if the matrix is zero. -/
theorem normSq_eq_zero_iff {matrix : Mat K} {rows cols : ℕ} (shape : matrix.shape = (rows, cols)) :
    matrix.normSq = 0 ↔ matrix = zeros rows cols := by
  constructor
  · intro zero
    rw [normSq_eq_sum, Finset.sum_eq_zero_iff_of_nonneg fun row _ =>
      Finset.sum_nonneg fun col _ => sq_nonneg _] at zero
    refine ext_get (shape.trans (shape_zeros _ _).symm) fun row inside => ?_
    have squares := (Finset.sum_eq_zero_iff_of_nonneg fun col _ => sq_nonneg _).mp
      (zero row (Finset.mem_range.mpr inside))
    funext col
    rw [get_zeros]
    by_cases beside : col < matrix.cols
    · exact sq_eq_zero_iff.mp (squares col (Finset.mem_range.mpr beside))
    · exact get_of_outside fun within => beside within.2
  · rintro rfl
    exact normSq_zeros _ _

end Mat

end Ordered

end RecedingHorizon
