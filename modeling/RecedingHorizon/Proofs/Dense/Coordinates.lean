/-
**Vectors and matrices by coordinates.**

Over a ring, the kernels compute what their names say: the order in which a product adds up its
terms no longer matters, and each kernel is a linear map of sequences.

* `Vec.coord` and `Mat.get` read vectors and rows as sequences, which are zero outside, and
  `Vec.ofCoord` cuts a vector out of a sequence;
* `Mat.linear` is the map `x ↦ M x` and `Mat.transposeLinear` the map `x ↦ Mᵀ x`;
* `Vec.coord_moved`, `Mat.coord_times`, `Mat.coord_timesAdd` and `Mat.coord_transposeTimesAdd` give
  the coordinates of the kernels, and `Vec.ext_coord` and `Mat.ext_get` go back to equality.
-/

import Mathlib.Algebra.BigOperators.Fin
import Mathlib.Algebra.BigOperators.Ring.Finset
import Mathlib.Algebra.Module.LinearMap.Basic
import Mathlib.Tactic.Ring
import RecedingHorizon.Proofs.Dense.Values

set_option linter.unusedSectionVars false

namespace RecedingHorizon

universe u

variable {K : Type u}

/-! ### Sequences -/

/-- The entries of a vector as a sequence, zero beyond its end. -/
def Vec.coord [Zero K] (vector : Vec K) : ℕ → K :=
  fun index => vector.getD index 0

namespace Vec

section Entries

variable [Zero K]

theorem coord_apply (vector : Vec K) (index : ℕ) : vector.coord index = vector[index]?.getD 0 := by
  show vector.getD index 0 = _
  rw [Array.getD_eq_getD_getElem?]

theorem coord_of_le {vector : Vec K} {index : ℕ} (beyond : vector.size ≤ index) :
    vector.coord index = 0 := by
  rw [coord_apply, Array.getElem?_eq_none beyond]
  rfl

theorem coord_of_lt {vector : Vec K} {index : ℕ} (inside : index < vector.size) :
    vector.coord index = vector[index] := by
  rw [coord_apply, Array.getElem?_eq_getElem inside]
  rfl

@[simp]
theorem coord_zeros (length : ℕ) : (zeros length : Vec K).coord = 0 := by
  funext index
  rw [coord_apply]
  by_cases inside : index < length
  · simp [zeros, inside]
  · simp [zeros, inside]

/-- Vectors of one length are equal if their coordinates are. -/
theorem ext_coord {first second : Vec K} (size : first.size = second.size)
    (same : first.coord = second.coord) : first = second := by
  refine Array.ext size fun index inside within => ?_
  have entry := congrFun same index
  rwa [coord_of_lt inside, coord_of_lt within] at entry

theorem coord_inj {first second : Vec K} (size : first.size = second.size) :
    first.coord = second.coord ↔ first = second :=
  ⟨ext_coord size, congrArg coord⟩

/-- The vector of the first entries of a sequence. -/
def ofCoord (length : ℕ) (sequence : ℕ → K) : Vec K :=
  Array.ofFn fun index : Fin length => sequence index

omit [Zero K] in
@[simp]
theorem size_ofCoord (length : ℕ) (sequence : ℕ → K) : (ofCoord length sequence).size = length :=
  Array.size_ofFn

/-- The sequence is cut off at the length of the vector. -/
theorem coord_ofCoord (length : ℕ) (sequence : ℕ → K) (index : ℕ) :
    (ofCoord length sequence).coord index = if index < length then sequence index else 0 := by
  by_cases inside : index < length
  · rw [coord_of_lt (by rw [size_ofCoord]; exact inside), if_pos inside]
    exact Array.getElem_ofFn _
  · rw [coord_of_le (by rw [size_ofCoord]; omega), if_neg inside]

/-- The coordinates of a block. -/
theorem coord_block (vector : Vec K) (start length index : ℕ) :
    (vector.block start length).coord index =
      if index < length then vector.coord (start + index) else 0 := by
  rw [coord_apply, getElem?_block]
  split
  · rw [coord_apply]
  · rfl

/-- A block of zeros. -/
@[simp]
theorem coord_block_zeros (size start length : ℕ) :
    ((zeros size : Vec K).block start length).coord = 0 := by
  funext index
  simp [coord_block]

end Entries

variable [CommRing K]

/-- The coordinates of `a · x + y`. -/
theorem coord_moved (a : K) {x y : Vec K} (same : x.size = y.size) :
    (moved a x y).coord = a • x.coord + y.coord := by
  funext index
  show _ = a * x.coord index + y.coord index
  by_cases inside : index < x.size
  · have within : index < y.size := same ▸ inside
    rw [coord_of_lt (by rw [size_moved]; omega), coord_of_lt inside, coord_of_lt within]
    simp [moved]
  · rw [coord_of_le (by rw [size_moved]; omega), coord_of_le (by omega), coord_of_le (by omega)]
    ring

/-- A block of `a · x + y` is `a` times that of `x`, plus that of `y`. -/
theorem coord_block_moved (a : K) {x y : Vec K} (same : x.size = y.size) (start length : ℕ) :
    ((moved a x y).block start length).coord =
      a • (x.block start length).coord + (y.block start length).coord := by
  funext index
  show _ = a * (x.block start length).coord index + (y.block start length).coord index
  simp only [coord_block, coord_moved a same]
  split
  · rfl
  · ring

/-- The coordinates of a multiple. -/
theorem coord_scale (factor : K) (vector : Vec K) :
    (scale factor vector).coord = factor • vector.coord := by
  funext index
  show _ = factor * vector.coord index
  by_cases inside : index < vector.size
  · rw [coord_of_lt (by simpa using inside), coord_of_lt inside]
    simp [scale, mul_comm]
  · rw [coord_of_le (by simpa using inside), coord_of_le (by omega), mul_zero]

/-- A vector with nothing added is the vector. -/
theorem moved_zeros (a : K) {vector : Vec K} {length : ℕ} (size : vector.size = length) :
    moved a (zeros length) vector = vector := by
  have same : (zeros length : Vec K).size = vector.size := (size_zeros length).trans size.symm
  refine ext_coord (size_moved_of_size same rfl) ?_
  rw [coord_moved a same, coord_zeros, smul_zero, zero_add]

/-- A vector added to nothing is the vector. -/
theorem moved_one_onto_zeros {vector : Vec K} {length : ℕ} (size : vector.size = length) :
    moved 1 vector (zeros length) = vector := by
  have same : vector.size = (zeros length : Vec K).size := size.trans (size_zeros length).symm
  refine ext_coord (size_moved_of_size rfl same.symm) ?_
  rw [coord_moved 1 same, coord_zeros, one_smul, add_zero]

/-- A vector less itself is zero. -/
theorem moved_neg_one_self (vector : Vec K) : moved (-1) vector vector = zeros vector.size := by
  refine ext_coord ((size_moved_of_size rfl rfl).trans (size_zeros _).symm) ?_
  rw [coord_moved (-1) rfl, coord_zeros, neg_one_smul, neg_add_cancel]

/-- A multiple of zero is zero. -/
theorem scale_zeros (factor : K) (length : ℕ) : scale factor (zeros length) = zeros length := by
  refine ext_coord (size_scale _ _) ?_
  rw [coord_scale, coord_zeros, smul_zero]

/-! ### Sums of products -/

/-- Terms added from the left, the later ones in front. -/
theorem foldl_term_add (terms : List K) (initial : K) :
    terms.foldl (fun sum term => term + sum) initial = initial + terms.sum := by
  induction terms generalizing initial with
  | nil => simp
  | cons term terms hypothesis =>
    rw [List.foldl_cons, hypothesis, List.sum_cons]
    ring

/-- Terms added from the left. -/
theorem foldl_add_term (terms : List K) (initial : K) :
    terms.foldl (· + ·) initial = initial + terms.sum := by
  induction terms generalizing initial with
  | nil => simp
  | cons term terms hypothesis =>
    rw [List.foldl_cons, hypothesis, List.sum_cons]
    ring

/-- **The lanes add up to the sum.** -/
theorem laneSum_eq_sum (lanes : Lanes K) (terms : List K) :
    laneSum lanes terms = lanes.total + terms.sum := by
  induction lanes, terms using laneSum.induct with
  | case1 lanes t0 t1 t2 t3 t4 t5 t6 t7 rest hypothesis =>
    rw [laneSum, hypothesis]
    simp only [Lanes.total, List.sum_cons]
    ring
  | case2 lanes rest short =>
    rw [laneSum, foldl_add_term]
    exact short

/-- The sum of the products of two lists, entry by entry. -/
theorem sum_zipWith {first second : Vec K} (product : K → K → K) {length : ℕ}
    (firstSize : first.size = length) (secondSize : second.size = length) :
    (List.zipWith product first.toList second.toList).sum =
      ∑ index ∈ Finset.range length, product (first.coord index) (second.coord index) := by
  rw [Finset.sum_range, ← List.sum_ofFn]
  congr 1
  apply List.ext_getElem
  · simp [firstSize, secondSize]
  · intro index below within
    have inside : index < first.size := by
      rw [List.length_zipWith] at below
      exact lt_of_lt_of_le below (min_le_left _ _)
    have beside : index < second.size := by omega
    simp [coord_of_lt inside, coord_of_lt beside]

/-- The inner product of two vectors of one length. -/
theorem dot_eq_sum {first second : Vec K} {length : ℕ} (firstSize : first.size = length)
    (secondSize : second.size = length) :
    dot first second = ∑ index ∈ Finset.range length, first.coord index * second.coord index := by
  unfold dot
  rw [laneSum_eq_sum, sum_zipWith _ firstSize secondSize]
  simp [Lanes.total, Lanes.zero]

end Vec

/-! ### Matrices -/

namespace Mat

section Entries

variable [Zero K]

/-- The coordinates of a row. -/
@[simp]
theorem coord_rowAt (matrix : Mat K) (index : ℕ) :
    (matrix.rowAt index).coord = matrix.get index := by
  funext col
  unfold rowAt get
  by_cases inside : index < matrix.rows
  · rw [dif_pos inside, dif_pos inside]
    by_cases beside : col < matrix.cols
    · rw [dif_pos beside, Vec.coord_of_lt (by simpa using beside)]
      rfl
    · rw [dif_neg beside, Vec.coord_of_le (by simpa using beside)]
  · rw [dif_neg inside, dif_neg inside]
    rfl

theorem get_of_outside {matrix : Mat K} {row col : ℕ}
    (outside : ¬(row < matrix.rows ∧ col < matrix.cols)) : matrix.get row col = 0 := by
  unfold get
  split
  · exact dif_neg fun beside => outside ⟨by assumption, beside⟩
  · rfl

theorem get_of_le {matrix : Mat K} {index : ℕ} (beyond : matrix.rows ≤ index) :
    matrix.get index = 0 :=
  funext fun _ => get_of_outside fun inside => Nat.not_lt.mpr beyond inside.1

@[simp]
theorem get_zeros (rows cols index : ℕ) : (zeros rows cols : Mat K).get index = 0 := by
  funext col
  unfold get
  split
  · split
    · simp [zeros]
    · rfl
  · rfl

/-- Matrices of one shape are equal if their entries are. -/
theorem ext_get {first second : Mat K} (shape : first.shape = second.shape)
    (same : ∀ index, index < first.rows → first.get index = second.get index) :
    first = second := by
  refine ext_rowAt shape fun index inside => ?_
  obtain ⟨rows, cols⟩ := Prod.mk.inj shape
  refine Vec.ext_coord ?_ ?_
  · rw [size_rowAt inside, size_rowAt (rows ▸ inside), cols]
  · rw [coord_rowAt, coord_rowAt, same index inside]

end Entries

variable [CommRing K]

/-- The map `x ↦ M x` of sequences. -/
def linear (matrix : Mat K) : (ℕ → K) →ₗ[K] (ℕ → K) where
  toFun x row := ∑ col ∈ Finset.range matrix.cols, matrix.get row col * x col
  map_add' x y := by
    funext row
    simp [mul_add, Finset.sum_add_distrib]
  map_smul' factor x := by
    funext row
    simp [Finset.mul_sum, mul_left_comm]

/-- The map `x ↦ Mᵀ x` of sequences. -/
def transposeLinear (matrix : Mat K) : (ℕ → K) →ₗ[K] (ℕ → K) where
  toFun x col := ∑ row ∈ Finset.range matrix.rows, matrix.get row col * x row
  map_add' x y := by
    funext col
    simp [mul_add, Finset.sum_add_distrib]
  map_smul' factor x := by
    funext col
    simp [Finset.mul_sum, mul_left_comm]

theorem linear_apply (matrix : Mat K) (x : ℕ → K) (row : ℕ) :
    matrix.linear x row = ∑ col ∈ Finset.range matrix.cols, matrix.get row col * x col :=
  rfl

theorem transposeLinear_apply (matrix : Mat K) (x : ℕ → K) (col : ℕ) :
    matrix.transposeLinear x col = ∑ row ∈ Finset.range matrix.rows, matrix.get row col * x row :=
  rfl

/-- There is nothing beyond the columns. -/
theorem transposeLinear_of_le {matrix : Mat K} {col : ℕ} (beyond : matrix.cols ≤ col)
    (x : ℕ → K) : matrix.transposeLinear x col = 0 := by
  have outside : ∀ row, matrix.get row col = 0 :=
    fun row => get_of_outside fun inside => Nat.not_lt.mpr beyond inside.2
  rw [transposeLinear_apply]
  simp [outside]

theorem rowSum_eq_sum (terms : List K) : rowSum terms = terms.sum := by
  cases terms with
  | nil => rfl
  | cons first rest =>
    show rest.foldl _ first = _
    rw [Vec.foldl_term_add, List.sum_cons]

/-- The coordinates of `M x`. -/
theorem coord_times {matrix : Mat K} {x : Vec K} (source : matrix.cols = x.size) :
    (matrix.times x).coord = matrix.linear x.coord := by
  funext row
  rw [linear_apply]
  by_cases inside : row < matrix.rows
  · rw [Vec.coord_of_lt (by rw [size_times]; exact inside), ← coord_rowAt,
      ← Vec.sum_zipWith (· * ·) (size_rowAt inside) source.symm, ← rowSum_eq_sum]
    simp only [times, rowAt, inside, dite_true, Array.getElem_map]
    rfl
  · rw [Vec.coord_of_le (by rw [size_times]; omega), get_of_le (Nat.not_lt.mp inside)]
    simp

/-- The coordinates of `α · M x + β · y`. -/
theorem coord_timesAdd (α β : K) {matrix : Mat K} {x y : Vec K} (source : matrix.cols = x.size)
    (target : y.size = matrix.rows) :
    (matrix.timesAdd α x β y).coord = α • matrix.linear x.coord + β • y.coord := by
  funext row
  show _ = α * matrix.linear x.coord row + β * y.coord row
  rw [linear_apply]
  by_cases inside : row < matrix.rows
  · have terms := Vec.sum_zipWith (fun entry value => α * entry * value) (size_rowAt inside)
      source.symm
    rw [coord_rowAt] at terms
    have entry : (matrix.timesAdd α x β y).coord row = β * y.coord row +
        (List.zipWith (fun entry value => α * entry * value) (matrix.rowAt row).toList
          x.toList).sum := by
      rw [Vec.coord_of_lt (by rw [size_timesAdd target]; exact inside),
        Vec.coord_of_lt (by rw [target]; exact inside), ← Vec.foldl_term_add]
      simp only [timesAdd, rowAt, inside, dite_true, Array.getElem_zipWith]
      rfl
    rw [entry, terms, Finset.mul_sum, add_comm]
    simp only [mul_assoc]
  · rw [Vec.coord_of_le (by rw [size_timesAdd target]; omega), get_of_le (Nat.not_lt.mp inside),
      Vec.coord_of_le (by omega)]
    simp

/-- A column of the matrix, by coordinates. -/
theorem coord_column (matrix : Mat K) {col : ℕ} (inside : col < matrix.cols) :
    Vec.coord (matrix.entries.toArray.map fun row => row[col]) = fun row => matrix.get row col := by
  funext row
  by_cases below : row < matrix.rows
  · rw [Vec.coord_of_lt (by simpa using below)]
    simp [get, below, inside]
  · rw [Vec.coord_of_le (by simpa using below), get_of_le (Nat.not_lt.mp below)]
    rfl

/-- The coordinates of `Mᵀ x + y`. -/
theorem coord_transposeTimesAdd {matrix : Mat K} {x y : Vec K} (source : matrix.rows = x.size)
    (target : y.size = matrix.cols) :
    (matrix.transposeTimesAdd x y).coord = matrix.transposeLinear x.coord + y.coord := by
  funext col
  show _ = matrix.transposeLinear x.coord col + y.coord col
  rw [transposeLinear_apply]
  by_cases inside : col < matrix.cols
  · rw [Vec.coord_of_lt (by rw [size_transposeTimesAdd target]; exact inside),
      Vec.coord_of_lt (by rw [target]; exact inside)]
    have column := coord_column matrix inside
    have size : (matrix.entries.toArray.map fun row => row[col]).size = matrix.rows := by simp
    have product := Vec.dot_eq_sum size source.symm
    rw [column] at product
    rw [← product]
    simp [transposeTimesAdd, columns]
  · rw [Vec.coord_of_le (by rw [size_transposeTimesAdd target]; omega),
      Vec.coord_of_le (by omega)]
    rw [← transposeLinear_apply, transposeLinear_of_le (Nat.not_lt.mp inside), add_zero]

/-- The entries of a multiple. -/
theorem get_scale (factor : K) (matrix : Mat K) (row : ℕ) :
    (matrix.scale factor).get row = factor • matrix.get row := by
  funext col
  show _ = factor * matrix.get row col
  unfold get
  by_cases inside : row < matrix.rows
  · rw [dif_pos (show row < (matrix.scale factor).rows from inside), dif_pos inside]
    by_cases beside : col < matrix.cols
    · rw [dif_pos (show col < (matrix.scale factor).cols from beside), dif_pos beside]
      simp [scale, mul_comm]
    · rw [dif_neg (show ¬col < (matrix.scale factor).cols from beside), dif_neg beside, mul_zero]
  · rw [dif_neg (show ¬row < (matrix.scale factor).rows from inside), dif_neg inside, mul_zero]

/-- The rows of a matrix moved by `ratio` of the way. -/
theorem get_blended (ratio : K) {matrix target : Mat K} (same : matrix.shape = target.shape)
    (row : ℕ) :
    (blended ratio matrix target).get row =
      (1 - ratio) • matrix.get row + ratio • target.get row := by
  obtain ⟨rows, cols⟩ := Prod.mk.inj same
  funext col
  show _ = (1 - ratio) * matrix.get row col + ratio * target.get row col
  unfold blended
  rw [get_ofFn]
  split
  · ring
  · rename_i outside
    have beyond : ¬(row < target.rows ∧ col < target.cols) := by
      rw [← rows, ← cols]
      exact outside
    rw [get_of_outside outside, get_of_outside beyond]
    ring

/-- Moved all the way, a matrix is the target. -/
theorem blended_one {matrix target : Mat K} (same : matrix.shape = target.shape) :
    blended 1 matrix target = target := by
  refine ext_get same fun row _ => ?_
  rw [get_blended 1 same, sub_self, zero_smul, one_smul, zero_add]

end Mat

end RecedingHorizon
