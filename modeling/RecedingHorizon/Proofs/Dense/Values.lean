/-
**Values of the checked kernels.**

Each dense kernel succeeds on operands of the right sizes, and what it then returns depends on
nothing but its operands: the content of the storage that it writes into is lost.

* `Vec.axpy_of_size`, `Vec.segment_of_le`, `Vec.splice_of_le`, `Mat.mulVec_of_size` and their like
  give the value under the condition on the sizes;
* `Mat.readRow_of_lt` and `Mat.exists_writeRow` say what a row load reads, and that a row store
  changes one row only;
* `Vec.block_patch_self` and `Vec.block_patch_of_disjoint` say the same of blocks;
* `Mat.ext_rowAt` and `Vec.ext_block` compare matrices by rows and vectors by blocks.

No law of arithmetic is used: all of it holds of every scalar type.
-/

import RecedingHorizon.Proofs.Checked
import RecedingHorizon.Dense.Product

namespace RecedingHorizon

universe u

variable {K : Type u}

/-! ### Vectors -/

namespace Vec

/-- The value of `axpy`: the vector `y + a · x`. -/
def moved [Add K] [Mul K] (a : K) (x y : Vec K) : Vec K :=
  Array.zipWith (fun entry old => a * entry + old) x y

/-- The block of `length` entries from `start` on, as far as the vector reaches. -/
def block (vector : Vec K) (start length : Nat) : Vec K :=
  vector.extract start (start + length)

/-- The vector with the block from `start` on replaced. -/
def patch (vector : Vec K) (start : Nat) (block : Vec K) : Vec K :=
  vector.extract 0 start ++ block ++ vector.extract (start + block.size) vector.size

theorem overwrite_of_size {buffer source : Vec K} (same : buffer.size = source.size) :
    overwrite buffer source = .ok source :=
  if_pos same

theorem axpy_of_size [Add K] [Mul K] {a : K} {x y : Vec K} (same : y.size = x.size) :
    axpy a x y = .ok (moved a x y) :=
  if_pos same

@[simp]
theorem size_moved [Add K] [Mul K] (a : K) (x y : Vec K) :
    (moved a x y).size = min x.size y.size := by
  simp [moved]

theorem size_moved_of_size [Add K] [Mul K] {a : K} {x y : Vec K} {length : Nat}
    (first : x.size = length) (second : y.size = length) : (moved a x y).size = length := by
  rw [size_moved, first, second, Nat.min_self]

theorem offset_of_size [Add K] [Mul K] {a : K} {buffer base direction : Vec K}
    (room : buffer.size = base.size) (same : base.size = direction.size) :
    offset buffer base a direction = .ok (moved a direction base) := by
  unfold offset
  rw [overwrite_of_size room, ok_bind, axpy_of_size same]

@[simp]
theorem size_scale [Mul K] (factor : K) (vector : Vec K) :
    (scale factor vector).size = vector.size :=
  Array.size_map

theorem segment_of_le {vector : Vec K} {start length : Nat}
    (inside : start + length ≤ vector.size) :
    segment vector start length = .ok (vector.block start length) :=
  if_pos inside

@[simp]
theorem size_block (vector : Vec K) (start length : Nat) :
    (vector.block start length).size = min (start + length) vector.size - start := by
  simp [block]

theorem size_block_of_le {vector : Vec K} {start length : Nat}
    (inside : start + length ≤ vector.size) : (vector.block start length).size = length :=
  size_of_segment (segment_of_le inside)

theorem splice_of_le {vector block : Vec K} {start : Nat}
    (inside : start + block.size ≤ vector.size) :
    splice vector start block = .ok (vector.patch start block) :=
  if_pos inside

theorem size_patch {vector block : Vec K} {start : Nat}
    (inside : start + block.size ≤ vector.size) : (vector.patch start block).size = vector.size :=
  size_of_splice (splice_of_le inside)

/-- An entry of a patched vector. -/
theorem getElem?_patch {vector block : Vec K} {start : Nat}
    (inside : start + block.size ≤ vector.size) (index : Nat) :
    (vector.patch start block)[index]? =
      if start ≤ index ∧ index < start + block.size then block[index - start]?
      else vector[index]? := by
  have size : (vector.extract 0 start).size = start := by
    simp
    omega
  unfold patch
  rw [Array.append_assoc, Array.getElem?_append, size]
  by_cases before : index < start
  · rw [if_pos before, if_neg (by omega), Array.getElem?_extract]
    simp
    omega
  · rw [if_neg before, Array.getElem?_append]
    by_cases within : index - start < block.size
    · rw [if_pos within, if_pos (by omega)]
    · rw [if_neg within, if_neg (by omega), Array.getElem?_extract]
      split
      · congr 1
        omega
      · rw [Array.getElem?_eq_none (by omega)]

/-- An entry of a block. -/
theorem getElem?_block (vector : Vec K) (start length index : Nat) :
    (vector.block start length)[index]? =
      if index < length then vector[start + index]? else none := by
  unfold block
  rw [Array.getElem?_extract]
  by_cases inside : index < length
  · rw [if_pos inside]
    split
    · rfl
    · rw [Array.getElem?_eq_none (by omega)]
  · rw [if_neg inside, if_neg (by omega)]

/-- A block that was written is read back. -/
theorem block_patch_self {vector block : Vec K} {start : Nat}
    (inside : start + block.size ≤ vector.size) :
    (vector.patch start block).block start block.size = block := by
  apply Array.ext_getElem?
  intro index
  rw [getElem?_block, getElem?_patch inside]
  by_cases within : index < block.size
  · rw [if_pos within, if_pos (by omega), Nat.add_sub_cancel_left]
  · rw [if_neg within, Array.getElem?_eq_none (by omega)]

/-- Writing a block keeps the blocks beside it. -/
theorem block_patch_of_disjoint {vector block : Vec K} {start other length : Nat}
    (inside : start + block.size ≤ vector.size)
    (apart : other + length ≤ start ∨ start + block.size ≤ other) :
    (vector.patch start block).block other length = vector.block other length := by
  apply Array.ext_getElem?
  intro index
  rw [getElem?_block, getElem?_block, getElem?_patch inside]
  by_cases within : index < length
  · rw [if_pos within, if_pos within, if_neg (by omega)]
  · rw [if_neg within, if_neg within]

/-- Two blocks side by side are one block. -/
theorem block_append {vector : Vec K} {start first second : Nat}
    (inside : start + first + second ≤ vector.size) :
    vector.block start first ++ vector.block (start + first) second =
      vector.block start (first + second) := by
  apply Array.ext_getElem?
  intro index
  have size : (vector.block start first).size = first := by
    simp
    omega
  rw [Array.getElem?_append, size, getElem?_block, getElem?_block, getElem?_block]
  by_cases before : index < first
  · rw [if_pos before, if_pos before, if_pos (by omega)]
  · rw [if_neg before]
    by_cases within : index - first < second
    · rw [if_pos within, if_pos (by omega)]
      congr 1
      omega
    · rw [if_neg within, if_neg (by omega)]

/-- A block of a block is a block. -/
theorem block_block {vector : Vec K} {start length offset count : Nat}
    (within : offset + count ≤ length) :
    (vector.block start length).block offset count = vector.block (start + offset) count := by
  apply Array.ext_getElem?
  intro index
  rw [getElem?_block, getElem?_block, getElem?_block]
  by_cases inside : index < count
  · rw [if_pos inside, if_pos inside, if_pos (by omega), Nat.add_assoc]
  · rw [if_neg inside, if_neg inside]

/-- **Vectors of `count` blocks of one width are equal if their blocks are.** -/
theorem ext_block {first second : Vec K} (count : Nat) {width : Nat}
    (firstSize : first.size = count * width)
    (secondSize : second.size = count * width)
    (same : ∀ index, index < count →
      first.block (index * width) width = second.block (index * width) width) : first = second := by
  apply Array.ext_getElem?
  intro position
  by_cases inside : position < count * width
  · have wide : 0 < width := Nat.pos_of_mul_pos_left (Nat.zero_lt_of_lt inside)
    have entry := congrArg (fun block : Vec K => block[position % width]?)
      (same (position / width) (Nat.div_lt_of_lt_mul (Nat.mul_comm count width ▸ inside)))
    simp only [getElem?_block, if_pos (Nat.mod_lt position wide), Nat.div_add_mod'] at entry
    exact entry
  · rw [Array.getElem?_eq_none (by omega), Array.getElem?_eq_none (by omega)]

end Vec

/-! ### Rows of a matrix -/

namespace Mat

/-- The entries of a row, none if there is no such row. -/
def rowAt (matrix : Mat K) (index : Nat) : Vec K :=
  if inside : index < matrix.rows then matrix.entries[index].toArray else #[]

theorem row_of_lt {matrix : Mat K} {index : Nat} (inside : index < matrix.rows) :
    matrix.row index = .ok (matrix.rowAt index) := by
  unfold row rowAt
  rw [dif_pos inside, dif_pos inside]

theorem size_rowAt {matrix : Mat K} {index : Nat} (inside : index < matrix.rows) :
    (matrix.rowAt index).size = matrix.cols := by
  unfold rowAt
  rw [dif_pos inside]
  exact Vector.size_toArray _

theorem rowAt_zeros [Zero K] {rows cols index : Nat} (inside : index < rows) :
    (zeros rows cols : Mat K).rowAt index = Vec.zeros cols := by
  unfold rowAt
  rw [dif_pos (show index < (zeros rows cols : Mat K).rows from inside)]
  simp [zeros, Vec.zeros]

/-- **A row load reads the row, whatever the storage held.** -/
theorem readRow_of_lt {buffer : Vec K} {matrix : Mat K} {index : Nat}
    (inside : index < matrix.rows) (room : buffer.size = matrix.cols) :
    readRow buffer matrix index = .ok (matrix.rowAt index) := by
  unfold readRow
  rw [row_of_lt inside, ok_bind, pure_eq_ok]
  congr 1
  have size := size_rowAt inside
  apply Array.ext
  · rw [Array.size_mapIdx, room, size]
  · intro position below within
    simp [Array.getD, within]

/-- **A row store changes one row only.** -/
theorem exists_writeRow {matrix : Mat K} {index : Nat} {source : Vec K}
    (inside : index < matrix.rows) (fits : source.size = matrix.cols) :
    ∃ result, matrix.writeRow index source = .ok result ∧ result.shape = matrix.shape ∧
      result.rowAt index = source ∧
      ∀ other, other ≠ index → result.rowAt other = matrix.rowAt other := by
  unfold writeRow
  rw [dif_pos inside]
  refine ⟨_, rfl, rfl, ?_, fun other apart => ?_⟩
  · unfold rowAt
    rw [dif_pos inside]
    apply Array.ext
    · simp [fits]
    · intro position below within
      simp [Array.getD, within]
  · unfold rowAt
    by_cases below : other < matrix.rows
    · rw [dif_pos below, dif_pos below]
      exact congrArg Vector.toArray (Vector.getElem_set_ne inside below apart.symm)
    · rw [dif_neg below, dif_neg below]

/-- **Matrices of one shape are equal if their rows are.** -/
theorem ext_rowAt {first second : Mat K} (shape : first.shape = second.shape)
    (same : ∀ index, index < first.rows → first.rowAt index = second.rowAt index) :
    first = second := by
  obtain ⟨rows, cols, entries⟩ := first
  obtain ⟨rows', cols', entries'⟩ := second
  obtain ⟨rfl, rfl⟩ : rows = rows' ∧ cols = cols' := by simpa [Mat.shape] using shape
  congr 1
  apply Vector.ext
  intro index inside
  have row := same index inside
  unfold rowAt at row
  rw [dif_pos inside, dif_pos inside] at row
  exact Vector.toArray_inj.mp row

theorem overwrite_of_shape {buffer source : Mat K} (same : buffer.shape = source.shape) :
    overwrite buffer source = .ok source := by
  obtain ⟨rows, cols⟩ := Prod.mk.inj same
  unfold overwrite
  rw [if_pos rows, if_pos cols]

theorem scaled_of_shape [Mul K] {buffer source : Mat K} (factor : K)
    (same : buffer.shape = source.shape) :
    scaled buffer source factor = .ok (source.scale factor) := by
  unfold scaled
  rw [overwrite_of_shape same, ok_bind, pure_eq_ok]

/-- The value of `blend`: every entry moved by `ratio` of the way to that of `target`. -/
def blended [Zero K] [Add K] [Sub K] [Mul K] (ratio : K) (matrix target : Mat K) : Mat K :=
  ofFn matrix.rows matrix.cols fun i j =>
    matrix.get i j + ratio * (target.get i j - matrix.get i j)

theorem blend_of_shape [Zero K] [Add K] [Sub K] [Mul K] (ratio : K) {matrix target : Mat K}
    (same : matrix.shape = target.shape) :
    blend ratio matrix target = .ok (blended ratio matrix target) := by
  obtain ⟨rows, cols⟩ := Prod.mk.inj same
  unfold blend
  rw [if_pos rows, if_pos cols]
  rfl

/-! ### Products -/

/-- The value of `mulVec`: the product `M · x`. -/
def times [Zero K] [Add K] [Mul K] (matrix : Mat K) (x : Vec K) : Vec K :=
  matrix.entries.toArray.map fun row => rowSum (List.zipWith (· * ·) row.toList x.toList)

/-- The value of `addMulVec`: the vector `α · M · x + β · y`. -/
def timesAdd [Add K] [Mul K] (α : K) (matrix : Mat K) (x : Vec K) (β : K) (y : Vec K) : Vec K :=
  Array.zipWith (fun row old =>
    (List.zipWith (fun entry value => α * entry * value) row.toList x.toList).foldl
      (fun sum term => term + sum) (β * old)) matrix.entries.toArray y

/-- The value of `addTransposeMulVec`: the vector `Mᵀ · x + y`. -/
def transposeTimesAdd [Zero K] [Add K] [Mul K] (matrix : Mat K) (x y : Vec K) : Vec K :=
  Array.zipWith (fun column old => Vec.dot column x + old) matrix.columns y

theorem mulVec_of_size [Zero K] [Add K] [Mul K] {matrix : Mat K} {x : Vec K}
    (source : matrix.cols = x.size) : matrix.mulVec x = .ok (matrix.times x) :=
  if_pos source

@[simp]
theorem size_times [Zero K] [Add K] [Mul K] (matrix : Mat K) (x : Vec K) :
    (matrix.times x).size = matrix.rows := by
  simp [times]

theorem addMulVec_of_size [Add K] [Mul K] {α β : K} {matrix : Mat K} {x y : Vec K}
    (source : matrix.cols = x.size) (target : y.size = matrix.rows) :
    matrix.addMulVec α x β y = .ok (matrix.timesAdd α x β y) := by
  unfold addMulVec
  rw [if_pos source, if_pos target]
  rfl

theorem size_timesAdd [Add K] [Mul K] {α β : K} {matrix : Mat K} {x y : Vec K}
    (target : y.size = matrix.rows) : (matrix.timesAdd α x β y).size = matrix.rows := by
  simp [timesAdd, target]

theorem addTransposeMulVec_of_size [Zero K] [Add K] [Mul K] {matrix : Mat K} {x y : Vec K}
    (source : matrix.rows = x.size) (target : y.size = matrix.cols) :
    matrix.addTransposeMulVec x y = .ok (matrix.transposeTimesAdd x y) := by
  unfold addTransposeMulVec
  rw [if_pos source, if_pos target]
  rfl

theorem size_transposeTimesAdd [Zero K] [Add K] [Mul K] {matrix : Mat K} {x y : Vec K}
    (target : y.size = matrix.cols) : (matrix.transposeTimesAdd x y).size = matrix.cols := by
  simp [transposeTimesAdd, columns, target]

end Mat

end RecedingHorizon
