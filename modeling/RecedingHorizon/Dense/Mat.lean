/-
**Dense matrices.**

A matrix carries its two sizes and holds its entries by rows. Trajectories are matrices with one row
per stage.

* `Mat.get` is the entry view: an entry outside the matrix counts as zero;
* `Mat.entry` reads one entry and `Mat.store` writes one, inside the matrix only;
* `Mat.readRow` and `Mat.writeRow` move a row into and out of a vector, as far as both reach, and
  fault when there is no such row;
* `Mat.scaled` and `Mat.blend` work entry by entry;
* `Mat.normSq` adds the squares by columns.
-/

import RecedingHorizon.Dense.Vec

namespace RecedingHorizon

universe u

/-- A matrix with `rows` rows of `cols` entries. -/
structure Mat (K : Type u) where
  rows : Nat
  cols : Nat
  entries : Vector (Vector K cols) rows

namespace Mat

variable {K : Type u}

/-- The number of rows and the number of columns. -/
def shape (matrix : Mat K) : Nat × Nat :=
  (matrix.rows, matrix.cols)

/-- How a shape stands in a message. -/
def shapeText (shape : Nat × Nat) : String :=
  "(" ++ toString shape.1 ++ ", " ++ toString shape.2 ++ ")"

/-- The matrix with the given entries. -/
def ofFn (rows cols : Nat) (entry : Nat → Nat → K) : Mat K where
  rows := rows
  cols := cols
  entries := Vector.ofFn fun i => Vector.ofFn fun j => entry i j

/-- The zero matrix. -/
def zeros [Zero K] (rows cols : Nat) : Mat K where
  rows := rows
  cols := cols
  entries := Vector.replicate rows (Vector.replicate cols 0)

/-- The entry in a row and a column, zero outside the matrix. -/
def get [Zero K] (matrix : Mat K) (row col : Nat) : K :=
  if inside : row < matrix.rows then
    if beside : col < matrix.cols then matrix.entries[row][col] else 0
  else
    0

@[simp]
theorem shape_zeros [Zero K] (rows cols : Nat) : (zeros rows cols : Mat K).shape = (rows, cols) :=
  rfl

/-- The entries of a matrix given by its entries. -/
theorem get_ofFn [Zero K] (rows cols : Nat) (entry : Nat → Nat → K) (i j : Nat) :
    (ofFn rows cols entry).get i j = if i < rows ∧ j < cols then entry i j else 0 := by
  by_cases inside : i < rows <;> by_cases beside : j < cols <;>
    simp [get, ofFn, inside, beside]

/-- The entry in a row and a column of the matrix. -/
def entry (matrix : Mat K) (row col : Nat) : Checked K :=
  if inside : row < matrix.rows then
    if beside : col < matrix.cols then
      .ok matrix.entries[row][col]
    else
      .error (.outOfRange col matrix.cols)
  else
    .error (.outOfRange row matrix.rows)

/-- The matrix with one entry replaced. -/
def store (matrix : Mat K) (row col : Nat) (value : K) : Checked (Mat K) :=
  if inside : row < matrix.rows then
    if col < matrix.cols then
      let stored := matrix.entries[row].setIfInBounds col value
      .ok { matrix with entries := matrix.entries.set row stored inside }
    else
      .error (.outOfRange col matrix.cols)
  else
    .error (.outOfRange row matrix.rows)

/-- A row as a vector. -/
def row (matrix : Mat K) (index : Nat) : Checked (Vec K) :=
  if inside : index < matrix.rows then
    .ok matrix.entries[index].toArray
  else
    .error (.outOfRange index matrix.rows)

/-- The columns as vectors, from left to right. -/
def columns (matrix : Mat K) : Vec (Vec K) :=
  Array.ofFn fun col : Fin matrix.cols => matrix.entries.toArray.map fun row => row[col]

/-- The vector with its leading entries taken from a row. -/
def readRow (buffer : Vec K) (matrix : Mat K) (index : Nat) : Checked (Vec K) := do
  let source ← matrix.row index
  return buffer.mapIdx fun position old => source.getD position old

/-- The matrix with the leading entries of a row taken from a vector. -/
def writeRow (matrix : Mat K) (index : Nat) (source : Vec K) : Checked (Mat K) :=
  if inside : index < matrix.rows then
    let stored := matrix.entries[index].mapIdx fun position old =>
      source.getD position old
    .ok { matrix with entries := matrix.entries.set index stored inside }
  else
    .error (.outOfRange index matrix.rows)

/-- The content of `source` in the storage of `buffer`, whose own content is lost. -/
def overwrite (buffer source : Mat K) : Checked (Mat K) :=
  if buffer.rows = source.rows then
    if buffer.cols = source.cols then .ok source
    else .error (.sizeMismatch buffer.cols source.cols)
  else
    .error (.sizeMismatch buffer.rows source.rows)

/-- Every entry times a factor. -/
def scale [Mul K] (factor : K) (matrix : Mat K) : Mat K :=
  { matrix with entries := matrix.entries.map fun row => row.map (· * factor) }

/-- The matrix `factor · source`, in the storage of `buffer`. -/
def scaled [Mul K] (buffer source : Mat K) (factor : K) : Checked (Mat K) := do
  let copied ← overwrite buffer source
  return copied.scale factor

/-- Every entry moved towards the entry of `target`, by `ratio` of the way. -/
def blend [Zero K] [Add K] [Sub K] [Mul K] (ratio : K) (matrix target : Mat K) :
    Checked (Mat K) :=
  if matrix.rows = target.rows then
    if matrix.cols = target.cols then
      .ok (ofFn matrix.rows matrix.cols fun i j =>
        matrix.get i j + ratio * (target.get i j - matrix.get i j))
    else
      .error (.sizeMismatch matrix.cols target.cols)
  else
    .error (.sizeMismatch matrix.rows target.rows)

/-- The sum of the squares of the entries, column after column. -/
def normSq [Zero K] [Neg K] [Add K] [Mul K] (matrix : Mat K) : K :=
  Vec.sumOfSquares (matrix.columns.toList.flatMap Array.toList)

end Mat

end RecedingHorizon
