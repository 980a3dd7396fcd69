/-
**Dense vectors.**

Vectors carry their length at run time. An operation on two vectors asks for equal lengths, and a
block of a vector has to lie inside it; where that fails the answer is a `Fault` and not a value, so
that a computation which never faults is one whose every access is in bounds.

* `Vec.entry` reads one entry and `Vec.store` writes one;
* `Vec.overwrite` puts the content of one vector into the storage of another;
* `Vec.axpy` is `y + a · x`, and `Vec.offset` the same in the storage of a third vector;
* `Vec.segment` reads a block and `Vec.splice` writes one;
* `Vec.normSq` adds the squares from the left, starting from negative zero, which is the sum of
  nothing.
-/

namespace RecedingHorizon

universe u

/-- An access that a dense operation refuses. -/
inductive Fault where
  /-- A block or a row that ends beyond the storage. -/
  | outOfRange (index size : Nat)
  /-- Two operands whose sizes have to agree. -/
  | sizeMismatch (expected actual : Nat)
deriving DecidableEq, Repr

/-- A computation whose accesses are checked. -/
abbrev Checked (α : Type u) := Except Fault α

/-- A vector over the scalars `K`. -/
abbrev Vec (K : Type u) := Array K

namespace Vec

variable {K : Type u}

/-- The zero vector. -/
def zeros [Zero K] (length : Nat) : Vec K :=
  Array.replicate length 0

@[simp]
theorem size_zeros [Zero K] (length : Nat) : (zeros length : Vec K).size = length := by
  simp [zeros]

/-- The entry at an index. -/
def entry (vector : Vec K) (index : Nat) : Checked K :=
  match vector[index]? with
  | some value => .ok value
  | none => .error (.outOfRange index vector.size)

/-- The vector with one entry replaced. -/
def store (vector : Vec K) (index : Nat) (value : K) : Checked (Vec K) :=
  if index < vector.size then .ok (vector.setIfInBounds index value)
  else .error (.outOfRange index vector.size)

/-- The content of `source` in the storage of `buffer`, whose own content is lost. -/
def overwrite (buffer source : Vec K) : Checked (Vec K) :=
  if buffer.size = source.size then .ok source
  else .error (.sizeMismatch buffer.size source.size)

/-- The vector `y + a · x`. -/
def axpy [Add K] [Mul K] (a : K) (x y : Vec K) : Checked (Vec K) :=
  if y.size = x.size then .ok (Array.zipWith (fun entry old => a * entry + old) x y)
  else .error (.sizeMismatch y.size x.size)

/-- The vector `base + a · direction`, in the storage of `buffer`. -/
def offset [Add K] [Mul K] (buffer base : Vec K) (a : K) (direction : Vec K) :
    Checked (Vec K) := do
  let copied ← overwrite buffer base
  axpy a direction copied

/-- Every entry times a factor. -/
def scale [Mul K] (factor : K) (vector : Vec K) : Vec K :=
  vector.map (· * factor)

/-- The block of `length` entries from `start` on. -/
def segment (vector : Vec K) (start length : Nat) : Checked (Vec K) :=
  if start + length ≤ vector.size then .ok (vector.extract start (start + length))
  else .error (.outOfRange (start + length) vector.size)

/-- A block that is read has the length asked for. -/
theorem size_of_segment {vector block : Vec K} {start length : Nat}
    (read : segment vector start length = .ok block) : block.size = length := by
  unfold segment at read
  split at read
  · cases read
    simp
    omega
  · cases read

/-- The vector with the block from `start` on replaced by `block`. -/
def splice (vector : Vec K) (start : Nat) (block : Vec K) : Checked (Vec K) :=
  if start + block.size ≤ vector.size then
    .ok (vector.extract 0 start ++ block ++ vector.extract (start + block.size) vector.size)
  else
    .error (.outOfRange (start + block.size) vector.size)

/-- Writing a block keeps the length. -/
theorem size_of_splice {vector block result : Vec K} {start : Nat}
    (written : splice vector start block = .ok result) : result.size = vector.size := by
  unfold splice at written
  split at written
  · cases written
    simp
    omega
  · cases written

/-- The sum of the squares of a list of values. -/
def sumOfSquares [Zero K] [Neg K] [Add K] [Mul K] (values : List K) : K :=
  values.foldl (fun sum value => sum + value * value) (-0)

/-- The sum of the squares of the entries. -/
def normSq [Zero K] [Neg K] [Add K] [Mul K] (vector : Vec K) : K :=
  sumOfSquares vector.toList

end Vec

end RecedingHorizon
