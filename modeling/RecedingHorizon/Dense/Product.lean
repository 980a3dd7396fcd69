/-
**Matrix and vector products.**

The order of the additions is fixed, since it decides the last bits of a floating-point result:

* a row product adds its terms from left to right. `Mat.mulVec` starts from the first term, and
  `Mat.addMulVec` from a multiple of the vector that it adds to;
* `Vec.dot`, and with it the transposed products, distributes its terms over eight lanes, adds the
  lanes up in a fixed order, and then adds the terms of an incomplete last block one by one.
-/

import RecedingHorizon.Dense.Mat

namespace RecedingHorizon

universe u

variable {K : Type u}

/-! ### Inner products -/

namespace Vec

/-- Eight running sums. -/
structure Lanes (K : Type u) where
  (lane0 lane1 lane2 lane3 lane4 lane5 lane6 lane7 : K)

/-- Running sums of nothing. -/
def Lanes.zero [Zero K] : Lanes K :=
  ⟨0, 0, 0, 0, 0, 0, 0, 0⟩

/-- The sum of the lanes, opposite lanes first. -/
def Lanes.total [Zero K] [Add K] (lanes : Lanes K) : K :=
  0 + (lanes.lane0 + lanes.lane4) + (lanes.lane1 + lanes.lane5) +
    (lanes.lane2 + lanes.lane6) + (lanes.lane3 + lanes.lane7)

/-- Terms added to eight lanes, block by block; the terms after the last full block are added to the
total of the lanes. -/
def laneSum [Zero K] [Add K] (lanes : Lanes K) : List K → K
  | t0 :: t1 :: t2 :: t3 :: t4 :: t5 :: t6 :: t7 :: rest =>
    laneSum ⟨lanes.lane0 + t0, lanes.lane1 + t1, lanes.lane2 + t2, lanes.lane3 + t3,
      lanes.lane4 + t4, lanes.lane5 + t5, lanes.lane6 + t6, lanes.lane7 + t7⟩ rest
  | rest => rest.foldl (· + ·) lanes.total

/-- The inner product of two vectors of one length. -/
def dot [Zero K] [Add K] [Mul K] (first second : Vec K) : K :=
  laneSum .zero (List.zipWith (· * ·) first.toList second.toList)

end Vec

/-! ### Products with a matrix -/

namespace Mat

/-- Terms added up from the first one on; no terms add up to zero. -/
def rowSum [Zero K] [Add K] : List K → K
  | [] => 0
  | first :: rest => rest.foldl (fun sum term => term + sum) first

/-- The product `M · x`. -/
def mulVec [Zero K] [Add K] [Mul K] (matrix : Mat K) (x : Vec K) : Checked (Vec K) :=
  if matrix.cols = x.size then
    .ok (matrix.entries.toArray.map fun row => rowSum (List.zipWith (· * ·) row.toList x.toList))
  else
    .error (.sizeMismatch matrix.cols x.size)

/-- The vector `α · M · x + β · y`. -/
def addMulVec [Add K] [Mul K] (α : K) (matrix : Mat K) (x : Vec K) (β : K) (y : Vec K) :
    Checked (Vec K) :=
  if matrix.cols = x.size then
    if y.size = matrix.rows then
      .ok (Array.zipWith (fun row old =>
        (List.zipWith (fun entry value => α * entry * value) row.toList x.toList).foldl
          (fun sum term => term + sum) (β * old)) matrix.entries.toArray y)
    else
      .error (.sizeMismatch y.size matrix.rows)
  else
    .error (.sizeMismatch matrix.cols x.size)

/-- The product `Mᵀ · x`. -/
def transposeMulVec [Zero K] [Add K] [Mul K] (matrix : Mat K) (x : Vec K) : Checked (Vec K) :=
  if matrix.rows = x.size then .ok (matrix.columns.map fun column => Vec.dot column x)
  else .error (.sizeMismatch matrix.rows x.size)

/-- The vector `Mᵀ · x + y`. -/
def addTransposeMulVec [Zero K] [Add K] [Mul K] (matrix : Mat K) (x y : Vec K) :
    Checked (Vec K) :=
  if matrix.rows = x.size then
    if y.size = matrix.cols then
      .ok (Array.zipWith (fun column old => Vec.dot column x + old) matrix.columns y)
    else
      .error (.sizeMismatch y.size matrix.cols)
  else
    .error (.sizeMismatch matrix.rows x.size)

end Mat

end RecedingHorizon
