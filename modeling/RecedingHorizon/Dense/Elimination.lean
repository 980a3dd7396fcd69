/-
**Linear systems.**

Square systems are solved by Gaussian elimination with partial pivoting. The equations are a list;
each step takes the equation with the largest leading coefficient in absolute value, the first of
several such, puts the first equation in its place, and subtracts multiples of the pivot equation
from the others. Back substitution then finds the unknowns from the last to the first.

* `Elimination.solve` has no answer when some step finds no pivot other than zero;
* `Mat.solve?` is the same for a matrix and a right-hand side.
-/

import RecedingHorizon.Dense.Mat

namespace RecedingHorizon

universe u

variable {K : Type u}

namespace Elimination

/-- An equation `∑ coefficientᵢ · xᵢ = value` in the unknowns that are left. -/
structure Equation (K : Type u) where
  coefficients : List K
  value : K

/-- The coefficient of the first unknown. -/
def Equation.lead [Zero K] (equation : Equation K) : K :=
  equation.coefficients.headD 0

/-- The coefficients of the other unknowns. -/
def Equation.others (equation : Equation K) : List K :=
  equation.coefficients.tail

/-! ### The pivot -/

/-- The absolute value. -/
def magnitude [Zero K] [Neg K] [LT K] [DecidableLT K] (x : K) : K :=
  if x < 0 then -x else x

/-- The position of the first largest magnitude. The list holds the values from position `next` on;
`best`, at `position`, is the largest magnitude before them. -/
def largest [Zero K] [Neg K] [LT K] [DecidableLT K] (position : Nat) (best : K) (next : Nat) :
    List K → Nat
  | [] => position
  | x :: rest =>
    if best < magnitude x then
      largest next (magnitude x) (next + 1) rest
    else
      largest position best (next + 1) rest

/-- The pivot equation of `first :: rest`, and the others with `first` in its place. -/
def choosePivot [Zero K] [Neg K] [LT K] [DecidableLT K] (first : Equation K)
    (rest : List (Equation K)) : Equation K × List (Equation K) :=
  match largest 0 (magnitude first.lead) 1 (rest.map Equation.lead) with
  | 0 => (first, rest)
  | place + 1 =>
    match rest[place]? with
    | some pivot => (pivot, rest.set place first)
    | none => (first, rest)

/-! ### Elimination and back substitution -/

/-- An equation without its first unknown, after subtracting a multiple of the pivot equation. -/
def eliminate [Zero K] [One K] [Add K] [Mul K] [Div K] [Neg K] (pivot equation : Equation K) :
    Equation K :=
  let factor := equation.lead * (1 / pivot.lead)
  { coefficients := List.zipWith (fun above entry => -above * factor + entry)
      pivot.others equation.others
    value := -pivot.value * factor + equation.value }

/-- The first unknown of an equation, given the others. -/
def substitute [Zero K] [Add K] [Mul K] [Div K] [Neg K] (equation : Equation K)
    (others : List K) : K :=
  (List.zip equation.others others).foldr (fun known value => -known.2 * known.1 + value)
    equation.value / equation.lead

variable [Zero K] [One K] [Add K] [Mul K] [Div K] [Neg K] [LT K] [DecidableLT K] [BEq K]

/-- The solution of a system in the given number of unknowns. -/
def solve : Nat → List (Equation K) → Option (List K)
  | 0, _ => some []
  | _ + 1, [] => none
  | unknowns + 1, first :: rest =>
    let (pivot, others) := choosePivot first rest
    if pivot.lead == 0 then
      none
    else
      match solve unknowns (others.map (eliminate pivot)) with
      | some solution => some (substitute pivot solution :: solution)
      | none => none

end Elimination

/-- The solution `x` of `M · x = b`, if the elimination finds its pivots. -/
def Mat.solve? [Zero K] [One K] [Add K] [Mul K] [Div K] [Neg K] [LT K] [DecidableLT K] [BEq K]
    (matrix : Mat K) (right : Vec K) : Option (Vec K) :=
  (Elimination.solve matrix.cols
    (List.zipWith (fun row value => ⟨row.toList, value⟩) matrix.entries.toList right.toList)).map
      List.toArray

end RecedingHorizon
