/-
**Elimination is exact.**

Over a field, a system and its solution say the same: the values that satisfy all equations are
those that the elimination finds. Taking a pivot permutes the equations, subtracting the pivot
equation from another does not change what the two of them say together, and back substitution
solves the pivot equation.

* `choosePivot_perm`, `holds_eliminate_iff` and `holds_iff_eq_substitute` are the parts of a step,
  `holds_pivot_iff` is the step, and `holds_iff_eq_of_solve` the whole run;
* `Mat.Nonsingular` and `Mat.ExactSolver` are what is asked of a solver of linear systems, and
  `Mat.exactSolver_solve?` says that the elimination is one.
-/

import Mathlib.Tactic.LinearCombination
import RecedingHorizon.Dense.Elimination
import RecedingHorizon.Proofs.Dense.Coordinates

set_option linter.unusedSectionVars false

namespace RecedingHorizon

universe u

variable {K : Type u}

/-! ### The length of a solution -/

section Solutions

variable [Zero K] [One K] [Add K] [Mul K] [Div K] [Neg K] [LT K] [DecidableLT K] [BEq K]

/-- A solution has a value for every unknown. -/
theorem Elimination.length_solve {unknowns : Nat} {equations : List (Equation K)}
    {solution : List K} (solved : solve unknowns equations = some solution) :
    solution.length = unknowns := by
  induction unknowns generalizing equations solution with
  | zero =>
    cases solved
    rfl
  | succ unknowns hypothesis =>
    cases equations with
    | nil => cases solved
    | cons first rest =>
      unfold solve at solved
      simp only at solved
      split at solved
      · cases solved
      · split at solved
        · rename_i others reduced
          cases solved
          rw [List.length_cons, hypothesis reduced]
        · cases solved

theorem Mat.size_of_solve? {matrix : Mat K} {right solution : Vec K}
    (solved : matrix.solve? right = some solution) : solution.size = matrix.cols := by
  obtain ⟨values, found, rfl⟩ := Option.map_eq_some_iff.mp solved
  rw [List.size_toArray, Elimination.length_solve found]

end Solutions

section Exact

variable [Field K]

namespace Elimination

/-! ### What an equation says -/

/-- The values satisfy the equation. -/
def Equation.Holds (equation : Equation K) (values : List K) : Prop :=
  (List.zipWith (· * ·) equation.coefficients values).sum = equation.value

/-- An equation for a first value and others. -/
theorem Equation.holds_cons_iff {equation : Equation K} (some : equation.coefficients ≠ [])
    (value : K) (values : List K) :
    equation.Holds (value :: values) ↔
      equation.lead * value + (List.zipWith (· * ·) equation.others values).sum =
        equation.value := by
  obtain ⟨coefficients, right⟩ := equation
  cases coefficients with
  | nil => exact absurd rfl some
  | cons first rest => exact Iff.rfl

/-! ### One step -/

/-- Taking a pivot permutes the equations. -/
theorem choosePivot_perm [LT K] [DecidableLT K] (first : Equation K) (rest : List (Equation K)) :
    ((choosePivot first rest).1 :: (choosePivot first rest).2).Perm (first :: rest) := by
  unfold choosePivot
  split
  · exact List.Perm.refl _
  · rename_i place _
    split
    · rename_i pivot found
      have exchanged := rest.getD_set_perm_cons place first
      rwa [found] at exchanged
    · exact List.Perm.refl _

/-- The product with a combination of two equations. -/
theorem sum_zipWith_combined (factor : K) (values : List K) {above below : List K} {length : ℕ}
    (aboveLong : above.length = length) (belowLong : below.length = length) :
    (List.zipWith (· * ·) (List.zipWith (fun up down => -up * factor + down) above below)
        values).sum =
      -factor * (List.zipWith (· * ·) above values).sum +
        (List.zipWith (· * ·) below values).sum := by
  induction length generalizing above below values with
  | zero =>
    rw [List.length_eq_zero_iff] at aboveLong belowLong
    simp [aboveLong, belowLong]
  | succ length hypothesis =>
    obtain ⟨up, above, rfl⟩ := List.exists_cons_of_length_eq_add_one aboveLong
    obtain ⟨down, below, rfl⟩ := List.exists_cons_of_length_eq_add_one belowLong
    cases values with
    | nil => simp
    | cons value values =>
      have rest := hypothesis values (Nat.succ.inj aboveLong) (Nat.succ.inj belowLong)
      simp only [List.zipWith_cons_cons, List.sum_cons, rest]
      ring

/-- **Where the pivot equation holds**, an equation says the same before and after its elimination.
-/
theorem holds_eliminate_iff {pivot equation : Equation K} {length : ℕ}
    (pivotLong : pivot.coefficients.length = length + 1)
    (long : equation.coefficients.length = length + 1) (nonzero : pivot.lead ≠ 0) {value : K}
    {values : List K} (holds : pivot.Holds (value :: values)) :
    (eliminate pivot equation).Holds values ↔ equation.Holds (value :: values) := by
  rw [Equation.holds_cons_iff (List.ne_nil_of_length_eq_add_one pivotLong)] at holds
  rw [Equation.holds_cons_iff (List.ne_nil_of_length_eq_add_one long)]
  have others : pivot.others.length = length := by
    rw [Equation.others, List.length_tail, pivotLong, Nat.add_sub_cancel]
  have beside : equation.others.length = length := by
    rw [Equation.others, List.length_tail, long, Nat.add_sub_cancel]
  have cancels : equation.lead * (1 / pivot.lead) * pivot.lead = equation.lead := by
    rw [mul_assoc, one_div_mul_cancel nonzero, mul_one]
  unfold Equation.Holds eliminate
  simp only
  rw [sum_zipWith_combined _ _ others beside, ← holds]
  constructor
  · intro eliminated
    linear_combination eliminated - value * cancels
  · intro given
    linear_combination given + value * cancels

/-- The known terms are subtracted from the right-hand side. -/
theorem foldr_known (coefficients values : List K) (right : K) :
    (List.zip coefficients values).foldr (fun known value => -known.2 * known.1 + value) right =
      right - (List.zipWith (· * ·) coefficients values).sum := by
  induction coefficients generalizing values with
  | nil => simp
  | cons coefficient coefficients hypothesis =>
    cases values with
    | nil => simp
    | cons value values =>
      rw [List.zip_cons_cons, List.foldr_cons, hypothesis, List.zipWith_cons_cons, List.sum_cons]
      ring

/-- **Back substitution solves the pivot equation** for its first unknown. -/
theorem holds_iff_eq_substitute {pivot : Equation K} {length : ℕ}
    (long : pivot.coefficients.length = length + 1) (nonzero : pivot.lead ≠ 0) (value : K)
    (values : List K) : pivot.Holds (value :: values) ↔ value = substitute pivot values := by
  rw [Equation.holds_cons_iff (List.ne_nil_of_length_eq_add_one long), substitute, foldr_known,
    eq_div_iff nonzero, eq_sub_iff_add_eq, mul_comm value]

/-- **One step of the elimination**: equations with a pivot say what the first unknown is, and what
the others have to satisfy. -/
theorem holds_pivot_iff {pivot : Equation K} {others : List (Equation K)} {length : ℕ}
    (long : ∀ equation ∈ pivot :: others, equation.coefficients.length = length + 1)
    (nonzero : pivot.lead ≠ 0) (value : K) (values : List K) :
    (∀ equation ∈ pivot :: others, equation.Holds (value :: values)) ↔
      value = substitute pivot values ∧
        ∀ equation ∈ others.map (eliminate pivot), equation.Holds values := by
  have pivotLong := long pivot List.mem_cons_self
  rw [List.forall_mem_cons, List.forall_mem_map, ← holds_iff_eq_substitute pivotLong nonzero]
  refine and_congr_right fun holds => forall₂_congr fun equation member => ?_
  exact (holds_eliminate_iff pivotLong (long equation (List.mem_cons_of_mem _ member)) nonzero
    holds).symm

/-! ### The whole run -/

/-- **A system and its solution say the same**: the values that satisfy all equations are those
found. -/
theorem holds_iff_eq_of_solve [LT K] [DecidableLT K] [BEq K] [LawfulBEq K] {unknowns : ℕ}
    {equations : List (Equation K)} {solution : List K}
    (solved : solve unknowns equations = some solution) (count : equations.length = unknowns)
    (long : ∀ equation ∈ equations, equation.coefficients.length = unknowns) {values : List K}
    (each : values.length = unknowns) :
    (∀ equation ∈ equations, equation.Holds values) ↔ values = solution := by
  induction unknowns generalizing equations solution values with
  | zero =>
    cases solved
    rw [List.length_eq_zero_iff] at count each
    simp [count, each]
  | succ unknowns hypothesis =>
    obtain ⟨first, rest, rfl⟩ := List.exists_cons_of_length_eq_add_one count
    obtain ⟨value, values, rfl⟩ := List.exists_cons_of_length_eq_add_one each
    have permuted := choosePivot_perm first rest
    unfold solve at solved
    revert permuted solved
    obtain ⟨pivot, others⟩ := choosePivot first rest
    intro permuted solved
    simp only at permuted solved
    split at solved
    · cases solved
    rename_i nonzero
    replace nonzero : pivot.lead ≠ 0 := fun zero => nonzero (beq_iff_eq.mpr zero)
    split at solved
    · rename_i reduced found
      cases solved
      have within : ∀ equation ∈ pivot :: others, equation.coefficients.length = unknowns + 1 :=
        fun equation member => long equation (permuted.mem_iff.mp member)
      have fewer : (others.map (eliminate pivot)).length = unknowns := by
        rw [List.length_map]
        exact Nat.succ.inj (permuted.length_eq.trans count)
      have shorter : ∀ equation ∈ others.map (eliminate pivot),
          equation.coefficients.length = unknowns := by
        intro equation member
        obtain ⟨other, inside, rfl⟩ := List.mem_map.mp member
        simp [eliminate, Equation.others, within pivot, within other, inside]
      calc (∀ equation ∈ first :: rest, equation.Holds (value :: values))
          ↔ ∀ equation ∈ pivot :: others, equation.Holds (value :: values) :=
            forall_congr' fun equation => imp_congr_left permuted.mem_iff.symm
        _ ↔ value = substitute pivot values ∧
              ∀ equation ∈ others.map (eliminate pivot), equation.Holds values :=
            holds_pivot_iff within nonzero value values
        _ ↔ value = substitute pivot values ∧ values = reduced :=
            and_congr_right' (hypothesis found fewer shorter (Nat.succ.inj each))
        _ ↔ value = substitute pivot reduced ∧ values = reduced :=
            and_congr_left fun same => by rw [same]
        _ ↔ value :: values = substitute pivot reduced :: reduced :=
            (List.cons.injEq _ _ _ _).to_iff.symm
    · cases solved

end Elimination

/-! ### Solvers -/

namespace Mat

open Elimination

/-- **A matrix is nonsingular** if it takes nothing but zero to zero. -/
def Nonsingular (matrix : Mat K) : Prop :=
  ∀ x, matrix.linear x = 0 → ∀ col, col < matrix.cols → x col = 0

/-- **An exact solver** of square systems: what it finds is a solution, and it finds something for
nonsingular matrices only. -/
def ExactSolver (solve : Mat K → Vec K → Option (Vec K)) : Prop :=
  ∀ matrix right solution, 0 < matrix.rows → matrix.cols = matrix.rows →
    right.size = matrix.rows → solve matrix right = some solution →
    solution.size = right.size ∧ matrix.linear solution.coord = right.coord ∧ matrix.Nonsingular

/-- A product is known from the entries on the columns. -/
theorem linear_congr {matrix : Mat K} {x y : ℕ → K}
    (same : ∀ col, col < matrix.cols → x col = y col) : matrix.linear x = matrix.linear y := by
  funext row
  rw [linear_apply, linear_apply]
  exact Finset.sum_congr rfl fun col inside => by rw [same col (Finset.mem_range.mp inside)]

/-- **A system has one solution at most** if its matrix is nonsingular. -/
theorem Nonsingular.unique {matrix : Mat K} (nonsingular : matrix.Nonsingular) {x y : ℕ → K}
    (same : matrix.linear x = matrix.linear y) {col : ℕ} (inside : col < matrix.cols) :
    x col = y col := by
  have zero := nonsingular (x - y) (by rw [map_sub, same, sub_self]) col inside
  exact sub_eq_zero.mp zero

/-- The equations of a system. -/
def equations (matrix : Mat K) (right : Vec K) : List (Equation K) :=
  List.zipWith (fun row value => ⟨row.toList, value⟩) matrix.entries.toList right.toList

/-- The equations of a system hold if and only if the product is the right-hand side. -/
theorem holds_equations_iff {matrix : Mat K} {right x : Vec K} (size : right.size = matrix.rows)
    (long : x.size = matrix.cols) :
    (∀ equation ∈ matrix.equations right, equation.Holds x.toList) ↔
      matrix.linear x.coord = right.coord := by
  have row : ∀ index (inside : index < matrix.rows),
      (Equation.mk (matrix.entries[index]).toList right[index]).Holds x.toList ↔
        matrix.linear x.coord index = right.coord index := by
    intro index inside
    have product := Vec.sum_zipWith (· * ·) (size_rowAt inside) long
    rw [coord_rowAt, ← linear_apply] at product
    rw [← product, Vec.coord_of_lt (size ▸ inside)]
    simp only [rowAt, inside, dite_true]
    rfl
  unfold equations
  rw [List.forall_mem_iff_getElem]
  constructor
  · intro holds
    funext index
    by_cases inside : index < matrix.rows
    · have equation := holds index (by simp [inside, size])
      simp only [List.getElem_zipWith, Vector.getElem_toList, Array.getElem_toList] at equation
      exact (row index inside).mp equation
    · rw [Vec.coord_of_le (by omega), linear_apply, get_of_le (Nat.not_lt.mp inside)]
      simp
  · intro same index inside
    have within : index < matrix.rows := by
      simp only [List.length_zipWith, Vector.length_toList] at inside
      omega
    simp only [List.getElem_zipWith, Vector.getElem_toList, Array.getElem_toList]
    exact (row index within).mpr (congrFun same index)

/-- **The elimination is an exact solver.** -/
theorem exactSolver_solve? [LT K] [DecidableLT K] [BEq K] [LawfulBEq K] :
    ExactSolver (solve? (K := K)) := by
  intro matrix right solution _ square size solved
  have long := size_of_solve? solved
  obtain ⟨values, found, rfl⟩ := Option.map_eq_some_iff.mp solved
  have count : (matrix.equations right).length = matrix.cols := by
    simp [equations, size, square]
  have each : ∀ equation ∈ matrix.equations right,
      equation.coefficients.length = matrix.cols := by
    intro equation member
    obtain ⟨index, inside, rfl⟩ := List.mem_iff_getElem.mp member
    simp [equations]
  have only : ∀ x : Vec K, x.size = matrix.cols →
      (matrix.linear x.coord = right.coord ↔ x.toList = values) := by
    intro x long
    rw [← holds_equations_iff size long]
    exact holds_iff_eq_of_solve found count each long
  have solves := (only values.toArray long).mpr rfl
  refine ⟨long.trans (square.trans size.symm), solves, fun x zero col inside => ?_⟩
  -- A solution that is moved by `x` is a solution, and there is one only.
  let other : Vec K := Vec.ofCoord matrix.cols (Vec.coord values.toArray + x)
  have moved : matrix.linear other.coord = right.coord := by
    rw [linear_congr (y := Vec.coord values.toArray + x), map_add, solves, zero, add_zero]
    intro col inside
    rw [Vec.coord_ofCoord, if_pos inside]
  have same : other = values.toArray :=
    Array.toList_inj.mp ((only other (Vec.size_ofCoord _ _)).mp moved)
  have entry := congrFun (congrArg Vec.coord same) col
  rw [Vec.coord_ofCoord, if_pos inside, Pi.add_apply] at entry
  exact add_eq_left.mp entry

end Mat

end Exact

end RecedingHorizon
