/-
**The equation of a step has one solution.**

A solver is asked for the correction whose product with the step is a given right-hand side. Over a
well-posed regulator, and a horizon that is not negative, there is exactly one.

* `Preparation.gives_iff`: a vector is the product with a direction if and only if the operator says
  so;
* `existsUnique_correction`: no direction but zero has the product zero, and for every right-hand
  side there is exactly one correction.
-/

import RecedingHorizon.Proofs.Regulator.Definite
import RecedingHorizon.Proofs.Session.Operator

set_option linter.unusedSectionVars false

namespace RecedingHorizon.Session

open Tracking Regulator

universe u

/-! ### Corrections -/

section Corrections

variable {K : Type u} [Field K] [LinearOrder K] [ScalarFunctions K] {sample : Sample K}
  {trajectories : Trajectories K} {prior : Vec K}

/-- The products with a direction are those of the operator. -/
theorem Preparation.gives_iff (preparation : Preparation (σ := Regulator K)
      (ε := Horizon.Invalid K) Regulator.Sound sample trajectories prior)
    {direction product : Vec K}
    (long : direction.size = preparation.engine.problem.dimensions.decisionSize) :
    preparation.Gives evaluations direction product ↔
      product.size = preparation.engine.problem.dimensions.decisionSize ∧
        preparation.engine.problem.operator (sample.time + preparation.engine.settings.increment)
          direction = product.coord := by
  constructor
  · intro gives
    obtain ⟨value, given, size, coord⟩ := preparation.exists_product long
    rw [gives.unique given]
    exact ⟨size, coord.symm⟩
  · rintro ⟨size, coord⟩
    exact preparation.gives_operator long size coord.symm

/-- **The equation of a step has exactly one solution.** Let a step be prepared, at any point and
for any prior direction, over a regulator whose weights are positive for the inputs and not negative
for the states, and whose constraint, if any, has independent rows, and let the stages not be of
negative length. Then no direction but zero has the product zero, and for every right-hand side
there is exactly one correction that has it as its product. -/
theorem existsUnique_correction [IsStrictOrderedRing K] (preparation : Preparation
      (σ := Regulator K) (ε := Horizon.Invalid K) Regulator.Sound sample trajectories prior)
    (posed : preparation.engine.problem.WellPosed)
    (nonneg : 0 ≤ preparation.engine.problem.stageSpan
      (sample.time + preparation.engine.settings.increment)) :
    let size := preparation.engine.problem.dimensions.decisionSize
    (∀ direction : Vec K, direction.size = size →
      preparation.Gives evaluations direction (Vec.zeros size) → direction = Vec.zeros size) ∧
    ∀ rightHandSide : Vec K, rightHandSide.size = size →
      ∃! correction : Vec K, correction.size = size ∧
        preparation.Gives evaluations correction rightHandSide := by
  intro size
  have sound := preparation.sound
  constructor
  · intro direction long gives
    have vanishes := ((preparation.gives_iff long).mp gives).2
    rw [Vec.coord_zeros] at vanishes
    exact eq_zeros_of_operator sound posed nonneg long vanishes
  · intro rightHandSide room
    obtain ⟨correction, ⟨long, solves⟩, only⟩ :=
      existsUnique_operator sound posed nonneg room
    refine ⟨correction, ⟨long, (preparation.gives_iff long).mpr ⟨room, solves⟩⟩, ?_⟩
    rintro other ⟨otherLong, gives⟩
    exact only other ⟨otherLong, ((preparation.gives_iff otherLong).mp gives).2⟩

end Corrections

/-! ### The correction of the cart -/

section Cart

/-- The cart is well-posed. -/
theorem wellPosed_cart : cart.WellPosed where
  inputWeight := by
    rintro x ⟨row, inside, nonzero⟩
    obtain rfl : row = 0 := Nat.lt_one_iff.mp inside
    have form : cart.inputWeight.form x x = 1 / 2 * (x 0 * x 0) := by
      refine (Mat.form_ofFn 1 1 _ x x).trans ?_
      simp only [Finset.sum_range_one]
      ring
    rw [form]
    exact mul_pos one_half_pos (mul_self_pos.mpr nonzero)
  stateWeight x := by
    have form : cart.stateWeight.form x x = x 0 * x 0 + x 1 * x 1 := by
      refine (Mat.form_ofFn 2 2 _ x x).trans ?_
      simp [Finset.sum_range_succ]
    rw [form]
    exact add_nonneg (mul_self_nonneg _) (mul_self_nonneg _)
  terminalWeight x := by
    have form : cart.terminalWeight.form x x = 3 * (x 0 * x 0 + x 1 * x 1) := by
      refine (Mat.form_ofFn 2 2 _ x x).trans ?_
      simp [Finset.sum_range_succ]
      ring
    rw [form]
    exact mul_nonneg (by norm_num) (add_nonneg (mul_self_nonneg _) (mul_self_nonneg _))
  constraint := by
    rintro constraint given
    cases given
    change LinearIndependent ℚ fun row : Fin 1 => (Mat.ofFn 1 1 fun _ _ => (1 : ℚ)).get row
    refine Fintype.linearIndependent_iff.mpr fun weight combined index => ?_
    have entry := congrFun combined 0
    obtain rfl : index = 0 := Subsingleton.elim _ _
    simpa [Mat.get_ofFn] using entry

/-- The cart has one correction for the right-hand side of its step. -/
theorem existsUnique_correction_cart :
    ∃ preparation : Preparation (ε := Horizon.Invalid ℚ) Regulator.Sound cartSample
        cartTrajectories #[1, 2, -1, 3],
      preparation.engine = cartEngine ∧ cart.WellPosed ∧
      0 ≤ cart.stageSpan (cartSample.time + cartEngine.settings.increment) ∧
      ∃! correction : Vec ℚ, correction.size = 4 ∧
        preparation.Gives evaluations correction #[1, -2, 3, 5] := by
  obtain ⟨preparation, engine⟩ := exists_cartPreparation #[1, 2, -1, 3] (by decide +kernel)
  have nonneg : 0 ≤ cart.stageSpan (cartSample.time + cartEngine.settings.increment) := by
    decide +kernel
  have size : preparation.engine.problem.dimensions.decisionSize = 4 := by rw [engine]; rfl
  have solvable := (existsUnique_correction preparation (by rw [engine]; exact wellPosed_cart)
    (by rw [engine]; exact nonneg)).2 #[1, -2, 3, 5] size.symm
  rw [size] at solvable
  exact ⟨preparation, engine, wellPosed_cart, nonneg, solvable⟩

end Cart

end RecedingHorizon.Session
