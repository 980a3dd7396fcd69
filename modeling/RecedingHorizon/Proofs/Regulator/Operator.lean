/-
**The operator over a regulator.**

The stationarity residual along rebuilt trajectories is affine in the state, the decision and the
targets together. A finite difference by the decision is therefore exact, and does not depend on the
point where it is taken: it is the change of the residual between two decisions at the state zero,
along the trajectories that shooting finds.

* `operator` is that change, for the directions from the decision zero;
* `rebuiltResidual_moved`: at every point, the residual moves along a direction by its multiple of
  the operator. `operator_moved` is linearity, and `coord_product` the product of a step.
-/

import RecedingHorizon.Proofs.Regulator.Recurrence
import RecedingHorizon.Proofs.Regulator.Shooting

set_option linter.unusedSectionVars false

namespace RecedingHorizon.Regulator

universe u

variable {K : Type u} [Field K] [LinearOrder K] [ScalarFunctions K]

/-- **The operator** `F(d) - F(0)`, where `F` is the residual along the trajectories that shooting
finds from the state zero. -/
def operator (model : Regulator K) (time : K) (direction : Vec K) : ℕ → K :=
  (model.shotResidual (model.atRest time direction)).coord -
    (model.shotResidual (model.atRest time (Vec.zeros model.dimensions.decisionSize))).coord

/-- The operator belongs to the functions that the model evaluates to. -/
theorem operator_congr {model other : Regulator K} (same : other.evaluations = model.evaluations) :
    other.operator = model.operator := by
  have dimensions : other.dimensions = model.dimensions := congrArg Evaluations.dimensions same
  have state : other.state = model.state := congrArg Dimensions.state dimensions
  unfold operator shotResidual shot atRest
  rw [same, dimensions, state]

variable {model : Regulator K} (sound : model.Sound)
include sound

/-- **Along a direction the residual moves by the operator**, whatever the state, the decision and
the targets are. -/
theorem rebuiltResidual_moved (factor time : K) {state decision direction : Vec K}
    {targets : Trajectories K} (size : state.size = model.state)
    (long : decision.size = model.dimensions.decisionSize)
    (directionLong : direction.size = model.dimensions.decisionSize)
    (fits : targets.Fits model.dimensions) :
    (model.rebuiltResidual time state (Vec.moved factor direction decision) targets).coord =
      (model.rebuiltResidual time state decision targets).coord +
        factor • model.operator time direction := by
  let weight : Fin 3 → K := ![1, factor, -factor]
  let states : Fin 3 → Vec K := ![state, Vec.zeros model.state, Vec.zeros model.state]
  let decisions : Fin 3 → Vec K :=
    ![decision, direction, Vec.zeros model.dimensions.decisionSize]
  let parts : Fin 3 → Trajectories K :=
    ![targets, Trajectories.zeros model.dimensions, Trajectories.zeros model.dimensions]
  have one : ∑ k, weight k = 1 := by
    simp [weight, Fin.sum_univ_three]
  have sizes : ∀ k, (states k).size = model.state := by
    intro k
    fin_cases k
    · exact size
    · exact Vec.size_zeros _
    · exact Vec.size_zeros _
  have longs : ∀ k, (decisions k).size = model.dimensions.decisionSize := by
    intro k
    fin_cases k
    · exact long
    · exact directionLong
    · exact Vec.size_zeros _
  have partsFit : ∀ k, (parts k).Fits model.dimensions := by
    intro k
    fin_cases k
    · exact fits
    · exact Trajectories.fits_zeros _
    · exact Trajectories.fits_zeros _
  have stateCombined : state.coord = ∑ k, weight k • (states k).coord := by
    simp [weight, states, Fin.sum_univ_three]
  have decisionCombined :
      (Vec.moved factor direction decision).coord = ∑ k, weight k • (decisions k).coord := by
    rw [Vec.coord_moved _ (directionLong.trans long.symm)]
    simp [weight, decisions, Fin.sum_univ_three, add_comm]
  have targetsCombined : Trajectories.Combines Finset.univ weight parts targets := by
    constructor <;> intro stage <;> simp [weight, parts, Fin.sum_univ_three, Trajectories.zeros]
  have combined := evaluations_combine sound time one size sizes
    (Vec.size_moved_of_size directionLong long) longs fits partsFit stateCombined decisionCombined
    targetsCombined
  rw [Fin.sum_univ_three] at combined
  refine combined.trans ?_
  show (1 : K) • (model.rebuiltResidual time state decision targets).coord +
    factor • (model.shotResidual (model.atRest time direction)).coord +
    (-factor) • (model.shotResidual
      (model.atRest time (Vec.zeros model.dimensions.decisionSize))).coord = _
  unfold operator
  module

/-- **The operator is linear.** -/
theorem operator_moved (factor time : K) {first second : Vec K}
    (firstLong : first.size = model.dimensions.decisionSize)
    (secondLong : second.size = model.dimensions.decisionSize) :
    model.operator time (Vec.moved factor second first) =
      model.operator time first + factor • model.operator time second := by
  have moved := rebuiltResidual_moved sound factor time (Vec.size_zeros model.state) firstLong
    secondLong (Trajectories.fits_zeros model.dimensions)
  refine (congrArg (· - _) moved).trans ?_
  exact add_sub_right_comm _ _ _

/-- **The product of a step is the operator**, at the time that the step is taken to. -/
theorem coord_product {settings : Tracking.Settings K} (positive : settings.increment ≠ 0)
    {sample : Sample K} {trajectories : Trajectories K} (sampleFits : sample.Fits model.dimensions)
    (fits : trajectories.Fits model.dimensions) {direction : Vec K}
    (long : direction.size = model.dimensions.decisionSize) :
    (model.evaluations.product settings (model.evaluations.prepared settings sample trajectories)
        sample.decision direction).coord =
      model.operator (sample.time + settings.increment) direction := by
  let buffers := model.evaluations.prepared settings sample trajectories
  have buffersFit : buffers.Fits model.dimensions :=
    (evaluates sound).fits_prepared rfl settings sampleFits fits
  have response : (model.evaluations.response settings buffers sample.decision direction).coord =
      settings.increment • model.operator buffers.shiftedTime direction := by
    refine (coord_response sound sampleFits fits long).trans ?_
    rw [rebuiltResidual_moved sound settings.increment buffers.shiftedTime
      buffersFit.shiftedState sampleFits.decision long buffersFit.shiftedDefects,
      add_sub_cancel_left]
  unfold Evaluations.product
  rw [Vec.coord_scale, response, smul_smul, one_div_mul_cancel positive, one_smul]
  rfl

/-- A product is as long as the decision. -/
theorem size_product (settings : Tracking.Settings K) {sample : Sample K}
    {trajectories : Trajectories K} (sampleFits : sample.Fits model.dimensions)
    (fits : trajectories.Fits model.dimensions) {direction : Vec K}
    (long : direction.size = model.dimensions.decisionSize) :
    (model.evaluations.product settings (model.evaluations.prepared settings sample trajectories)
        sample.decision direction).size = model.dimensions.decisionSize := by
  have total := evaluates sound
  have buffersFit := total.fits_prepared rfl settings sampleFits fits
  exact (Vec.size_scale _ _).trans (total.size_response rfl settings buffersFit sampleFits.decision
    long)

end RecedingHorizon.Regulator
