/-
**The continuation equation.**

The right-hand side of a prepared step and the operator of the step are computed by different calls.
They belong to one equation: what the prior direction takes from the right-hand side is what the
operator gives for it.

* `Evaluations.advanced_increment`: an advance by one increment reaches the decayed trajectories;
* `Evaluates.size_rightHandSide`: all vectors of the equation have one length;
* `Evaluates.coord_rightHandSide` is the right-hand side, by coordinates;
* `Evaluates.coord_rightHandSide_add_product`: with the product for the prior direction it adds up
  to `(1/h - ζ) F - F'/h`, whatever the prior direction is.
-/

import Mathlib.Tactic.Module
import RecedingHorizon.Proofs.Dense.Coordinates
import RecedingHorizon.Proofs.Tracking.Values

set_option linter.unusedSectionVars false

namespace RecedingHorizon

open Tracking

universe u

/-- What an advance by one increment reaches. -/
theorem Evaluations.advanced_increment {K : Type u} [Field K] (evaluations : Evaluations K)
    {settings : Settings K} (positive : settings.increment ≠ 0) (buffers : Buffers K)
    (decision direction : Vec K) {dimensions : Dimensions} {trajectories : Trajectories K}
    (fits : trajectories.Fits dimensions)
    (decayedFits : (evaluations.decayed settings buffers
      (Vec.moved settings.increment direction decision)).Fits dimensions) :
    evaluations.advanced settings buffers decision direction trajectories settings.increment =
      (Vec.moved settings.increment direction decision,
        evaluations.decayed settings buffers
          (Vec.moved settings.increment direction decision)) := by
  unfold Evaluations.advanced Trajectories.blended
  simp only
  rw [div_self positive, Mat.blended_one (fits.state.trans decayedFits.state.symm),
    Mat.blended_one (fits.costate.trans decayedFits.costate.symm)]

namespace Evaluates

variable {σ K ε : Type u} [Field K] [Problem σ K ε] {evaluations : Evaluations K}
  {states : σ → Prop} (total : Evaluates evaluations states) {dimensions : Dimensions}
  (same : dimensions = evaluations.dimensions) (settings : Settings K) {sample : Sample K}
  {trajectories : Trajectories K} (sampleFits : sample.Fits dimensions)
  (fits : trajectories.Fits dimensions) {prior : Vec K}
  (priorLong : prior.size = dimensions.decisionSize)
include total same sampleFits fits priorLong

/-- The vectors of the equation have the length of the stationarity residual. -/
theorem size_rightHandSide :
    let buffers := evaluations.prepared settings sample trajectories
    let residual := evaluations.stationarity sample trajectories
    (evaluations.rightHandSide settings buffers sample.decision prior).size = residual.size ∧
      (evaluations.product settings buffers sample.decision prior).size = residual.size ∧
      (evaluations.stationarity (buffers.shifted sample.decision)
        (evaluations.decayed settings buffers sample.decision)).size = residual.size := by
  intro buffers residual
  have buffersFit : buffers.Fits dimensions := total.fits_prepared same settings sampleFits fits
  have long : sample.decision.size = dimensions.decisionSize := sampleFits.decision
  have decayedFits := total.fits_decayed same settings buffersFit long
  have responseLong := total.size_response same settings buffersFit long priorLong
  have driftLong := total.size_driftOf same settings buffersFit long
  have residualLong : residual.size = dimensions.decisionSize := buffersFit.residual
  rw [residualLong]
  refine ⟨Vec.size_moved_of_size responseLong driftLong, ?_, ?_⟩
  · exact (Vec.size_scale _ _).trans responseLong
  · subst same
    exact total.size_stationarity _ _ (buffersFit.shifted long) decayedFits

/-- The right-hand side, by coordinates. -/
theorem coord_rightHandSide :
    let buffers := evaluations.prepared settings sample trajectories
    Vec.coord (evaluations.rightHandSide settings buffers sample.decision prior) =
      (1 / settings.increment) •
        (Vec.coord (evaluations.stationarity sample trajectories) -
          Vec.coord (evaluations.stationarity (buffers.shifted sample.decision)
            (evaluations.decayed settings buffers sample.decision))) -
      settings.gain • Vec.coord (evaluations.stationarity sample trajectories) -
      (1 / settings.increment) •
        Vec.coord (evaluations.response settings buffers sample.decision prior) := by
  intro buffers
  have buffersFit : buffers.Fits dimensions := total.fits_prepared same settings sampleFits fits
  have long : sample.decision.size = dimensions.decisionSize := sampleFits.decision
  have responseLong := total.size_response same settings buffersFit long priorLong
  have driftLong := total.size_driftOf same settings buffersFit long
  have probeLong :=
    ((total.size_rightHandSide same settings sampleFits fits priorLong).2.2).trans
      buffersFit.residual
  have differenceLong := Vec.size_moved_of_size (a := -1) probeLong buffersFit.residual
  have residual : buffers.residual = evaluations.stationarity sample trajectories := rfl
  have drift : (evaluations.driftOf settings buffers sample.decision).coord =
      -settings.gain • buffers.residual.coord + (1 / settings.increment) •
        ((-1 : K) • Vec.coord (evaluations.stationarity (buffers.shifted sample.decision)
          (evaluations.decayed settings buffers sample.decision)) + buffers.residual.coord) := by
    have scaledLong := (Vec.size_scale (1 / settings.increment) _).trans differenceLong
    unfold Evaluations.driftOf
    rw [Vec.coord_moved _ (buffersFit.residual.trans scaledLong.symm), Vec.coord_scale,
      Vec.coord_moved _ (probeLong.trans buffersFit.residual.symm)]
  unfold Evaluations.rightHandSide
  rw [Vec.coord_moved _ (responseLong.trans driftLong.symm), drift, residual, neg_div]
  module

/-- **The right-hand side and the product for the prior direction** add up to what does not depend
on the prior direction. -/
theorem coord_rightHandSide_add_product :
    let buffers := evaluations.prepared settings sample trajectories
    Vec.coord (evaluations.rightHandSide settings buffers sample.decision prior) +
        Vec.coord (evaluations.product settings buffers sample.decision prior) =
      (1 / settings.increment - settings.gain) •
          Vec.coord (evaluations.stationarity sample trajectories) -
        (1 / settings.increment) •
          Vec.coord (evaluations.stationarity (buffers.shifted sample.decision)
            (evaluations.decayed settings buffers sample.decision)) := by
  intro buffers
  rw [coord_rightHandSide total same settings sampleFits fits priorLong]
  unfold Evaluations.product
  rw [Vec.coord_scale]
  module

end Evaluates

end RecedingHorizon
