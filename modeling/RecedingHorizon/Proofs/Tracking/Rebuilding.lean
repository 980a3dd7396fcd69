/-
**What rebuilding is asked for.**

A problem rebuilds trajectories from defects. What the engine asks of it is that rebuilding inverts
the defects at every sample, and each direction of the inverse serves a part of the continuation.

* `Evaluations.Prescribes`: rebuilt trajectories have the defects that were prescribed. So an
  advance by one increment multiplies the defects by the decay (`Evaluates.defects_advanced`);
* `Evaluations.Restores`: trajectories are rebuilt from their own defects. So a decision that does
  not move does not change the residual (`Evaluates.response_zeros`), and a prior direction zero
  leaves no term of its own (`Evaluates.coord_rightHandSide_zeros`).
-/

import RecedingHorizon.Proofs.Tracking.Equation

set_option linter.unusedSectionVars false

namespace RecedingHorizon

open Tracking

universe u

variable {σ K ε : Type u}

/-- Rebuilt trajectories have the defects that were prescribed. -/
def Evaluations.Prescribes (evaluations : Evaluations K) : Prop :=
  ∀ (sample : Sample K) (targets : Trajectories K), sample.Fits evaluations.dimensions →
    targets.Fits evaluations.dimensions →
    evaluations.defects sample (evaluations.rebuild sample targets) = targets

/-- Trajectories are rebuilt from their own defects. -/
def Evaluations.Restores (evaluations : Evaluations K) : Prop :=
  ∀ (sample : Sample K) (trajectories : Trajectories K), sample.Fits evaluations.dimensions →
    trajectories.Fits evaluations.dimensions →
    evaluations.rebuild sample (evaluations.defects sample trajectories) = trajectories

namespace Evaluates

variable [Field K] [Problem σ K ε] {evaluations : Evaluations K} {states : σ → Prop}
  (total : Evaluates evaluations states) {dimensions : Dimensions}
  (same : dimensions = evaluations.dimensions) {settings : Settings K} {sample : Sample K}
  {trajectories : Trajectories K} (sampleFits : sample.Fits dimensions)
  (fits : trajectories.Fits dimensions)
include total same sampleFits fits

/-- **An advance by one increment multiplies the defects by the decay**, along any direction. -/
theorem defects_advanced (prescribes : evaluations.Prescribes) (positive : settings.increment ≠ 0)
    {direction : Vec K} (long : direction.size = dimensions.decisionSize) :
    let buffers := evaluations.prepared settings sample trajectories
    let reached := evaluations.advanced settings buffers sample.decision direction trajectories
      settings.increment
    evaluations.defects (buffers.shifted reached.1) reached.2 =
      (evaluations.defects sample trajectories).scale settings.decay := by
  intro buffers reached
  have buffersFit : buffers.Fits dimensions := total.fits_prepared same settings sampleFits fits
  have movedLong := Vec.size_moved_of_size (a := settings.increment) long sampleFits.decision
  have decayedFits := total.fits_decayed same settings buffersFit movedLong
  have arrived : reached = _ :=
    evaluations.advanced_increment positive buffers sample.decision direction fits decayedFits
  rw [arrived]
  subst same
  exact prescribes _ _ (buffersFit.shifted movedLong) (buffersFit.defects.scale settings.decay)

/-- **A decision that does not move does not change the residual.** -/
theorem response_zeros (restores : evaluations.Restores) :
    let buffers := evaluations.prepared settings sample trajectories
    evaluations.response settings buffers sample.decision (Vec.zeros dimensions.decisionSize) =
      Vec.zeros dimensions.decisionSize := by
  intro buffers
  have buffersFit : buffers.Fits dimensions := total.fits_prepared same settings sampleFits fits
  have still : Vec.moved settings.increment (Vec.zeros dimensions.decisionSize) sample.decision =
      sample.decision := Vec.moved_zeros _ sampleFits.decision
  have restored : evaluations.rebuild (buffers.shifted sample.decision) buffers.shiftedDefects =
      trajectories := by
    subst same
    exact restores _ _ (buffersFit.shifted sampleFits.decision) fits
  unfold Evaluations.response
  simp only
  rw [still, restored]
  exact (Vec.moved_neg_one_self _).trans (congrArg Vec.zeros buffersFit.shiftedResidual)

/-- The product with the direction zero is zero. -/
theorem product_zeros (restores : evaluations.Restores) :
    let buffers := evaluations.prepared settings sample trajectories
    evaluations.product settings buffers sample.decision (Vec.zeros dimensions.decisionSize) =
      Vec.zeros dimensions.decisionSize := by
  intro buffers
  unfold Evaluations.product
  rw [response_zeros total same sampleFits fits restores]
  exact Vec.scale_zeros _ _

/-- **The right-hand side for the prior direction zero** has no other terms than the residuals. -/
theorem coord_rightHandSide_zeros (restores : evaluations.Restores) {prior : Vec K}
    (none : prior = Vec.zeros dimensions.decisionSize) :
    let buffers := evaluations.prepared settings sample trajectories
    let residual := (evaluations.stationarity sample trajectories).coord
    let reached := (evaluations.stationarity (buffers.shifted sample.decision)
      (evaluations.decayed settings buffers sample.decision)).coord
    Vec.coord (evaluations.rightHandSide settings buffers sample.decision prior) =
      (1 / settings.increment) • (residual - reached) - settings.gain • residual := by
  intro buffers residual reached
  subst none
  have response : evaluations.response settings buffers sample.decision _ = _ :=
    total.response_zeros same sampleFits fits restores
  refine (total.coord_rightHandSide same settings sampleFits fits (Vec.size_zeros _)).trans ?_
  rw [response, Vec.coord_zeros, smul_zero, sub_zero]

end Evaluates

end RecedingHorizon
