/-
**The residuals after an advance.**

An advance by any time goes on along a line: the decision follows its direction for that time, and
the trajectories go as far along the line to those with decayed defects as the time is to the
increment, be it further or backwards. The residuals of a regulator are affine, so they go along the
line from the residuals that the base trajectories have one increment ahead to those that an advance
by one increment reaches.

* `combines_blended`: blended trajectories are combined ones;
* `residuals_along`: the residuals on a line lie on the line through those at its ends;
* `advanced_residuals`: the defects and the stationarity residual after an advance.
-/

import RecedingHorizon.Proofs.Regulator.Recurrence

set_option linter.unusedSectionVars false

namespace RecedingHorizon.Regulator

open Tracking

universe u

variable {K : Type u} [Field K]

/-! ### Points on a line -/

/-- The weights of a point on the line through two others. -/
def along (ratio : K) : Fin 2 → K :=
  ![1 - ratio, ratio]

/-- A combination of two is a point on the line through them. -/
theorem sum_along (ratio : K) (parts : Fin 2 → ℕ → K) :
    ∑ k, along ratio k • parts k = (1 - ratio) • parts 0 + ratio • parts 1 :=
  Fin.sum_univ_two _

theorem sum_weight_along (ratio : K) : ∑ k, along ratio k = 1 :=
  (Fin.sum_univ_two _).trans (sub_add_cancel 1 ratio)

/-- Blended trajectories are combined ones. -/
theorem combines_blended (ratio : K) {dimensions : Dimensions}
    {trajectories target : Trajectories K} (fits : trajectories.Fits dimensions)
    (targetFits : target.Fits dimensions) :
    Trajectories.Combines Finset.univ (along ratio) ![trajectories, target]
      (Trajectories.blended ratio trajectories target) where
  state stage := by
    rw [sum_along ratio fun k => (![trajectories, target] k).state.get stage]
    exact Mat.get_blended ratio (fits.state.trans targetFits.state.symm) stage
  costate stage := by
    rw [sum_along ratio fun k => (![trajectories, target] k).costate.get stage]
    exact Mat.get_blended ratio (fits.costate.trans targetFits.costate.symm) stage

/-! ### The advance -/

section Advance

variable [LinearOrder K] [ScalarFunctions K] {model : Regulator K} (sound : model.Sound)
include sound

/-- **The residuals along a line.** At the shifted sample of a step, the residuals of a point on the
line through two decisions with their trajectories lie on the line through the two residuals. -/
theorem residuals_along (ratio : K) {buffers : Buffers K} {decision first second : Vec K}
    {trajectories target : Trajectories K} (size : buffers.shiftedState.size = model.state)
    (long : decision.size = model.dimensions.decisionSize)
    (firstLong : first.size = model.dimensions.decisionSize)
    (secondLong : second.size = model.dimensions.decisionSize)
    (fits : trajectories.Fits model.dimensions) (targetFits : target.Fits model.dimensions)
    (between : decision.coord = (1 - ratio) • first.coord + ratio • second.coord) :
    let evaluations := model.evaluations
    let pair := Trajectories.blended ratio trajectories target
    (∀ stage, (evaluations.defects (buffers.shifted decision) pair).state.get stage =
      (1 - ratio) • (evaluations.defects (buffers.shifted first) trajectories).state.get stage +
        ratio • (evaluations.defects (buffers.shifted second) target).state.get stage) ∧
    (∀ stage, (evaluations.defects (buffers.shifted decision) pair).costate.get stage =
      (1 - ratio) • (evaluations.defects (buffers.shifted first) trajectories).costate.get stage +
        ratio • (evaluations.defects (buffers.shifted second) target).costate.get stage) ∧
    (evaluations.stationarity (buffers.shifted decision) pair).coord =
      (1 - ratio) • (evaluations.stationarity (buffers.shifted first) trajectories).coord +
        ratio • (evaluations.stationarity (buffers.shifted second) target).coord := by
  intro evaluations pair
  have longs : ∀ k, (![first, second] k).size = model.dimensions.decisionSize :=
    Fin.forall_fin_two.mpr ⟨firstLong, secondLong⟩
  have pairsFit : ∀ k, (![trajectories, target] k).Fits model.dimensions :=
    Fin.forall_fin_two.mpr ⟨fits, targetFits⟩
  have pairFits : pair.Fits model.dimensions := ⟨fits.state, fits.costate⟩
  obtain ⟨defects, stationarity⟩ := evaluations_combine_pairs sound buffers.shiftedTime
    (sum_weight_along ratio) size (fun _ => size) long longs pairFits pairsFit
    (combine_const (sum_weight_along ratio) buffers.shiftedState.coord).symm
    (between.trans (sum_along ratio fun k => (![first, second] k).coord).symm)
    (combines_blended ratio fits targetFits)
  exact ⟨fun stage => (defects.state stage).trans (sum_along ratio _),
    fun stage => (defects.costate stage).trans (sum_along ratio _),
    stationarity.trans (sum_along ratio _)⟩

variable {settings : Tracking.Settings K} {sample : Sample K} {trajectories : Trajectories K}
  (sampleFits : sample.Fits model.dimensions) (fits : trajectories.Fits model.dimensions)
  (positive : settings.increment ≠ 0) {prior direction : Vec K}
  (priorLong : prior.size = model.dimensions.decisionSize)
  (directionLong : direction.size = model.dimensions.decisionSize) (elapsed : K)
include sampleFits fits positive priorLong directionLong

/-- **The residuals after an advance** along a direction, which a correction has made of the prior
direction. -/
theorem advanced_residuals :
    let evaluations := model.evaluations
    let buffers := evaluations.prepared settings sample trajectories
    let ratio := elapsed / settings.increment
    let reached := evaluations.advanced settings buffers sample.decision direction trajectories
      elapsed
    let defects := evaluations.defects (buffers.shifted reached.1) reached.2
    (∀ stage, defects.state.get stage = (1 - ratio) • buffers.shiftedDefects.state.get stage +
      ratio • settings.decay • buffers.defects.state.get stage) ∧
    (∀ stage, defects.costate.get stage = (1 - ratio) • buffers.shiftedDefects.costate.get stage +
      ratio • settings.decay • buffers.defects.costate.get stage) ∧
    Vec.coord (evaluations.stationarity (buffers.shifted reached.1) reached.2) =
      (1 - ratio) • buffers.shiftedResidual.coord +
        ratio • (settings.decay • buffers.residual.coord - settings.increment •
          (Vec.coord (evaluations.rightHandSide settings buffers sample.decision prior) -
            Vec.coord (evaluations.product settings buffers sample.decision
              (Vec.moved (-1) prior direction)))) := by
  intro evaluations buffers ratio reached defects
  have total := evaluates sound
  have long : sample.decision.size = model.dimensions.decisionSize := sampleFits.decision
  have buffersFit : buffers.Fits model.dimensions :=
    total.fits_prepared rfl settings sampleFits fits
  -- what an advance by one increment reaches
  let moved := Vec.moved settings.increment direction sample.decision
  have movedLong : moved.size = model.dimensions.decisionSize :=
    Vec.size_moved_of_size directionLong long
  have targetFits : (evaluations.decayed settings buffers moved).Fits model.dimensions :=
    total.fits_decayed rfl settings buffersFit movedLong
  have targetDefects : evaluations.defects (buffers.shifted moved)
      (evaluations.decayed settings buffers moved) = buffers.defects.scale settings.decay :=
    turn_defects sound sampleFits fits movedLong
  have correctionLong := Vec.size_moved_of_size (a := -1) priorLong directionLong
  have corrected : Vec.moved 1 prior (Vec.moved (-1) prior direction) = direction := by
    refine Vec.ext_coord ((Vec.size_moved_of_size priorLong correctionLong).trans
      directionLong.symm) ?_
    rw [Vec.coord_moved _ (priorLong.trans correctionLong.symm),
      Vec.coord_moved _ (priorLong.trans directionLong.symm)]
    module
  have targetResidual := turn_stationarity sound sampleFits fits positive priorLong correctionLong
  rw [corrected] at targetResidual
  have between : (Vec.moved elapsed direction sample.decision).coord =
      (1 - ratio) • sample.decision.coord + ratio • moved.coord := by
    have whole : ratio * settings.increment = elapsed := div_mul_cancel₀ elapsed positive
    rw [Vec.coord_moved _ (directionLong.trans long.symm),
      Vec.coord_moved _ (directionLong.trans long.symm), ← whole]
    module
  obtain ⟨state, costate, stationarity⟩ := residuals_along sound ratio buffersFit.shiftedState
    (Vec.size_moved_of_size directionLong long) long movedLong fits targetFits between
  rw [targetDefects] at state costate
  rw [targetResidual] at stationarity
  refine ⟨fun stage => (state stage).trans ?_, fun stage => (costate stage).trans ?_, stationarity⟩
  · rw [← Mat.get_scale settings.decay]
    rfl
  · rw [← Mat.get_scale settings.decay]
    rfl

end Advance

end RecedingHorizon.Regulator
