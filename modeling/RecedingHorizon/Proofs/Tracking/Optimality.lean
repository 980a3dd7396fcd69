/-
**What the optimality norm says of a point.**

The sum under the root of the optimality norm adds up the squares of the stationarity residual and
of the defects of both equations. Whether it is zero is a question about the point: the trajectories
have no defects if they are the ones that the problem rebuilds from zero, and then the stationarity
residual is all that is left.

* `Evaluations.squaredOf` is the sum, `Engine.squaredResidual_value` says that the engine computes
  it, and `Evaluates.squaredOf_eq_sum` that no entry is left out;
* `Evaluates.defects_eq_zeros_iff`: rebuilt from zero are the trajectories without defects;
* `Evaluations.Gauges` is what the sum says of a point, and `Evaluates.gauges` that it does, for
  every problem that rebuilds exactly.
-/

import RecedingHorizon.Proofs.Dense.Squares
import RecedingHorizon.Proofs.Tracking.Rebuilding

set_option linter.unusedSectionVars false

namespace RecedingHorizon

open Tracking

universe u

variable {σ K ε : Type u}

/-! ### The sum under the root -/

/-- The sum of the squares of the stationarity residual and of both defects. -/
def Evaluations.squaredOf [Zero K] [Neg K] [Add K] [Mul K] (evaluations : Evaluations K)
    (sample : Sample K) (trajectories : Trajectories K) : K :=
  Vec.normSq (evaluations.stationarity sample trajectories) +
    Mat.normSq (evaluations.defects sample trajectories).state +
    Mat.normSq (evaluations.defects sample trajectories).costate

/-- **The engine computes the sum** at a point of the right shapes. -/
theorem Tracking.Engine.squaredResidual_value [Problem σ K ε] [Zero K] [One K] [Neg K] [Add K]
    [Mul K] {evaluations : Evaluations K} {states : σ → Prop}
    (total : Evaluates evaluations states) {engine : Engine σ K}
    (ready : engine.Ready evaluations states) {sample : Sample K} {trajectories : Trajectories K}
    (sampleFits : sample.Fits engine.dimensions) (fits : trajectories.Fits engine.dimensions) :
    ∃ next, engine.Storing states next ∧ engine.squaredResidual sample trajectories =
      .ok (next, evaluations.squaredOf sample trajectories) := by
  obtain ⟨⟨next, _⟩, ran, storing, _, _, rfl, rfl, rfl⟩ :=
    squaredResidual_returns (ready.able total) sampleFits fits
  exact ⟨next, storing, ran⟩

/-! ### The sum and the point -/

/-- **What a sum says of a point**, where `consistent` are the trajectories without defects: it adds
up the squares of every entry of the three residuals, it is not negative, along the trajectories
without defects it is the squared norm of the stationarity residual, and it is zero if and only if
the trajectories are those and the stationarity residual is zero. -/
structure Evaluations.Gauges [Field K] [LinearOrder K] (evaluations : Evaluations K)
    (sample : Sample K) (trajectories consistent : Trajectories K) (squared : K) : Prop where
  sum : squared =
    ∑ index ∈ Finset.range evaluations.dimensions.decisionSize,
        (evaluations.stationarity sample trajectories).coord index ^ 2 +
      ∑ stage ∈ Finset.range evaluations.dimensions.stages,
        ∑ index ∈ Finset.range evaluations.dimensions.state,
          (evaluations.defects sample trajectories).state.get stage index ^ 2 +
      ∑ stage ∈ Finset.range evaluations.dimensions.stages,
        ∑ index ∈ Finset.range evaluations.dimensions.state,
          (evaluations.defects sample trajectories).costate.get stage index ^ 2
  nonneg : 0 ≤ squared
  stationarity : trajectories = consistent → squared =
    ∑ index ∈ Finset.range evaluations.dimensions.decisionSize,
      (evaluations.stationarity sample trajectories).coord index ^ 2
  zero : squared = 0 ↔ trajectories = consistent ∧
    evaluations.stationarity sample trajectories = Vec.zeros evaluations.dimensions.decisionSize

namespace Evaluates

variable [Field K] [Problem σ K ε] {evaluations : Evaluations K} {states : σ → Prop}
  (total : Evaluates evaluations states) {sample : Sample K} {trajectories : Trajectories K}
  (sampleFits : sample.Fits evaluations.dimensions)
  (fits : trajectories.Fits evaluations.dimensions)
include total sampleFits fits

/-- **No entry of a residual is left out** of the sum. -/
theorem squaredOf_eq_sum : evaluations.squaredOf sample trajectories =
    ∑ index ∈ Finset.range evaluations.dimensions.decisionSize,
        (evaluations.stationarity sample trajectories).coord index ^ 2 +
      ∑ stage ∈ Finset.range evaluations.dimensions.stages,
        ∑ index ∈ Finset.range evaluations.dimensions.state,
          (evaluations.defects sample trajectories).state.get stage index ^ 2 +
      ∑ stage ∈ Finset.range evaluations.dimensions.stages,
        ∑ index ∈ Finset.range evaluations.dimensions.state,
          (evaluations.defects sample trajectories).costate.get stage index ^ 2 := by
  have long := total.size_stationarity sample trajectories sampleFits fits
  have defectsFit := total.fits_defects sample trajectories sampleFits fits
  obtain ⟨stateRows, stateCols⟩ := Prod.mk.inj defectsFit.state
  obtain ⟨costateRows, costateCols⟩ := Prod.mk.inj defectsFit.costate
  unfold Evaluations.squaredOf
  rw [Vec.normSq_eq_sum, Mat.normSq_eq_sum, Mat.normSq_eq_sum, long, stateRows, stateCols,
    costateRows, costateCols]

/-- **The trajectories without defects** are those that are rebuilt from zero. -/
theorem defects_eq_zeros_iff (prescribes : evaluations.Prescribes)
    (restores : evaluations.Restores) :
    evaluations.defects sample trajectories = Trajectories.zeros evaluations.dimensions ↔
      trajectories = evaluations.rebuild sample (Trajectories.zeros evaluations.dimensions) := by
  constructor
  · intro none
    rw [← none, restores sample trajectories sampleFits fits]
  · intro rebuilt
    rw [rebuilt, prescribes sample _ sampleFits (Trajectories.fits_zeros _)]

/-- Without defects, the squares are those of the stationarity residual. -/
theorem squaredOf_of_defects
    (none : evaluations.defects sample trajectories = Trajectories.zeros evaluations.dimensions) :
    evaluations.squaredOf sample trajectories =
      Vec.normSq (evaluations.stationarity sample trajectories) := by
  unfold Evaluations.squaredOf
  rw [none]
  simp [Trajectories.zeros]

variable [LinearOrder K] [IsStrictOrderedRing K]

/-- **The sum is zero** if and only if all three residuals are. -/
theorem squaredOf_eq_zero_iff : evaluations.squaredOf sample trajectories = 0 ↔
    evaluations.stationarity sample trajectories = Vec.zeros evaluations.dimensions.decisionSize ∧
      evaluations.defects sample trajectories = Trajectories.zeros evaluations.dimensions := by
  have long := total.size_stationarity sample trajectories sampleFits fits
  have defectsFit := total.fits_defects sample trajectories sampleFits fits
  have stationarity := Vec.normSq_nonneg (evaluations.stationarity sample trajectories)
  have state := Mat.normSq_nonneg (evaluations.defects sample trajectories).state
  have costate := Mat.normSq_nonneg (evaluations.defects sample trajectories).costate
  unfold Evaluations.squaredOf
  rw [add_eq_zero_iff_of_nonneg (add_nonneg stationarity state) costate,
    add_eq_zero_iff_of_nonneg stationarity state, Vec.normSq_eq_zero_iff long,
    Mat.normSq_eq_zero_iff defectsFit.state, Mat.normSq_eq_zero_iff defectsFit.costate,
    Trajectories.ext_iff, and_assoc]
  rfl

/-- **The sum under the root gauges every point**, if the problem rebuilds exactly. -/
theorem gauges (prescribes : evaluations.Prescribes) (restores : evaluations.Restores) :
    evaluations.Gauges sample trajectories
      (evaluations.rebuild sample (Trajectories.zeros evaluations.dimensions))
      (evaluations.squaredOf sample trajectories) where
  sum := total.squaredOf_eq_sum sampleFits fits
  nonneg := add_nonneg (add_nonneg (Vec.normSq_nonneg _) (Mat.normSq_nonneg _))
    (Mat.normSq_nonneg _)
  stationarity consistent := by
    have none := (total.defects_eq_zeros_iff sampleFits fits prescribes restores).mpr consistent
    rw [total.squaredOf_of_defects sampleFits fits none, Vec.normSq_eq_sum,
      total.size_stationarity sample trajectories sampleFits fits]
  zero := by
    rw [total.squaredOf_eq_zero_iff sampleFits fits,
      total.defects_eq_zeros_iff sampleFits fits prescribes restores]
    exact and_comm

end Evaluates

end RecedingHorizon
