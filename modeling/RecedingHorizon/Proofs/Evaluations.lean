/-
**Evaluations without history.**

The methods of a problem work in storage of their own and of the caller. `Evaluates` says that none
of it shows: on arguments of the right shapes every method succeeds, and its value is a function of
the arguments alone.

* `Evaluations` holds the values as functions;
* `Evaluates` ties them to a class of problems that every evaluation stays in.

The operations of the continuation engine are described from this alone, for every problem.
-/

import RecedingHorizon.Proofs.Checked
import RecedingHorizon.Problem

namespace RecedingHorizon

universe u

variable {K : Type u}

/-! ### Arguments of the right shapes -/

/-- The state and the decision have the lengths that the dimensions ask for. -/
structure Sample.Fits (sample : Sample K) (dimensions : Dimensions) : Prop where
  state : sample.state.size = dimensions.state
  decision : sample.decision.size = dimensions.decisionSize

/-- Both trajectories have one row per stage and one column per state. -/
structure Trajectories.Fits (trajectories : Trajectories K) (dimensions : Dimensions) : Prop where
  state : trajectories.state.shape = dimensions.trajectory
  costate : trajectories.costate.shape = dimensions.trajectory

theorem Trajectories.fits_zeros [Zero K] (dimensions : Dimensions) :
    (Trajectories.zeros dimensions : Trajectories K).Fits dimensions :=
  ⟨rfl, rfl⟩

/-! ### Values as functions -/

/-- The values of the evaluations of a problem as functions of their arguments. -/
structure Evaluations (K : Type u) where
  dimensions : Dimensions
  predict : Sample K → K → Vec K
  stationarity : Sample K → Trajectories K → Vec K
  defects : Sample K → Trajectories K → Trajectories K
  rebuild : Sample K → Trajectories K → Trajectories K

/-- Every problem in `states` evaluates to the given functions and stays in `states`. -/
structure Evaluates {σ ε : Type u} [Problem σ K ε] (evaluations : Evaluations K)
    (states : σ → Prop) : Prop where
  dimensions : ∀ problem, states problem → Problem.dimensions problem = evaluations.dimensions
  predict : ∀ problem (sample : Sample K) (elapsed : K) (out : Vec K), states problem →
    sample.Fits evaluations.dimensions → out.size = evaluations.dimensions.state →
    ∃ next, Problem.predict problem sample elapsed out =
      .ok (next, evaluations.predict sample elapsed) ∧ states next
  size_predict : ∀ (sample : Sample K) (elapsed : K), sample.Fits evaluations.dimensions →
    (evaluations.predict sample elapsed).size = evaluations.dimensions.state
  stationarity : ∀ problem (sample : Sample K) (trajectories : Trajectories K) (out : Vec K),
    states problem → sample.Fits evaluations.dimensions →
    trajectories.Fits evaluations.dimensions → out.size = evaluations.dimensions.decisionSize →
    ∃ next, Problem.stationarity problem sample trajectories out =
      .ok (next, evaluations.stationarity sample trajectories) ∧ states next
  size_stationarity : ∀ (sample : Sample K) (trajectories : Trajectories K),
    sample.Fits evaluations.dimensions → trajectories.Fits evaluations.dimensions →
    (evaluations.stationarity sample trajectories).size = evaluations.dimensions.decisionSize
  defects : ∀ problem (sample : Sample K) (trajectories out : Trajectories K), states problem →
    sample.Fits evaluations.dimensions → trajectories.Fits evaluations.dimensions →
    out.Fits evaluations.dimensions →
    ∃ next, Problem.defects problem sample trajectories out =
      .ok (next, evaluations.defects sample trajectories) ∧ states next
  fits_defects : ∀ (sample : Sample K) (trajectories : Trajectories K),
    sample.Fits evaluations.dimensions → trajectories.Fits evaluations.dimensions →
    (evaluations.defects sample trajectories).Fits evaluations.dimensions
  rebuild : ∀ problem (sample : Sample K) (targets out : Trajectories K), states problem →
    sample.Fits evaluations.dimensions → targets.Fits evaluations.dimensions →
    out.Fits evaluations.dimensions →
    ∃ next, Problem.rebuild problem sample targets out =
      .ok (next, evaluations.rebuild sample targets) ∧ states next
  fits_rebuild : ∀ (sample : Sample K) (targets : Trajectories K),
    sample.Fits evaluations.dimensions → targets.Fits evaluations.dimensions →
    (evaluations.rebuild sample targets).Fits evaluations.dimensions

end RecedingHorizon
