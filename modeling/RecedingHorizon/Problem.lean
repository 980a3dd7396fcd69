/-
**Discretised optimal control problems.**

A `Problem` is what the continuation needs of an optimal control problem over `N` shooting stages:
its dimensions, a prediction of the state, and three evaluations at a sample and along a state and a
costate trajectory with one row per stage:

* `stationarity` is the derivative of the Hamiltonian by the decision, with the residual of the
  constraints;
* `defects` says how far the trajectories are from satisfying the state and the costate equation;
* `rebuild` is the inverse of `defects`: it finds the trajectories that have prescribed defects.

A problem is a value that its methods return anew, since an implementation may keep storage of its
own. The methods write into storage of the caller, and an implementation may fault on arguments that
do not have the shapes of its dimensions.
-/

import RecedingHorizon.Dimensions
import RecedingHorizon.Horizon
import RecedingHorizon.Dense.Mat

namespace RecedingHorizon

universe u

/-! ### Arguments of the evaluations -/

/-- A time, the state measured then, and the decision for the stages ahead. -/
structure Sample (K : Type u) where
  time : K
  state : Vec K
  decision : Vec K

/-- A state and a costate trajectory, or the defects of such a pair. -/
@[ext]
structure Trajectories (K : Type u) where
  state : Mat K
  costate : Mat K

namespace Trajectories

variable {K : Type u}

/-- Zero trajectories for the given dimensions. -/
def zeros [Zero K] (dimensions : Dimensions) : Trajectories K where
  state := Mat.zeros dimensions.stages dimensions.state
  costate := Mat.zeros dimensions.stages dimensions.state

/-- Both trajectories times a factor, in the storage of `buffer`. -/
def scaled [Mul K] (buffer source : Trajectories K) (factor : K) :
    Checked (Trajectories K) := do
  let state ← Mat.scaled buffer.state source.state factor
  let costate ← Mat.scaled buffer.costate source.costate factor
  return { state, costate }

/-- Both trajectories moved towards a target, by `ratio` of the way. -/
def blend [Zero K] [Add K] [Sub K] [Mul K] (ratio : K) (trajectories target : Trajectories K) :
    Checked (Trajectories K) := do
  let state ← Mat.blend ratio trajectories.state target.state
  let costate ← Mat.blend ratio trajectories.costate target.costate
  return { state, costate }

end Trajectories

/-! ### The interface -/

/-- A problem of type `σ` over the scalars `K`, whose resets fail with errors of type `ε`. -/
class Problem (σ : Type u) (K ε : outParam (Type u)) where
  /-- The dimensions that the problem has at present. -/
  dimensions : σ → Dimensions
  /-- The state `elapsed` after the sample, driven by the inputs of the first stage. -/
  predict : σ → (sample : Sample K) → (elapsed : K) → (out : Vec K) → Checked (σ × Vec K)
  /-- The stationarity residual. -/
  stationarity : σ → (sample : Sample K) → (trajectories : Trajectories K) → (out : Vec K) →
    Checked (σ × Vec K)
  /-- The defects of the state and the costate equation. -/
  defects : σ → (sample : Sample K) → (trajectories out : Trajectories K) →
    Checked (σ × Trajectories K)
  /-- The trajectories whose defects are the targets. -/
  rebuild : σ → (sample : Sample K) → (targets out : Trajectories K) →
    Checked (σ × Trajectories K)
  /-- A new shape and origin of the horizon. The problem that comes back is the one to go on with,
  also when the reset is refused. -/
  reset : σ → (horizon : Horizon.Settings K) → σ × Except ε Unit
  /-- A new origin of the horizon. -/
  moveOrigin : σ → (origin : K) → σ × Except ε Unit

namespace Problem

variable {σ τ K ε δ : Type u}

/-- The result of an evaluation, with the problem put under a constructor. -/
def lift {ρ α : Type u} (inject : ρ → σ ⊕ τ) (result : Checked (ρ × α)) :
    Checked ((σ ⊕ τ) × α) :=
  result.map fun (problem, value) => (inject problem, value)

/-- The result of a reset, with the problem and the error put under constructors. -/
def liftReset {ρ η : Type u} (inject : ρ → σ ⊕ τ) (wrap : η → ε ⊕ δ)
    (result : ρ × Except η Unit) : (σ ⊕ τ) × Except (ε ⊕ δ) Unit :=
  (inject result.1, result.2.mapError wrap)

/-- A problem of one of two kinds. -/
instance sum [Problem σ K ε] [Problem τ K δ] : Problem (σ ⊕ τ) K (ε ⊕ δ) where
  dimensions
    | .inl problem => dimensions problem
    | .inr problem => dimensions problem
  predict
    | .inl problem, sample, elapsed, out => lift .inl (predict problem sample elapsed out)
    | .inr problem, sample, elapsed, out => lift .inr (predict problem sample elapsed out)
  stationarity
    | .inl problem, sample, trajectories, out =>
      lift .inl (stationarity problem sample trajectories out)
    | .inr problem, sample, trajectories, out =>
      lift .inr (stationarity problem sample trajectories out)
  defects
    | .inl problem, sample, trajectories, out =>
      lift .inl (defects problem sample trajectories out)
    | .inr problem, sample, trajectories, out =>
      lift .inr (defects problem sample trajectories out)
  rebuild
    | .inl problem, sample, targets, out => lift .inl (rebuild problem sample targets out)
    | .inr problem, sample, targets, out => lift .inr (rebuild problem sample targets out)
  reset
    | .inl problem, horizon => liftReset .inl .inl (reset problem horizon)
    | .inr problem, horizon => liftReset .inr .inr (reset problem horizon)
  moveOrigin
    | .inl problem, origin => liftReset .inl .inl (moveOrigin problem origin)
    | .inr problem, origin => liftReset .inr .inr (moveOrigin problem origin)

end Problem

end RecedingHorizon
