/-
**The optimality norm.**

How far a sample and its trajectories are from first-order optimality: the Euclidean norm of the
stationarity residual and of the defects of both equations together.

* `Engine.squaredResidual` is the sum under the root, `Engine.optimalityNorm` the norm. It works in
  storage of its own, so a prepared step stays valid.
-/

import RecedingHorizon.Tracking.Engine

namespace RecedingHorizon.Tracking.Engine

universe u

variable {σ K ε : Type u} [Problem σ K ε] [Zero K] [Neg K] [Add K] [Mul K]

/-- The sum of the squares of the stationarity residual and of both defects. -/
def squaredResidual (engine : Engine σ K) (sample : Sample K) (trajectories : Trajectories K) :
    Checked (Engine σ K × K) := do
  let scratch := engine.scratch
  let (problem, optimality) ← Problem.stationarity engine.problem sample trajectories
    scratch.optimality
  let (problem, defects) ← Problem.defects problem sample trajectories scratch.defects
  let squared := Vec.normSq optimality + Mat.normSq defects.state +
    Mat.normSq defects.costate
  return ({ engine with problem, scratch := { scratch with optimality, defects } }, squared)

/-- The norm of the whole optimality residual. A norm that is not finite is reported. -/
def optimalityNorm [ScalarFunctions K] (engine : Engine σ K) (sample : Sample K)
    (trajectories : Trajectories K) : Checked (Outcome σ K ε Unit K) :=
  match engine.admitPoint (ε := ε) sample trajectories with
  | .error cause => .ok (engine.refuse () cause)
  | .ok () => do
    let (engine, squared) ← engine.squaredResidual sample trajectories
    let norm := ScalarFunctions.sqrt squared
    let records :=
      if ScalarFunctions.isFinite norm then [] else [engine.report (.notFinite sample.time)]
    return { engine, buffers := (), records, result := .ok norm }

end RecedingHorizon.Tracking.Engine
