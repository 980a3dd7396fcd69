/-
**Starting the linear-quadratic regulator.**

Over a horizon of length zero all stages are alike: the state stays where it is, the costate is
`S x`, and the optimal decision of a stage solves the system

  `R u + Eᵀ ρ = -Bᵀ S x`,   `E u = e`.

* `Regulator.saddle` is the matrix of that system, and `Regulator.startDecision` repeats its
  solution over the stages;
* `Regulator.shoot` finds the trajectories without defects.
-/

import RecedingHorizon.Regulator.Evaluation
import RecedingHorizon.Dense.Elimination

namespace RecedingHorizon.Regulator

universe u

variable {K : Type u} [Zero K]

/-- Why there is no decision to start from. -/
inductive NoStart where
  /-- The state does not have the dimension of the model. -/
  | state (expected actual : Nat)
  /-- The system of a stage has no unique solution. -/
  | singular
deriving DecidableEq, Repr

/-- The text of the refusal. -/
def NoStart.message : NoStart → String
  | .state expected actual =>
    "Initial state dimension mismatch. Expected " ++ toString expected ++ ", got " ++
      toString actual ++ "."
  | .singular => "Stage KKT matrix is singular."

/-- The matrix `E`, without rows if there is no constraint. -/
def constraintMatrix (model : Regulator K) : Mat K :=
  match model.constraint with
  | some constraint => constraint.matrix
  | none => Mat.zeros 0 model.input

/-- The vector `e`, empty if there is no constraint. -/
def constraintTarget (model : Regulator K) : Vec K :=
  match model.constraint with
  | some constraint => constraint.target
  | none => #[]

/-- The matrix with the blocks `R`, `Eᵀ` above and `E`, `0` below. -/
def saddle (model : Regulator K) : Mat K :=
  Mat.ofFn model.width model.width fun i j =>
    if i < model.input then
      if j < model.input then model.inputWeight.get i j
      else model.constraintMatrix.get (j - model.input) i
    else
      if j < model.input then model.constraintMatrix.get (i - model.input) j
      else 0

variable [One K] [Add K] [Mul K] [Div K] [Neg K] [BEq K]

section Decision

variable [LT K] [DecidableLT K]

/-- The right-hand side `-Bᵀ S x` above `e`. -/
def saddleTarget (model : Regulator K) (state : Vec K) : Checked (Vec K) := do
  let costate ← model.terminalWeight.mulVec state
  let gradient ← model.inputMap.transposeMulVec costate
  return gradient.map (-·) ++ model.constraintTarget

/-- The optimal decision over a horizon of length zero. -/
def startDecision (model : Regulator K) (state : Vec K) :
    Checked (Except NoStart (Vec K)) :=
  if state.size = model.state then do
    let target ← model.saddleTarget state
    match model.saddle.solve? target with
    | some stage => return .ok (Array.replicate model.stages stage).flatten
    | none => return .error .singular
  else
    .ok (.error (.state model.state state.size))

end Decision

/-- The trajectories that satisfy the state and the costate equation. -/
def shoot [Sub K] [NatCast K] [LE K] [DecidableLE K] [ScalarFunctions K] (model : Regulator K)
    (sample : Sample K) : Checked (Regulator K × Trajectories K) :=
  model.rebuild sample (Trajectories.zeros model.dimensions)
    (Trajectories.zeros model.dimensions)

end RecedingHorizon.Regulator
