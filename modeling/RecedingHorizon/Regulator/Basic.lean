/-
**The linear-quadratic regulator.**

Linear dynamics and a quadratic cost over the horizon of length `T`,

  `dx/dt = A x + B u`,   `J = ½ x(T)ᵀ S x(T) + ∫ ½ xᵀ Q x + ½ uᵀ R u dt`,

subject, if a constraint is given, to `E u = e` with multipliers `ρ` on every stage. The horizon is
split into `N` stages of equal span.

* `Regulator.build` accepts matrices that fit together, at least one stage, and a valid horizon;
* `Regulator.constrain` sets the constraint, if it fits the inputs;
* `Regulator.stageSpan` is the span of a stage at a time.
-/

import RecedingHorizon.Dimensions
import RecedingHorizon.Horizon
import RecedingHorizon.Dense.Mat

namespace RecedingHorizon

universe u

namespace Regulator

/-! ### The data of a model -/

/-- The matrices of the dynamics and of the cost. -/
structure Matrices (K : Type u) where
  /-- The matrix `A`. -/
  dynamics : Mat K
  /-- The matrix `B`. -/
  inputMap : Mat K
  /-- The matrix `Q`. -/
  stateWeight : Mat K
  /-- The matrix `R`. -/
  inputWeight : Mat K
  /-- The matrix `S`. -/
  terminalWeight : Mat K

/-- The constraint `E u = e` on the inputs of every stage. -/
structure Constraint (K : Type u) where
  /-- The matrix `E`. -/
  matrix : Mat K
  /-- The vector `e`. -/
  target : Vec K

/-- Storage for the vectors of the stage at hand. -/
structure Scratch (K : Type u) where
  /-- The rate of change of the state or of the costate. -/
  rate : Vec K
  /-- The state that the stage starts at. -/
  start : Vec K
  /-- The state that the stage ends at. -/
  finish : Vec K
  /-- The costate of the stage. -/
  costate : Vec K
  /-- The costate of the stage after it. -/
  ahead : Vec K

/-- Storage for a state of the given dimension. -/
def Scratch.zeros {K : Type u} [Zero K] (state : Nat) : Scratch K where
  rate := Vec.zeros state
  start := Vec.zeros state
  finish := Vec.zeros state
  costate := Vec.zeros state
  ahead := Vec.zeros state

/-! ### Data that do not fit -/

/-- What is wrong with the data of a model. -/
inductive Invalid (K : Type u) where
  /-- `A` is empty or not square. -/
  | dynamics (shape : Nat × Nat)
  /-- `B` does not have one row per state. -/
  | inputMap (expected actual : Nat)
  /-- `Q` or `S` does not have the shape of `A`. -/
  | stateWeights (state : Nat)
  /-- `R` is not square of the size of the input. -/
  | inputWeight (input : Nat) (shape : Nat × Nat)
  /-- There are no stages. -/
  | stages
  /-- The horizon is refused. -/
  | horizon (cause : Horizon.Invalid K)
  /-- `E` does not have one column per input. -/
  | constraintMatrix (expected actual : Nat)
  /-- `e` does not have one entry per row of `E`. -/
  | constraintTarget (expected actual : Nat)

/-- The text of a rejection. -/
def Invalid.message : Invalid Float → String
  | .dynamics shape => "A must be square and non-empty, got " ++ Mat.shapeText shape ++ "."
  | .inputMap expected actual =>
    "B must have " ++ toString expected ++ " rows, got " ++ toString actual ++ "."
  | .stateWeights state => "Q and S must be " ++ toString state ++ "x" ++ toString state ++ "."
  | .inputWeight input shape =>
    "R must be " ++ toString input ++ "x" ++ toString input ++ ", got " ++
      Mat.shapeText shape ++ "."
  | .stages => "stages must be greater than zero."
  | .horizon cause => cause.message
  | .constraintMatrix expected actual =>
    "constraint matrix must have " ++ toString expected ++ " columns, got " ++
      toString actual ++ "."
  | .constraintTarget expected actual =>
    "constraint target must have " ++ toString expected ++ " entries, got " ++
      toString actual ++ "."

end Regulator

/-! ### The model -/

/-- A linear-quadratic problem with its horizon, and storage for its evaluations. -/
structure Regulator (K : Type u) extends Regulator.Matrices K where
  constraint : Option (Regulator.Constraint K)
  horizon : Horizon K
  stages : Nat
  scratch : Regulator.Scratch K

namespace Regulator

variable {K : Type u}

/-- The dimension of the state. -/
def state (model : Regulator K) : Nat :=
  model.dynamics.rows

/-- The dimension of the input of one stage. -/
def input (model : Regulator K) : Nat :=
  model.inputMap.cols

/-- The number of multipliers of one stage. -/
def multipliers (model : Regulator K) : Nat :=
  match model.constraint with
  | some constraint => constraint.matrix.rows
  | none => 0

/-- The dimensions of the problem. -/
def dimensions (model : Regulator K) : Dimensions where
  state := model.state
  input := model.input
  constraints := model.multipliers
  stages := model.stages

/-- The number of decision variables of one stage. -/
def width (model : Regulator K) : Nat :=
  model.dimensions.stageVariables

/-- A model without constraint, from matrices that fit together. -/
def build [Zero K] [LT K] [DecidableLT K] [LE K] [DecidableLE K] [ScalarFunctions K]
    (matrices : Matrices K) (stages : Nat) (settings : Horizon.Settings K) :
    Except (Invalid K) (Regulator K) :=
  let state := matrices.dynamics.rows
  let input := matrices.inputMap.cols
  if state = 0 ∨ matrices.dynamics.cols ≠ state then
    .error (.dynamics matrices.dynamics.shape)
  else if matrices.inputMap.rows ≠ state then
    .error (.inputMap state matrices.inputMap.rows)
  else if matrices.stateWeight.shape ≠ (state, state) ∨
      matrices.terminalWeight.shape ≠ (state, state) then
    .error (.stateWeights state)
  else if matrices.inputWeight.shape ≠ (input, input) then
    .error (.inputWeight input matrices.inputWeight.shape)
  else if stages = 0 then
    .error .stages
  else
    match Horizon.ofSettings settings with
    | .error cause => .error (.horizon cause)
    | .ok horizon =>
      .ok { matrices with constraint := none, horizon, stages, scratch := Scratch.zeros state }

/-- The model under a constraint on the inputs, which takes the place of an earlier one. -/
def constrain (model : Regulator K) (constraint : Constraint K) :
    Except (Invalid K) (Regulator K) :=
  if constraint.matrix.cols ≠ model.input then
    .error (.constraintMatrix model.input constraint.matrix.cols)
  else if constraint.target.size ≠ constraint.matrix.rows then
    .error (.constraintTarget constraint.matrix.rows constraint.target.size)
  else
    .ok { model with constraint := some constraint }

/-- The span of one stage at a time. -/
def stageSpan [Zero K] [One K] [Sub K] [Mul K] [Div K] [Neg K] [BEq K] [NatCast K] [LE K]
    [DecidableLE K] [ScalarFunctions K] (model : Regulator K) (time : K) : K :=
  model.horizon.length time / (model.stages : K)

end Regulator

end RecedingHorizon
