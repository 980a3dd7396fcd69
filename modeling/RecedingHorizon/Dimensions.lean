/-
**Dimensions of a discretised problem.**

A problem over `stages` stages has a state of dimension `state` and, on every stage, `input` control
inputs and `constraints` multipliers. The decision is one flat vector, stage by stage, inputs before
multipliers.

* `Dimensions.validate` accepts dimensions with at least one state, one stage and one decision
  variable per stage, and names the first of the three that is missing.
-/

namespace RecedingHorizon

/-- The sizes that fix the shape of every vector and trajectory of a problem. -/
structure Dimensions where
  state : Nat
  input : Nat
  constraints : Nat
  stages : Nat
deriving DecidableEq, Repr, Inhabited

namespace Dimensions

/-- A dimension that must not be zero. -/
inductive Required where
  | state
  | stages
  | stageVariables
deriving DecidableEq, Repr

/-- How a required dimension is called in messages. -/
def Required.label : Required → String
  | .state => "dim_state"
  | .stages => "stage_count"
  | .stageVariables => "dim_control_input + dim_constraints"

/-- The number of decision variables of one stage. -/
def stageVariables (dimensions : Dimensions) : Nat :=
  dimensions.input + dimensions.constraints

/-- The number of decision variables of all stages, which is the length of the decision. -/
def decisionSize (dimensions : Dimensions) : Nat :=
  dimensions.stages * dimensions.stageVariables

/-- The shape of a trajectory: one row per stage. -/
def trajectory (dimensions : Dimensions) : Nat × Nat :=
  (dimensions.stages, dimensions.state)

/-- Check the state, then the stages, then the decision variables. -/
def validate (dimensions : Dimensions) : Except Required Unit :=
  if dimensions.state = 0 then .error .state
  else if dimensions.stages = 0 then .error .stages
  else if dimensions.stageVariables = 0 then .error .stageVariables
  else .ok ()

end Dimensions

end RecedingHorizon
