/-
**Refusals of the continuation engine.**

An engine refuses settings, dimensions, operands of the wrong size, steps that are not its own or no
longer current, and passes on what its problem refuses. `Refusal` holds the cause and
`Refusal.message` its text.
-/

import RecedingHorizon.Tracking.Settings
import RecedingHorizon.Dimensions
import RecedingHorizon.Dense.Mat

namespace RecedingHorizon.Tracking

universe u

/-- What an engine asks to have a certain size. -/
inductive Operand where
  | state
  | decision
  | stateTrajectory
  | costateTrajectory
  | priorDirection
  | rightHandSide
  | direction
  | product
  /-- The decision that the problem asks for after a reset of its horizon. -/
  | decisionAfterReset
deriving DecidableEq, Repr

/-- How an operand is called in messages. -/
def Operand.label : Operand → String
  | .state => "state"
  | .decision => "decision sequence"
  | .stateTrajectory => "state trajectory"
  | .costateTrajectory => "costate trajectory"
  | .priorDirection => "prior direction"
  | .rightHandSide => "right-hand side"
  | .direction => "direction"
  | .product => "operator output"
  | .decisionAfterReset => "decision sequence after horizon reset"

/-- Why an engine refuses a call. The problem's own errors have type `ε`. -/
inductive Refusal (ε K : Type u) where
  | settings (cause : Settings.Invalid K)
  /-- A dimension of the problem is zero. -/
  | dimension (required : Dimensions.Required)
  | length (operand : Operand) (expected actual : Nat)
  | shape (operand : Operand) (expected actual : Nat × Nat)
  /-- The workspace or the step belongs to another engine. -/
  | foreignStep
  /-- The engine has moved on since the step was prepared. -/
  | staleStep (prepared current : Nat)
  | problem (cause : ε)

/-- The text of a refusal, given the texts of the problem's errors. -/
def Refusal.message {ε : Type} (describe : ε → String) : Refusal ε Float → String
  | .settings cause => "invalid settings: " ++ cause.message
  | .dimension required =>
    "optimal control problem reports an invalid dimension: " ++ required.label ++ " = 0"
  | .length operand expected actual =>
    operand.label ++ " dimension mismatch: expected " ++ toString expected ++ ", got " ++
      toString actual
  | .shape operand expected actual =>
    operand.label ++ " shape mismatch: expected " ++ Mat.shapeText expected ++ ", got " ++
      Mat.shapeText actual
  | .foreignStep => "step context was prepared by a different engine"
  | .staleStep prepared current =>
    "stale step context: prepared at sequence " ++ toString prepared ++ ", engine is at " ++
      toString current
  | .problem cause => describe cause

end RecedingHorizon.Tracking
