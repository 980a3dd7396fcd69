import RecedingHorizon.Scalar
import RecedingHorizon.Decimal.Notation
import RecedingHorizon.Horizon
import RecedingHorizon.Dimensions
import RecedingHorizon.Tracking.Settings
import RecedingHorizon.Dense.Product
import RecedingHorizon.Dense.Elimination
import RecedingHorizon.Problem
import RecedingHorizon.Regulator.Start
import RecedingHorizon.CubicRing
import RecedingHorizon.Tracking.Optimality
import RecedingHorizon.Tracking.ControlStep
import RecedingHorizon.Document
import RecedingHorizon.Session
import RecedingHorizon.Proofs.Checked
import RecedingHorizon.Proofs.Dense.Values
import RecedingHorizon.Proofs.Evaluations
import RecedingHorizon.Proofs.Contract
import RecedingHorizon.Proofs.Regulator.Shapes
import RecedingHorizon.Proofs.Regulator.Rows
import RecedingHorizon.Proofs.Regulator.Blocks
import RecedingHorizon.Proofs.Regulator.History
import RecedingHorizon.Proofs.Dense.Coordinates
import RecedingHorizon.Proofs.Dense.Elimination
import RecedingHorizon.Proofs.Tracking.Shapes
import RecedingHorizon.Proofs.Tracking.Totality
import RecedingHorizon.Proofs.Regulator.Inverse
import RecedingHorizon.Proofs.Tracking.Values
import RecedingHorizon.Proofs.Tracking.Equation
import RecedingHorizon.Proofs.Regulator.Affine
import RecedingHorizon.Proofs.Tracking.Loop
import RecedingHorizon.Proofs.Regulator.Recurrence
import RecedingHorizon.Proofs.Dense.Forms
import RecedingHorizon.Proofs.Dense.Definite
import RecedingHorizon.Proofs.Regulator.Shooting
import RecedingHorizon.Proofs.Regulator.Adjoint
import RecedingHorizon.Proofs.Regulator.Gradient
import RecedingHorizon.Proofs.Regulator.Operator
import RecedingHorizon.Proofs.Session.Settings
import RecedingHorizon.Proofs.Session.Step
import RecedingHorizon.Proofs.Session.Effect
import RecedingHorizon.Proofs.Session.Currency
import RecedingHorizon.Proofs.Session.Keeping
import RecedingHorizon.Proofs.Tracking.Agreement
import RecedingHorizon.Proofs.Tracking.Requirements
import RecedingHorizon.Proofs.Session.Soundness
import RecedingHorizon.Proofs.Session.Alike
import RecedingHorizon.Proofs.Session.History
import RecedingHorizon.Proofs.Session.Equation
import RecedingHorizon.Proofs.Session.Watching
import RecedingHorizon.Proofs.Session.Copies
import RecedingHorizon.Proofs.Session.Acceptance
import RecedingHorizon.Proofs.Regulator.Energy
import RecedingHorizon.Proofs.Session.Operator
import RecedingHorizon.Proofs.Tracking.Division
import RecedingHorizon.Proofs.Session.Division
import RecedingHorizon.Proofs.Regulator.Assembly
import RecedingHorizon.Proofs.Regulator.Division
import RecedingHorizon.Proofs.Session.Safety
import RecedingHorizon.Proofs.Regulator.Definite
import RecedingHorizon.Proofs.Session.Solvability
import RecedingHorizon.Proofs.Regulator.Advance
import RecedingHorizon.Proofs.Tracking.Rebuilding
import RecedingHorizon.Proofs.Session.Observation
import RecedingHorizon.Proofs.Session.Advance
import RecedingHorizon.Proofs.Session.Stabilisation
import RecedingHorizon.Proofs.Dense.Squares
import RecedingHorizon.Proofs.Tracking.Optimality
import RecedingHorizon.Proofs.Session.Optimality
import RecedingHorizon.Proofs.Regulator.Start
import RecedingHorizon.Proofs.Session.Start
import RecedingHorizon.Proofs.Tracking.Translation
import RecedingHorizon.Proofs.Regulator.Translation
import RecedingHorizon.Proofs.Session.Translation
import RecedingHorizon.Proofs.Horizon
import RecedingHorizon.Proofs.Regulator.Horizon
import RecedingHorizon.Proofs.Session.Horizon
import RecedingHorizon.Proofs.Tracking.Diagnosis
import RecedingHorizon.Proofs.Session.Diagnosis
import RecedingHorizon.Proofs.Regulator.Locality
import RecedingHorizon.Proofs.Regulator.Splitting
