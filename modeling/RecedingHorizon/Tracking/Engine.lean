/-
**The continuation engine.**

An engine follows the root of the optimality residual `F(t, x, U) = 0` of its problem over time, by
integrating the stabilised continuation equation

  `(∂F/∂U) · dU/dt = -ζ F - ∂F/∂t`.

This module holds the engine itself, its construction, the resets of its horizon, and the conditions
under which it accepts operands and steps.

* `Engine.build` refuses settings and dimensions before it gives the engine its identity;
* `Engine.reset` and `Engine.moveOrigin` ask the problem first. What the problem accepts makes every
  step prepared before stale, also if its dimensions then turn out to have changed;
* `Engine.admitStep` accepts the steps of this engine that are as old as its sequence number.
-/

import RecedingHorizon.Tracking.Refusal
import RecedingHorizon.Tracking.Record
import RecedingHorizon.Tracking.Prepared

namespace RecedingHorizon.Tracking

universe u v w

/-- Storage that an engine keeps between calls. -/
structure Scratch (K : Type u) where
  /-- A decision moved along a direction. -/
  decision : Vec K
  /-- Rebuilt trajectories. -/
  trajectories : Trajectories K
  /-- The defects to rebuild them from. -/
  targets : Trajectories K
  /-- The stationarity residual along them. -/
  probe : Vec K
  /-- The stationarity residual of an optimality norm. -/
  optimality : Vec K
  /-- The defects of an optimality norm. -/
  defects : Trajectories K

/-- Storage for the given dimensions. -/
def Scratch.zeros {K : Type u} [Zero K] (dimensions : Dimensions) : Scratch K where
  decision := Vec.zeros dimensions.decisionSize
  trajectories := Trajectories.zeros dimensions
  targets := Trajectories.zeros dimensions
  probe := Vec.zeros dimensions.decisionSize
  optimality := Vec.zeros dimensions.decisionSize
  defects := Trajectories.zeros dimensions

/-- An engine over a problem of type `σ`. -/
structure Engine (σ K : Type u) where
  problem : σ
  settings : Settings K
  /-- The dimensions of the problem when the engine was built. -/
  dimensions : Dimensions
  /-- The identity that keeps its steps apart from those of other engines. -/
  id : Nat
  /-- The number of preparations and accepted resets so far. -/
  sequence : Nat
  scratch : Scratch K

/-- How a call leaves the engine and the caller's storage `β`, what it reports, and its result. -/
structure Outcome (σ K ε : Type u) (β : Type v) (α : Type w) where
  engine : Engine σ K
  buffers : β
  records : List (Record K)
  result : Except (Refusal ε K) α

/-- The outcome of a refused call, which leaves everything as it was. -/
def Engine.refuse {σ K ε : Type u} {β : Type v} {α : Type w} (engine : Engine σ K) (buffers : β)
    (cause : Refusal ε K) : Outcome σ K ε β α where
  engine := engine
  buffers := buffers
  records := []
  result := .error cause

/-- The dimensions that a problem reports, if none is missing. -/
def reportedDimensions {σ K ε : Type u} [Problem σ K ε] (problem : σ) :
    Except (Refusal ε K) Dimensions :=
  match (Problem.dimensions problem).validate with
  | .ok () => .ok (Problem.dimensions problem)
  | .error required => .error (.dimension required)

namespace Engine

variable {σ K ε : Type u}

/-- An event of this engine. -/
def report (engine : Engine σ K) (event : Event K) : Record K where
  engine := engine.id
  event := event

/-! ### Resets -/

section Resets

variable [Problem σ K ε]

/-- Refuse a problem whose dimensions are no longer those that the engine was built for. -/
def checkDimensions (engine : Engine σ K) : Except (Refusal ε K) Unit := do
  let dimensions ← reportedDimensions engine.problem
  if dimensions = engine.dimensions then
    return ()
  else
    throw (.length .decisionAfterReset engine.dimensions.decisionSize dimensions.decisionSize)

/-- Go on after the problem's answer to a reset. -/
def afterReset (engine : Engine σ K) (event : Event K) (answer : σ × Except ε Unit) :
    Outcome σ K ε Unit Unit :=
  let (problem, accepted) := answer
  match accepted with
  | .error cause =>
    { engine := { engine with problem }, buffers := (), records := []
      result := .error (.problem cause) }
  | .ok () =>
    let engine := { engine with problem, sequence := engine.sequence + 1 }
    { engine, buffers := (), records := [engine.report event], result := engine.checkDimensions }

/-- Give the problem's horizon a new shape and origin. -/
def reset (engine : Engine σ K) (horizon : Horizon.Settings K) : Outcome σ K ε Unit Unit :=
  engine.afterReset (.horizonReset horizon) (Problem.reset engine.problem horizon)

/-- Give the problem's horizon a new origin. -/
def moveOrigin (engine : Engine σ K) (origin : K) : Outcome σ K ε Unit Unit :=
  engine.afterReset (.originMoved origin) (Problem.moveOrigin engine.problem origin)

end Resets

/-! ### Construction -/

/-- The engine with the given identity, if the settings and the dimensions of the problem are
accepted. -/
def build [Problem σ K ε] [Zero K] [LT K] [DecidableLT K] [LE K] [DecidableLE K]
    [ScalarFunctions K] (id : Nat) (problem : σ) (settings : Settings K) :
    Except (Refusal ε K) (Engine σ K) :=
  match settings.validate with
  | .error cause => .error (.settings cause)
  | .ok () =>
    match reportedDimensions problem with
    | .error cause => .error cause
    | .ok dimensions =>
      .ok { problem, settings, dimensions, id, sequence := 0, scratch := Scratch.zeros dimensions }

/-- An engine is built if both checks pass, and it is then a fresh one. -/
theorem build_eq_ok_iff [Problem σ K ε] [Zero K] [LT K] [DecidableLT K] [LE K] [DecidableLE K]
    [ScalarFunctions K] {id : Nat} {problem : σ} {settings : Settings K} {engine : Engine σ K} :
    build (ε := ε) id problem settings = .ok engine ↔
      settings.validate = .ok () ∧ ∃ dimensions,
        reportedDimensions (ε := ε) problem = .ok dimensions ∧
        engine = { problem, settings, dimensions, id, sequence := 0
                   scratch := Scratch.zeros dimensions } := by
  unfold build
  cases settings.validate with
  | error cause => simp
  | ok _ => cases reportedDimensions (ε := ε) problem <;> simp [eq_comm]

/-- What a new engine reports. -/
def announce (engine : Engine σ K) : Record K :=
  engine.report (.constructed engine.dimensions engine.settings)

/-- Idle storage for the steps of this engine. -/
def workspace [Zero K] (engine : Engine σ K) : Workspace K where
  engine := engine.id
  buffers := Buffers.zeros engine.dimensions

/-! ### Conditions on operands and steps -/

/-- Refuse a vector that does not have the expected length. -/
def checkLength (operand : Operand) (vector : Vec K) (expected : Nat) :
    Except (Refusal ε K) Unit :=
  if vector.size = expected then .ok ()
  else .error (.length operand expected vector.size)

/-- Refuse a trajectory that does not have the expected shape. -/
def checkShape (operand : Operand) (trajectory : Mat K) (expected : Nat × Nat) :
    Except (Refusal ε K) Unit :=
  if trajectory.shape = expected then .ok ()
  else .error (.shape operand expected trajectory.shape)

/-- Accept a pair of trajectories with one row per stage. -/
def admitTrajectories (engine : Engine σ K) (trajectories : Trajectories K) :
    Except (Refusal ε K) Unit := do
  checkShape .stateTrajectory trajectories.state engine.dimensions.trajectory
  checkShape .costateTrajectory trajectories.costate engine.dimensions.trajectory

/-- Accept a sample and trajectories along it: first the state, then the decision, then the two
trajectories. -/
def admitPoint (engine : Engine σ K) (sample : Sample K) (trajectories : Trajectories K) :
    Except (Refusal ε K) Unit := do
  checkLength .state sample.state engine.dimensions.state
  checkLength .decision sample.decision engine.dimensions.decisionSize
  engine.admitTrajectories trajectories

/-- Accept a workspace of this engine. -/
def admitWorkspace (engine : Engine σ K) (workspace : Workspace K) :
    Except (Refusal ε K) Unit :=
  if workspace.engine = engine.id then .ok () else .error .foreignStep

/-- Accept a step of this engine that no later preparation or reset has overtaken. -/
def admitStep (engine : Engine σ K) (step : Prepared K) : Except (Refusal ε K) Unit :=
  if step.engine = engine.id then
    if step.sequence = engine.sequence then .ok ()
    else .error (.staleStep step.sequence engine.sequence)
  else
    .error .foreignStep

theorem checkLength_eq_ok_iff {operand : Operand} {vector : Vec K} {expected : Nat} :
    checkLength (ε := ε) operand vector expected = .ok () ↔ vector.size = expected := by
  unfold checkLength
  split <;> simp_all

theorem checkShape_eq_ok_iff {operand : Operand} {trajectory : Mat K} {expected : Nat × Nat} :
    checkShape (ε := ε) operand trajectory expected = .ok () ↔ trajectory.shape = expected := by
  unfold checkShape
  split <;> simp_all

theorem admitStep_eq_ok_iff {engine : Engine σ K} {step : Prepared K} :
    engine.admitStep (ε := ε) step = .ok () ↔
      step.engine = engine.id ∧ step.sequence = engine.sequence := by
  unfold admitStep
  repeat' split
  all_goals simp_all

end Engine

end RecedingHorizon.Tracking
