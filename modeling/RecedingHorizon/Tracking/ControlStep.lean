/-
**The control step.**

Every derivative of the continuation equation is a forward difference of increment `h`, and the
shooting trajectories are never integrated anew: they are rebuilt from prescribed defects. Write `F`
for the stationarity residual at a sample and `F'` for the one at the shifted sample, along
trajectories whose defects have decayed by `1 - h ζ`.

* `Engine.prepare` computes the right-hand side `b = (F - F') / h - ζ F - A p` for the prior
  direction `p`, so that the solution `δ` of `A δ = b` corrects it to the direction `p + δ`;
* `Engine.multiply` is the operator `A`, the derivative of the stationarity residual by the decision
  at the shifted sample, applied to a direction;
* `Engine.advance` moves the decision along a direction, and the trajectories towards those with
  decayed defects.

Every operation first checks its operands, and changes nothing when it refuses them.
-/

import RecedingHorizon.Tracking.Engine

namespace RecedingHorizon.Tracking.Engine

universe u

variable {σ K ε : Type u} [Problem σ K ε] [One K] [Add K] [Mul K] [Neg K]

/-! ### Shared evaluations -/

/-- The trajectories at the shifted sample whose defects are those of the step, decayed. -/
def rebuildDecayed [Sub K] (engine : Engine σ K) (buffers : Buffers K) (decision : Vec K) :
    Checked (Engine σ K × Trajectories K) := do
  let scratch := engine.scratch
  let targets ← Trajectories.scaled scratch.targets buffers.defects engine.settings.decay
  let (problem, trajectories) ← Problem.rebuild engine.problem (buffers.shifted decision) targets
    scratch.trajectories
  return ({ engine with problem, scratch := { scratch with targets, trajectories } },
    trajectories)

/-- The change of the stationarity residual at the shifted sample when the decision moves by `h`
along a direction. The trajectories follow the decision, with the defects they had before it. -/
def respond (engine : Engine σ K) (buffers : Buffers K) (decision direction out : Vec K) :
    Checked (Engine σ K × Vec K) := do
  let scratch := engine.scratch
  let moved ← Vec.offset scratch.decision decision engine.settings.increment direction
  let (problem, trajectories) ← Problem.rebuild engine.problem (buffers.shifted moved)
    buffers.shiftedDefects scratch.trajectories
  let (problem, reached) ← Problem.stationarity problem (buffers.shifted moved) trajectories out
  let change ← Vec.axpy (-1) buffers.shiftedResidual reached
  return ({ engine with problem, scratch := { scratch with decision := moved, trajectories } },
    change)

/-! ### The right-hand side -/

section Prepare

variable [Sub K] [Div K]

/-- The residuals of a sample, and the stationarity residual at its shifted sample. -/
def evaluate (engine : Engine σ K) (buffers : Buffers K) (sample : Sample K)
    (trajectories : Trajectories K) : Checked (Engine σ K × Buffers K) := do
  let increment := engine.settings.increment
  let (problem, shiftedState) ← Problem.predict engine.problem sample increment
    buffers.shiftedState
  let buffers := { buffers with
    time := sample.time, shiftedTime := sample.time + increment, shiftedState }
  let (problem, residual) ← Problem.stationarity problem sample trajectories buffers.residual
  let (problem, shiftedResidual) ← Problem.stationarity problem
    (buffers.shifted sample.decision) trajectories buffers.shiftedResidual
  let (problem, defects) ← Problem.defects problem sample trajectories buffers.defects
  return ({ engine with problem }, { buffers with residual, shiftedResidual, defects })

/-- The right-hand side `(F - F') / h - ζ F` for the prior direction zero, in the storage of
`out`. -/
def drift (engine : Engine σ K) (buffers : Buffers K) (decision out : Vec K) :
    Checked (Engine σ K × Vec K) := do
  let (engine, trajectories) ← engine.rebuildDecayed buffers decision
  let (problem, probe) ← Problem.stationarity engine.problem (buffers.shifted decision)
    trajectories engine.scratch.probe
  let residual ← Vec.overwrite out buffers.residual
  let difference ← Vec.axpy (-1) probe residual
  let rate := Vec.scale (1 / engine.settings.increment) difference
  let drift ← Vec.axpy (-engine.settings.gain) buffers.residual rate
  return ({ engine with problem, scratch := { engine.scratch with probe } }, drift)

/-- The prepared step and the right-hand side, from operands that have been accepted. -/
def prepareStep (engine : Engine σ K) (buffers : Buffers K) (sample : Sample K)
    (trajectories : Trajectories K) (prior out : Vec K) :
    Checked (Engine σ K × Prepared K × Vec K) := do
  let (engine, buffers) ← engine.evaluate buffers sample trajectories
  let (engine, drift) ← engine.drift buffers sample.decision out
  let (problem, shiftedDefects) ← Problem.defects engine.problem
    (buffers.shifted sample.decision) trajectories buffers.shiftedDefects
  let buffers := { buffers with shiftedDefects }
  let (engine, probe) ← respond { engine with problem } buffers sample.decision prior
    engine.scratch.probe
  let rightHandSide ← Vec.axpy (-1 / engine.settings.increment) probe drift
  let engine := { engine with
    sequence := engine.sequence + 1, scratch := { engine.scratch with probe } }
  return (engine, { engine := engine.id, sequence := engine.sequence, buffers }, rightHandSide)

/-- Accept a workspace of this engine, then the sample with its trajectories, the prior direction
and the storage for the right-hand side. -/
def admitPreparation (engine : Engine σ K) (workspace : Workspace K) (sample : Sample K)
    (trajectories : Trajectories K) (prior out : Vec K) : Except (Refusal ε K) Unit := do
  engine.admitWorkspace workspace
  engine.admitPoint sample trajectories
  checkLength .priorDirection prior engine.dimensions.decisionSize
  checkLength .rightHandSide out engine.dimensions.decisionSize

/-- Prepare a step at a sample. The caller's storage becomes the right-hand side. -/
def prepare (engine : Engine σ K) (workspace : Workspace K) (sample : Sample K)
    (trajectories : Trajectories K) (prior out : Vec K) :
    Checked (Outcome σ K ε (Vec K) (Prepared K)) :=
  match engine.admitPreparation (ε := ε) workspace sample trajectories prior out with
  | .error cause => .ok (engine.refuse out cause)
  | .ok () => do
    let (engine, step, rightHandSide) ← engine.prepareStep workspace.buffers sample trajectories
      prior out
    return {
      engine
      buffers := rightHandSide
      records := [engine.report (.prepared step.sequence sample.time)]
      result := .ok step }

end Prepare

/-! ### The operator -/

/-- Accept a step, then the decision, the direction and the storage for the product. -/
def admitProduct (engine : Engine σ K) (step : Prepared K) (decision direction out : Vec K) :
    Except (Refusal ε K) Unit := do
  engine.admitStep step
  checkLength .decision decision engine.dimensions.decisionSize
  checkLength .direction direction engine.dimensions.decisionSize
  checkLength .product out engine.dimensions.decisionSize

/-- Apply the operator of a step to a direction. The caller's storage becomes the product. -/
def multiply [Div K] (engine : Engine σ K) (step : Prepared K) (decision direction out : Vec K) :
    Checked (Outcome σ K ε (Vec K) Unit) :=
  match engine.admitProduct (ε := ε) step decision direction out with
  | .error cause => .ok (engine.refuse out cause)
  | .ok () => do
    let (engine, change) ← engine.respond step.buffers decision direction out
    let product := Vec.scale (1 / engine.settings.increment) change
    return { engine, buffers := product, records := [], result := .ok () }

/-! ### Advancing -/

/-- Accept a step, then the decision, the direction and the two trajectories. -/
def admitAdvance (engine : Engine σ K) (step : Prepared K) (decision direction : Vec K)
    (trajectories : Trajectories K) : Except (Refusal ε K) Unit := do
  engine.admitStep step
  checkLength .decision decision engine.dimensions.decisionSize
  checkLength .direction direction engine.dimensions.decisionSize
  engine.admitTrajectories trajectories

/-- The decision and the trajectories after a time `elapsed`, from operands that have been
accepted. -/
def advanceStep [Zero K] [Sub K] [Div K] (engine : Engine σ K) (buffers : Buffers K)
    (decision direction : Vec K) (trajectories : Trajectories K) (elapsed : K) :
    Checked (Engine σ K × Vec K × Trajectories K) := do
  let increment := engine.settings.increment
  let moved ← Vec.offset engine.scratch.decision decision increment direction
  let engine := { engine with scratch := { engine.scratch with decision := moved } }
  let (engine, target) ← engine.rebuildDecayed buffers moved
  let reached ← Trajectories.blend (elapsed / increment) trajectories target
  let followed ← Vec.axpy elapsed direction decision
  return (engine, followed, reached)

/-- Advance by one sample. The step is given up, and its storage returned for the next one. -/
def advance [Zero K] [Sub K] [Div K] (engine : Engine σ K) (step : Prepared K)
    (decision direction : Vec K) (trajectories : Trajectories K) (elapsed : K) :
    Checked (Outcome σ K ε (Vec K × Trajectories K) (Workspace K)) :=
  match engine.admitAdvance (ε := ε) step decision direction trajectories with
  | .error cause => .ok (engine.refuse (decision, trajectories) cause)
  | .ok () => do
    let (engine, followed, reached) ← engine.advanceStep step.buffers decision direction
      trajectories elapsed
    return { engine, buffers := (followed, reached), records := [], result := .ok step.release }

end RecedingHorizon.Tracking.Engine
