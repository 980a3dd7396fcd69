/-
**Evaluation of the linear-quadratic regulator.**

Stage `i` starts at the state `x_i`, which is the state of the sample for `i = 0` and row `i - 1`
of the state trajectory otherwise, and carries the costate `λ_{i+1}`, row `i` of the costate
trajectory. With `Δτ` the span of a stage,

* `predict` is one Euler step `x + dt (A x + B u_0)`;
* `stationarity` is `R u_i + Bᵀ λ_{i+1} + Eᵀ ρ_i` above `E u_i - e`, for every stage;
* `defects` are `X_i - x_i - Δτ (A x_i + B u_i)` for the states, and for the costates
  `Λ_i - Λ_{i+1} - Δτ (Q X_i + Aᵀ Λ_{i+1})`, with `Λ_{N-1} - S X_{N-1}` on the last stage;
* `rebuild` solves the same equations for `X`, from the first stage on, and then for `Λ`, from the
  last stage back.

All of them work in the storage of the model and give the model back with that storage changed.
-/

import RecedingHorizon.Regulator.Basic
import RecedingHorizon.Problem
import RecedingHorizon.Dense.Product
import RecedingHorizon.Sweep

namespace RecedingHorizon.Regulator

universe u

variable {K : Type u} [Zero K] [One K] [Add K] [Mul K]

/-! ### Rates of change -/

/-- The rate `A x_i + B u_i` of the state on a stage, where `start` holds `x_i`. -/
def stateRate (model : Regulator K) (decision : Vec K) (stage : Nat) (scratch : Scratch K) :
    Checked (Scratch K) := do
  let input ← Vec.segment decision (stage * model.width) model.input
  let product ← model.dynamics.mulVec scratch.start
  let free ← Vec.overwrite scratch.rate product
  let rate ← model.inputMap.addMulVec 1 input 1 free
  return { scratch with rate }

/-- The rate `Q X_i + Aᵀ Λ_{i+1}` of the costate, where `finish` holds `X_i` and `ahead` holds
`Λ_{i+1}`. -/
def costateRate (model : Regulator K) (scratch : Scratch K) : Checked (Scratch K) := do
  let product ← model.stateWeight.mulVec scratch.finish
  let weighted ← Vec.overwrite scratch.rate product
  let rate ← model.dynamics.addTransposeMulVec scratch.ahead weighted
  return { scratch with rate }

/-! ### Prediction -/

/-- One Euler step of length `elapsed`, driven by the inputs of the first stage. -/
def predict (model : Regulator K) (sample : Sample K) (elapsed : K) (out : Vec K) :
    Checked (Regulator K × Vec K) := do
  let start ← Vec.overwrite model.scratch.start sample.state
  let scratch ← model.stateRate sample.decision 0 { model.scratch with start }
  let out ← Vec.offset out sample.state elapsed scratch.rate
  return ({ model with scratch }, out)

variable [Neg K]

/-! ### Stationarity -/

/-- The block of a constrained stage: the gradient with the part `Eᵀ ρ` added to it, and below it
the residual `E u - e`. The block starts at `first`, and the gradient comes in without that part. -/
def constrainedBlock (constraint : Constraint K) (decision : Vec K) (first : Nat)
    (input gradient out : Vec K) : Checked (Vec K) := do
  let below := first + input.size
  let multiplier ← Vec.segment decision below constraint.matrix.rows
  let gradient ← constraint.matrix.addTransposeMulVec multiplier gradient
  let out ← Vec.splice out first gradient
  let block ← Vec.segment out below constraint.matrix.rows
  let target ← Vec.overwrite block constraint.target
  let residual ← constraint.matrix.addMulVec 1 input (-1) target
  Vec.splice out below residual

/-- The block of a stage, written from the gradient `R u + Bᵀ λ` on. -/
def writeBlock (model : Regulator K) (decision : Vec K) (first : Nat)
    (input gradient out : Vec K) : Checked (Vec K) :=
  match model.constraint with
  | some constraint => constrainedBlock constraint decision first input gradient out
  | none => Vec.splice out first gradient

/-- The stationarity residual of one stage, written into its block. -/
def stageStationarity (model : Regulator K) (decision : Vec K) (costates : Mat K) (stage : Nat)
    (work : Scratch K × Vec K) : Checked (Scratch K × Vec K) := do
  let (scratch, out) := work
  let costate ← Mat.readRow scratch.costate costates stage
  let first := stage * model.width
  let input ← Vec.segment decision first model.input
  let block ← Vec.segment out first model.input
  let product ← model.inputWeight.mulVec input
  let weighted ← Vec.overwrite block product
  let gradient ← model.inputMap.addTransposeMulVec costate weighted
  let out ← model.writeBlock decision first input gradient out
  return ({ scratch with costate }, out)

/-- The stationarity residual of all stages. -/
def stationarity (model : Regulator K) (sample : Sample K) (trajectories : Trajectories K)
    (out : Vec K) : Checked (Regulator K × Vec K) := do
  let (scratch, out) ← Sweep.forward
    (model.stageStationarity sample.decision trajectories.costate) model.stages
    (model.scratch, out)
  return ({ model with scratch }, out)

/-! ### Defects -/

/-- The defect of the state equation on a stage, where `start` holds the state it starts at.
Afterwards `start` holds the state that the next stage starts at. -/
def stateDefect (model : Regulator K) (decision : Vec K) (span : K) (states : Mat K)
    (stage : Nat) (work : Scratch K × Mat K) : Checked (Scratch K × Mat K) := do
  let (scratch, out) := work
  let scratch ← model.stateRate decision stage scratch
  let reached ← Mat.readRow scratch.finish states stage
  let change ← Vec.axpy (-1) scratch.start reached
  let finish ← Vec.axpy (-span) scratch.rate change
  let out ← out.writeRow stage finish
  let start ← Mat.readRow scratch.start states stage
  return ({ scratch with finish, start }, out)

/-- The defect of the terminal condition. -/
def terminalDefect (model : Regulator K) (trajectories : Trajectories K)
    (work : Scratch K × Mat K) : Checked (Scratch K × Mat K) := do
  let (scratch, out) := work
  let last := model.stages - 1
  let finish ← Mat.readRow scratch.finish trajectories.state last
  let given ← Mat.readRow scratch.costate trajectories.costate last
  let costate ← model.terminalWeight.addMulVec (-1) finish 1 given
  let out ← out.writeRow last costate
  return ({ scratch with finish, costate }, out)

/-- The defect of the costate equation on a stage before the last. -/
def costateDefect (model : Regulator K) (span : K) (trajectories : Trajectories K)
    (stage : Nat) (work : Scratch K × Mat K) : Checked (Scratch K × Mat K) := do
  let (scratch, out) := work
  let finish ← Mat.readRow scratch.finish trajectories.state stage
  let ahead ← Mat.readRow scratch.ahead trajectories.costate (stage + 1)
  let scratch ← model.costateRate { scratch with finish, ahead }
  let given ← Mat.readRow scratch.costate trajectories.costate stage
  let change ← Vec.axpy (-1) scratch.ahead given
  let costate ← Vec.axpy (-span) scratch.rate change
  let out ← out.writeRow stage costate
  return ({ scratch with costate }, out)

section Defects

variable [Sub K] [Div K] [BEq K] [NatCast K] [LE K] [DecidableLE K] [ScalarFunctions K]

/-- The defects of both equations on all stages. -/
def defects (model : Regulator K) (sample : Sample K) (trajectories out : Trajectories K) :
    Checked (Regulator K × Trajectories K) := do
  let span := model.stageSpan sample.time
  let start ← Vec.overwrite model.scratch.start sample.state
  let (scratch, state) ← Sweep.forward
    (model.stateDefect sample.decision span trajectories.state) model.stages
    ({ model.scratch with start }, out.state)
  let terminal ← model.terminalDefect trajectories (scratch, out.costate)
  let (scratch, costate) ← Sweep.backward (model.costateDefect span trajectories)
    (model.stages - 1) terminal
  return ({ model with scratch }, { state, costate })

end Defects

/-! ### Rebuilding -/

/-- The state that a stage reaches with a prescribed defect, where `start` holds the state it starts
at. The two vectors then change places, so that `start` holds the state that the next stage starts
at. -/
def rebuildState (model : Regulator K) (decision : Vec K) (span : K) (targets : Mat K)
    (stage : Nat) (work : Scratch K × Mat K) : Checked (Scratch K × Mat K) := do
  let (scratch, out) := work
  let scratch ← model.stateRate decision stage scratch
  let target ← Mat.readRow scratch.finish targets stage
  let held ← Vec.axpy 1 scratch.start target
  let reached ← Vec.axpy span scratch.rate held
  let out ← out.writeRow stage reached
  return ({ scratch with start := reached, finish := scratch.start }, out)

/-- The costate of the last stage, where `start` holds the last state. -/
def rebuildTerminal (model : Regulator K) (targets : Mat K) (work : Scratch K × Mat K) :
    Checked (Scratch K × Mat K) := do
  let (scratch, out) := work
  let last := model.stages - 1
  let target ← Mat.readRow scratch.ahead targets last
  let ahead ← model.terminalWeight.addMulVec 1 scratch.start 1 target
  let out ← out.writeRow last ahead
  return ({ scratch with ahead }, out)

/-- The costate of a stage before the last, where `ahead` holds the costate of the stage after it.
The two vectors then change places. -/
def rebuildCostate (model : Regulator K) (span : K) (states targets : Mat K) (stage : Nat)
    (work : Scratch K × Mat K) : Checked (Scratch K × Mat K) := do
  let (scratch, out) := work
  let finish ← Mat.readRow scratch.finish states stage
  let scratch ← model.costateRate { scratch with finish }
  let target ← Mat.readRow scratch.costate targets stage
  let held ← Vec.axpy 1 scratch.ahead target
  let reached ← Vec.axpy span scratch.rate held
  let out ← out.writeRow stage reached
  return ({ scratch with ahead := reached, costate := scratch.ahead }, out)

variable [Sub K] [Div K] [BEq K] [NatCast K] [LE K] [DecidableLE K] [ScalarFunctions K]

/-- The trajectories with the prescribed defects. -/
def rebuild (model : Regulator K) (sample : Sample K) (targets out : Trajectories K) :
    Checked (Regulator K × Trajectories K) := do
  let span := model.stageSpan sample.time
  let start ← Vec.overwrite model.scratch.start sample.state
  let (scratch, state) ← Sweep.forward
    (model.rebuildState sample.decision span targets.state) model.stages
    ({ model.scratch with start }, out.state)
  let terminal ← model.rebuildTerminal targets.costate (scratch, out.costate)
  let (scratch, costate) ← Sweep.backward
    (model.rebuildCostate span state targets.costate) (model.stages - 1) terminal
  return ({ model with scratch }, { state, costate })

/-! ### The problem -/

variable [LT K] [DecidableLT K]

/-- A new shape and origin of the horizon, if they are accepted. -/
def reset (model : Regulator K) (settings : Horizon.Settings K) :
    Regulator K × Except (Horizon.Invalid K) Unit :=
  match model.horizon.reset settings with
  | .ok horizon => ({ model with horizon }, .ok ())
  | .error cause => (model, .error cause)

/-- A new origin of the horizon, if it is accepted. -/
def moveOrigin (model : Regulator K) (origin : K) :
    Regulator K × Except (Horizon.Invalid K) Unit :=
  match model.horizon.moveOrigin origin with
  | .ok horizon => ({ model with horizon }, .ok ())
  | .error cause => (model, .error cause)

/-- The regulator as a problem to track. -/
instance problem : Problem (Regulator K) K (Horizon.Invalid K) where
  dimensions := dimensions
  predict := predict
  stationarity := stationarity
  defects := defects
  rebuild := rebuild
  reset := reset
  moveOrigin := moveOrigin

end RecedingHorizon.Regulator
