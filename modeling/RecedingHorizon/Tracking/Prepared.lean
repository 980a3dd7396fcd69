/-
**Steps of the control loop.**

One control step prepares the right-hand side of the continuation equation, applies the operator any
number of times, and advances. What the preparation computes for the rest of the step is kept in a
`Prepared` step. Its storage is a `Workspace` when it is idle, and goes round:

  `Workspace` → (prepare) → `Prepared` → (advance) → `Workspace`

* `Prepared.release` gives a step up and keeps its storage.
-/

import RecedingHorizon.Problem

namespace RecedingHorizon.Tracking

universe u

/-- The values of one step. The shifted sample is the one that the model predicts an increment `h`
ahead of the base sample. -/
structure Buffers (K : Type u) where
  /-- The time of the base sample. -/
  time : K
  /-- The time of the shifted sample. -/
  shiftedTime : K
  /-- The state of the shifted sample. -/
  shiftedState : Vec K
  /-- The stationarity residual at the base sample. -/
  residual : Vec K
  /-- The stationarity residual at the shifted sample, along the same trajectories. -/
  shiftedResidual : Vec K
  /-- The defects at the base sample. -/
  defects : Trajectories K
  /-- The defects of the same trajectories at the shifted sample. -/
  shiftedDefects : Trajectories K

/-- Zero values for the given dimensions. -/
def Buffers.zeros {K : Type u} [Zero K] (dimensions : Dimensions) : Buffers K where
  time := 0
  shiftedTime := 0
  shiftedState := Vec.zeros dimensions.state
  residual := Vec.zeros dimensions.decisionSize
  shiftedResidual := Vec.zeros dimensions.decisionSize
  defects := Trajectories.zeros dimensions
  shiftedDefects := Trajectories.zeros dimensions

/-- The shifted sample under a decision. -/
def Buffers.shifted {K : Type u} (buffers : Buffers K) (decision : Vec K) : Sample K where
  time := buffers.shiftedTime
  state := buffers.shiftedState
  decision := decision

/-- Idle storage for the steps of one engine. -/
structure Workspace (K : Type u) where
  /-- The engine that the storage was made for. -/
  engine : Nat
  buffers : Buffers K

/-- A prepared step of one engine. -/
structure Prepared (K : Type u) where
  /-- The engine that prepared the step. -/
  engine : Nat
  /-- The sequence number of the engine right after the preparation. -/
  sequence : Nat
  buffers : Buffers K

/-- The storage of a step that is given up. -/
def Prepared.release {K : Type u} (step : Prepared K) : Workspace K where
  engine := step.engine
  buffers := step.buffers

end RecedingHorizon.Tracking
