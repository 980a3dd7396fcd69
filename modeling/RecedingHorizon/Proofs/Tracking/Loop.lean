/-
**The control loop.**

A turn of the loop prepares a step at the current sample, multiplies the correction that the solver
found by the operator, advances by one increment along the prior direction with the correction, and
goes on at the sample that the step predicted.

* `Loop` is where the loop stands, and `Loop.turn` carries out a turn with the calls of the engine;
* `Loop.Ready` is kept by every turn, and `Loop.turn_value` says what a turn leaves;
* `Loop.Measures` relates the loop to the residuals of its problem at the current sample.
-/

import RecedingHorizon.Proofs.Tracking.Values

set_option linter.unusedSectionVars false

namespace RecedingHorizon.Tracking

universe u

variable {σ K ε : Type u}

/-! ### One turn -/

/-- Where the control loop stands: the engine, idle storage, and the sample to start from. -/
structure Loop (σ K : Type u) where
  engine : Engine σ K
  workspace : Workspace K
  sample : Sample K
  trajectories : Trajectories K

/-- What a turn is given: two directions, and storage for the two results. -/
structure Turn (K : Type u) where
  /-- The prior direction. -/
  prior : Vec K
  /-- The correction that the solver found. -/
  correction : Vec K
  /-- Storage for the right-hand side. -/
  rightHandSide : Vec K
  /-- Storage for the product of the operator with the correction. -/
  product : Vec K

/-- What a turn leaves. -/
structure Turned (σ K : Type u) where
  loop : Loop σ K
  /-- The right-hand side of the linear system. -/
  rightHandSide : Vec K
  /-- The product of the operator with the correction. -/
  product : Vec K

/-- Prepare, multiply and advance, or stop at the first refusal. -/
def Loop.turn [Problem σ K ε] [Zero K] [One K] [Add K] [Mul K] [Neg K] [Sub K] [Div K]
    (loop : Loop σ K) (given : Turn K) : Checked (Except (Refusal ε K) (Turned σ K)) := do
  let decision := loop.sample.decision
  let preparation ← loop.engine.prepare loop.workspace loop.sample loop.trajectories given.prior
    given.rightHandSide
  match preparation.result with
  | .error cause => return .error cause
  | .ok step =>
    let multiplication ← preparation.engine.multiply step decision given.correction given.product
    match multiplication.result with
    | .error cause => return .error cause
    | .ok () =>
      let advance ← multiplication.engine.advance step decision
        (Vec.moved 1 given.prior given.correction) loop.trajectories loop.engine.settings.increment
      match advance.result with
      | .error cause => return .error cause
      | .ok workspace =>
        return .ok {
          loop := {
            engine := advance.engine
            workspace
            sample := step.buffers.shifted advance.buffers.1
            trajectories := advance.buffers.2 }
          rightHandSide := preparation.buffers
          product := multiplication.buffers }

/-! ### Many turns -/

section Turns

variable [Problem σ K ε] [Zero K] [One K] [Add K] [Mul K] [Neg K] [Sub K] [Div K]

/-- What a turn leaves, where a turn that does not succeed leaves the loop where it was. -/
def Loop.turnOrStay (loop : Loop σ K) (given : Turn K) : Turned σ K :=
  match loop.turn given with
  | .ok (.ok turned) => turned
  | _ => { loop, rightHandSide := given.rightHandSide, product := given.product }

/-- Where the loop stands after the first turns. -/
def Loop.after (loop : Loop σ K) (turns : Nat → Turn K) : Nat → Loop σ K
  | 0 => loop
  | count + 1 => ((loop.after turns count).turnOrStay (turns count)).loop

end Turns

/-! ### Loops that work -/

/-- What is given has the length of the decision. -/
structure Turn.Fits (given : Turn K) (dimensions : Dimensions) : Prop where
  prior : given.prior.size = dimensions.decisionSize
  correction : given.correction.size = dimensions.decisionSize
  rightHandSide : given.rightHandSide.size = dimensions.decisionSize
  product : given.product.size = dimensions.decisionSize

/-- The storage is that of the engine, and the sample and the trajectories have its shapes. -/
structure Loop.Fits (loop : Loop σ K) : Prop where
  scratch : loop.engine.scratch.Fits loop.engine.dimensions
  owner : loop.workspace.engine = loop.engine.id
  workspace : loop.workspace.buffers.Fits loop.engine.dimensions
  sample : loop.sample.Fits loop.engine.dimensions
  trajectories : loop.trajectories.Fits loop.engine.dimensions

/-- The loop fits, and its engine works. -/
structure Loop.Ready (loop : Loop σ K) (evaluations : Evaluations K) (states : σ → Prop) :
    Prop where
  fits : loop.Fits
  engine : loop.engine.Ready evaluations states

/-- The residuals at the current sample, as the problem evaluates them in any storage that fits. -/
structure Loop.Measures [Problem σ K ε] (loop : Loop σ K) (residual : Vec K)
    (defects : Trajectories K) : Prop where
  stationarity : ∀ out : Vec K, out.size = loop.engine.dimensions.decisionSize →
    ∃ next, Problem.stationarity loop.engine.problem loop.sample loop.trajectories out =
      .ok (next, residual)
  defects : ∀ out : Trajectories K, out.Fits loop.engine.dimensions →
    ∃ next, Problem.defects loop.engine.problem loop.sample loop.trajectories out =
      .ok (next, defects)

/-- What a turn leaves, in terms of the values that the problem evaluates to. -/
structure Loop.Yields [Zero K] [One K] [Add K] [Mul K] [Neg K] [Sub K] [Div K] (loop : Loop σ K)
    (evaluations : Evaluations K) (given : Turn K) (turned : Turned σ K) : Prop where
  settings : turned.loop.engine.settings = loop.engine.settings
  dimensions : turned.loop.engine.dimensions = loop.engine.dimensions
  sample : turned.loop.sample =
    (evaluations.prepared loop.engine.settings loop.sample loop.trajectories).shifted
      (evaluations.advanced loop.engine.settings
        (evaluations.prepared loop.engine.settings loop.sample loop.trajectories)
        loop.sample.decision (Vec.moved 1 given.prior given.correction) loop.trajectories
        loop.engine.settings.increment).1
  trajectories : turned.loop.trajectories =
    (evaluations.advanced loop.engine.settings
      (evaluations.prepared loop.engine.settings loop.sample loop.trajectories)
      loop.sample.decision (Vec.moved 1 given.prior given.correction) loop.trajectories
      loop.engine.settings.increment).2
  rightHandSide : turned.rightHandSide = evaluations.rightHandSide loop.engine.settings
    (evaluations.prepared loop.engine.settings loop.sample loop.trajectories)
    loop.sample.decision given.prior
  product : turned.product = evaluations.product loop.engine.settings
    (evaluations.prepared loop.engine.settings loop.sample loop.trajectories)
    loop.sample.decision given.correction

section Ready

variable [Problem σ K ε] {evaluations : Evaluations K} {states : σ → Prop}
  (total : Evaluates evaluations states) {loop : Loop σ K}
  (ready : loop.Ready evaluations states)
include total ready

/-- The residuals of a loop are the values of the evaluations. -/
theorem Loop.measures :
    loop.Measures (evaluations.stationarity loop.sample loop.trajectories)
      (evaluations.defects loop.sample loop.trajectories) := by
  obtain ⟨⟨_, _, _, sampleFits, fits⟩, held, same, _⟩ := ready
  rw [same] at sampleFits fits
  constructor
  · intro out room
    rw [same] at room
    obtain ⟨next, ran, _⟩ := total.stationarity _ _ _ out held sampleFits fits room
    exact ⟨next, ran⟩
  · intro out room
    rw [same] at room
    obtain ⟨next, ran, _⟩ := total.defects _ _ _ out held sampleFits fits room
    exact ⟨next, ran⟩

variable [Zero K] [One K] [Add K] [Mul K] [Neg K] [Sub K] [Div K]

/-- The decision and the trajectories of an advance have the right shapes. -/
theorem Loop.fits_advanced {direction : Vec K}
    (long : direction.size = loop.engine.dimensions.decisionSize) (elapsed : K) :
    let buffers := evaluations.prepared loop.engine.settings loop.sample loop.trajectories
    let reached := evaluations.advanced loop.engine.settings buffers loop.sample.decision direction
      loop.trajectories elapsed
    (buffers.shifted reached.1).Fits loop.engine.dimensions ∧
      reached.2.Fits loop.engine.dimensions := by
  have preparedFits := total.fits_prepared ready.engine.dimensions loop.engine.settings
    ready.fits.sample ready.fits.trajectories
  have movedLong := Vec.size_moved_of_size (a := elapsed) long ready.fits.sample.decision
  exact ⟨preparedFits.shifted movedLong, ready.fits.trajectories.state,
    ready.fits.trajectories.costate⟩

/-- **A turn succeeds**, and leaves the loop ready for the next one. -/
theorem Loop.turn_value {given : Turn K} (givenFits : given.Fits loop.engine.dimensions) :
    ∃ turned, loop.turn given = .ok (.ok turned) ∧
      turned.loop.Ready evaluations states ∧ loop.Yields evaluations given turned := by
  let settings := loop.engine.settings
  let decision := loop.sample.decision
  let buffers := evaluations.prepared settings loop.sample loop.trajectories
  have preparedFits := total.fits_prepared ready.engine.dimensions loop.engine.settings
    ready.fits.sample ready.fits.trajectories
  have directionLong := Vec.size_moved_of_size (a := 1) givenFits.prior givenFits.correction
  have reachedFits := Loop.fits_advanced total ready directionLong settings.increment
  -- the three calls, each on the engine that the call before left
  obtain ⟨_, storing, ranPrepare⟩ := Engine.prepare_value (ε := ε) total ready.engine
    (Engine.admitPreparation_eq_ok_iff.mpr ⟨ready.fits.owner,
      ⟨ready.fits.sample, ready.fits.trajectories⟩, givenFits.prior, givenFits.rightHandSide⟩)
    ready.fits.workspace
  have preparedReady := (ready.engine.withSequence _).of_storing storing
  obtain ⟨first, firstScratch, _, _, rfl⟩ := storing
  have admitProduct : Engine.admitProduct (ε := ε)
      { loop.engine with
        problem := first, sequence := loop.engine.sequence + 1, scratch := firstScratch }
      { engine := loop.engine.id, sequence := loop.engine.sequence + 1, buffers }
      decision given.correction given.product = .ok () :=
    Engine.admitProduct_eq_ok_iff.mpr ⟨⟨rfl, rfl⟩, ready.fits.sample.decision,
      givenFits.correction, givenFits.product⟩
  obtain ⟨_, storing, ranMultiply⟩ :=
    Engine.multiply_value total preparedReady admitProduct preparedFits
  have multipliedReady := preparedReady.of_storing storing
  obtain ⟨second, secondScratch, _, _, rfl⟩ := storing
  have admitAdvance : Engine.admitAdvance (ε := ε)
      { loop.engine with
        problem := second, sequence := loop.engine.sequence + 1, scratch := secondScratch }
      { engine := loop.engine.id, sequence := loop.engine.sequence + 1, buffers }
      decision (Vec.moved 1 given.prior given.correction) loop.trajectories = .ok () :=
    Engine.admitAdvance_eq_ok_iff.mpr ⟨⟨rfl, rfl⟩, ready.fits.sample.decision, directionLong,
      ready.fits.trajectories⟩
  obtain ⟨_, storing, ranAdvance⟩ :=
    Engine.advance_value total multipliedReady settings.increment admitAdvance preparedFits
  have advancedReady := multipliedReady.of_storing storing
  obtain ⟨last, lastScratch, _, _, rfl⟩ := storing
  let engine : Engine σ K :=
    { loop.engine with
      problem := last, sequence := loop.engine.sequence + 1, scratch := lastScratch }
  let reached := evaluations.advanced settings buffers decision
    (Vec.moved 1 given.prior given.correction) loop.trajectories settings.increment
  refine ⟨{
    loop := {
      engine
      workspace := { engine := loop.engine.id, buffers }
      sample := buffers.shifted reached.1
      trajectories := reached.2 }
    rightHandSide := evaluations.rightHandSide settings buffers decision given.prior
    product := evaluations.product settings buffers decision given.correction },
    ?_, ⟨⟨advancedReady.scratch, rfl, preparedFits, reachedFits.1, reachedFits.2⟩, advancedReady⟩,
    ⟨rfl, rfl, rfl, rfl, rfl, rfl⟩⟩
  unfold Loop.turn
  simp only
  rw [ranPrepare, ok_bind]
  simp only
  rw [ranMultiply, ok_bind]
  simp only
  rw [ranAdvance, ok_bind]
  rfl

end Ready

end RecedingHorizon.Tracking
