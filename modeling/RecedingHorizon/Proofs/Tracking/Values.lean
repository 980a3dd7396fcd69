/-
**Values of the engine's operations.**

An engine over a problem whose evaluations have no history has none either. Each of its operations
succeeds on operands of the right shapes, its result is a function of the settings and of the
operands, and the engine it leaves differs from the one before in storage only.

* `Evaluations.prepared`, `Evaluations.rightHandSide`, `Evaluations.product` and
  `Evaluations.advanced` are these functions, and `relations_prepares_iff` and its like say that
  they are what is known of the results when the evaluations are functions;
* `Engine.Ready` is what an engine needs to work;
* `Engine.prepare_value`, `Engine.multiply_value`, `Engine.advance_value` and
  `Engine.optimalityNorm_value` describe the operations on operands that are accepted. Refused
  operands leave everything as it was, by definition;
* `Engine.prepare_storing` and its like: accepted or not, a call leaves the problem but for its
  storage.
-/

import RecedingHorizon.Proofs.Tracking.Frame
import RecedingHorizon.Proofs.Tracking.Totality

set_option linter.unusedSectionVars false

namespace RecedingHorizon

universe u

variable {σ K ε : Type u}

/-! ### The values -/

namespace Evaluations

open Tracking

variable [One K] [Add K] [Mul K] [Neg K]

/-- The trajectories at the shifted sample with the decayed defects of a step. -/
def decayed [Sub K] (evaluations : Evaluations K) (settings : Settings K) (buffers : Buffers K)
    (decision : Vec K) : Trajectories K :=
  evaluations.rebuild (buffers.shifted decision) (buffers.defects.scale settings.decay)

/-- The change of the stationarity residual along a direction. -/
def response (evaluations : Evaluations K) (settings : Settings K) (buffers : Buffers K)
    (decision direction : Vec K) : Vec K :=
  let moved := buffers.shifted (Vec.moved settings.increment direction decision)
  Vec.moved (-1) buffers.shiftedResidual
    (evaluations.stationarity moved (evaluations.rebuild moved buffers.shiftedDefects))

/-- The norm of the whole optimality residual. -/
def normOf [Zero K] [ScalarFunctions K] (evaluations : Evaluations K) (sample : Sample K)
    (trajectories : Trajectories K) : K :=
  ScalarFunctions.sqrt (Vec.normSq (evaluations.stationarity sample trajectories) +
    Mat.normSq (evaluations.defects sample trajectories).state +
    Mat.normSq (evaluations.defects sample trajectories).costate)

/-- What a preparation keeps for the rest of the step. -/
def prepared (evaluations : Evaluations K) (settings : Settings K) (sample : Sample K)
    (trajectories : Trajectories K) : Buffers K :=
  let shifted : Sample K :=
    { time := sample.time + settings.increment
      state := evaluations.predict sample settings.increment
      decision := sample.decision }
  { time := sample.time
    shiftedTime := shifted.time
    shiftedState := shifted.state
    residual := evaluations.stationarity sample trajectories
    shiftedResidual := evaluations.stationarity shifted trajectories
    defects := evaluations.defects sample trajectories
    shiftedDefects := evaluations.defects shifted trajectories }

variable [Div K]

/-- The product of the operator with a direction. -/
def product (evaluations : Evaluations K) (settings : Settings K) (buffers : Buffers K)
    (decision direction : Vec K) : Vec K :=
  Vec.scale (1 / settings.increment) (evaluations.response settings buffers decision direction)

/-- The right-hand side for the prior direction zero. -/
def driftOf [Sub K] (evaluations : Evaluations K) (settings : Settings K) (buffers : Buffers K)
    (decision : Vec K) : Vec K :=
  let probe := evaluations.stationarity (buffers.shifted decision)
    (evaluations.decayed settings buffers decision)
  Vec.moved (-settings.gain) buffers.residual
    (Vec.scale (1 / settings.increment) (Vec.moved (-1) probe buffers.residual))

/-- The right-hand side for a prior direction. -/
def rightHandSide [Sub K] (evaluations : Evaluations K) (settings : Settings K)
    (buffers : Buffers K) (decision prior : Vec K) : Vec K :=
  Vec.moved (-1 / settings.increment) (evaluations.response settings buffers decision prior)
    (evaluations.driftOf settings buffers decision)

/-- The decision and the trajectories after a time `elapsed`. -/
def advanced [Zero K] [Sub K] (evaluations : Evaluations K) (settings : Settings K)
    (buffers : Buffers K) (decision direction : Vec K) (trajectories : Trajectories K)
    (elapsed : K) : Vec K × Trajectories K :=
  let moved := Vec.moved settings.increment direction decision
  (Vec.moved elapsed direction decision,
    Trajectories.blended (elapsed / settings.increment) trajectories
      (evaluations.decayed settings buffers moved))

/-! ### What is known when the evaluations are functions -/

theorem relations_prepares_iff {evaluations : Evaluations K} {settings : Settings K}
    {sample : Sample K} {trajectories : Trajectories K} {buffers : Buffers K} :
    evaluations.relations.Prepares settings sample trajectories buffers ↔
      buffers = evaluations.prepared settings sample trajectories := by
  constructor
  · intro prepares
    obtain ⟨time, shiftedTime, shiftedState, residual, shiftedResidual, defects, shiftedDefects⟩ :=
      buffers
    obtain ⟨⟨rfl, rfl, rfl, rfl, evaluated, rfl⟩, compared⟩ := prepares
    simp only [relations, Buffers.shifted] at evaluated compared
    subst evaluated compared
    rfl
  · rintro rfl
    exact ⟨⟨rfl, rfl, rfl, rfl, rfl, rfl⟩, rfl⟩

theorem relations_responds_iff {evaluations : Evaluations K} {settings : Settings K}
    {buffers : Buffers K} {decision direction value : Vec K} :
    evaluations.relations.Responds settings buffers decision direction value ↔
      value = evaluations.response settings buffers decision direction := by
  constructor
  · rintro ⟨_, _, rfl, rfl, rfl⟩
    rfl
  · rintro rfl
    exact ⟨_, _, rfl, rfl, rfl⟩

theorem relations_rightHandSide_iff [Sub K] {evaluations : Evaluations K} {settings : Settings K}
    {buffers : Buffers K} {decision prior value : Vec K} :
    evaluations.relations.RightHandSide settings buffers decision prior value ↔
      value = evaluations.rightHandSide settings buffers decision prior := by
  constructor
  · rintro ⟨_, _, ⟨_, _, rfl, rfl, rfl⟩, ⟨_, _, rfl, rfl, rfl⟩, rfl⟩
    rfl
  · rintro rfl
    exact ⟨_, _, ⟨_, _, rfl, rfl, rfl⟩, ⟨_, _, rfl, rfl, rfl⟩, rfl⟩

theorem relations_advances_iff [Zero K] [Sub K] {evaluations : Evaluations K}
    {settings : Settings K} {buffers : Buffers K} {decision direction : Vec K}
    {trajectories : Trajectories K} {elapsed : K} {reached : Vec K × Trajectories K} :
    evaluations.relations.Advances settings buffers decision direction trajectories elapsed
        reached ↔
      reached = evaluations.advanced settings buffers decision direction trajectories elapsed := by
  constructor
  · rintro ⟨_, rfl, rfl⟩
    rfl
  · rintro rfl
    exact ⟨_, rfl, rfl⟩

omit [Div K] in
theorem relations_measures_iff [Zero K] [ScalarFunctions K] {evaluations : Evaluations K}
    {sample : Sample K} {trajectories : Trajectories K} {norm : K} :
    evaluations.relations.Measures sample trajectories norm ↔
      norm = evaluations.normOf sample trajectories := by
  constructor
  · rintro ⟨_, _, rfl, rfl, rfl⟩
    rfl
  · rintro rfl
    exact ⟨_, _, rfl, rfl, rfl⟩

end Evaluations

/-! ### Shapes of the values -/

namespace Evaluates

open Tracking

variable [Problem σ K ε] [One K] [Add K] [Mul K] [Neg K]
  {evaluations : Evaluations K} {states : σ → Prop} (total : Evaluates evaluations states)
  {dimensions : Dimensions} (same : dimensions = evaluations.dimensions) (settings : Settings K)
include total same

/-- What is prepared has the right shapes. -/
theorem fits_prepared {sample : Sample K} {trajectories : Trajectories K}
    (sampleFits : sample.Fits dimensions) (fits : trajectories.Fits dimensions) :
    (evaluations.prepared settings sample trajectories).Fits dimensions := by
  subst same
  have shiftedSize := total.size_predict sample settings.increment sampleFits
  have shiftedFits : Sample.Fits
      { time := sample.time + settings.increment
        state := evaluations.predict sample settings.increment
        decision := sample.decision } evaluations.dimensions := ⟨shiftedSize, sampleFits.decision⟩
  exact
    { shiftedState := shiftedSize
      residual := total.size_stationarity _ _ sampleFits fits
      shiftedResidual := total.size_stationarity _ _ shiftedFits fits
      defects := total.fits_defects _ _ sampleFits fits
      shiftedDefects := total.fits_defects _ _ shiftedFits fits }

variable {buffers : Buffers K} {decision : Vec K} (fits : buffers.Fits dimensions)
  (long : decision.size = dimensions.decisionSize)
include fits long

theorem fits_decayed [Sub K] : (evaluations.decayed settings buffers decision).Fits dimensions := by
  subst same
  exact total.fits_rebuild _ _ (fits.shifted long) (fits.defects.scale settings.decay)

theorem size_response {direction : Vec K}
    (directionLong : direction.size = dimensions.decisionSize) :
    (evaluations.response settings buffers decision direction).size = dimensions.decisionSize := by
  subst same
  have movedFits :=
    fits.shifted (Vec.size_moved_of_size (a := settings.increment) directionLong long)
  exact Vec.size_moved_of_size fits.shiftedResidual
    (total.size_stationarity _ _ movedFits (total.fits_rebuild _ _ movedFits fits.shiftedDefects))

theorem size_driftOf [Sub K] [Div K] :
    (evaluations.driftOf settings buffers decision).size = dimensions.decisionSize := by
  have decayedFits := total.fits_decayed same settings fits long
  subst same
  have reachedLong := total.size_stationarity _ _ (fits.shifted long) decayedFits
  refine Vec.size_moved_of_size fits.residual ?_
  rw [Vec.size_scale]
  exact Vec.size_moved_of_size reachedLong fits.residual

end Evaluates

namespace Tracking

namespace Engine

/-! ### Engines that work -/

/-- The problem of the engine is one of those that evaluate to the given functions, and the storage
of the engine has the right shapes. -/
structure Ready (engine : Engine σ K) (evaluations : Evaluations K) (states : σ → Prop) :
    Prop where
  problem : states engine.problem
  dimensions : engine.dimensions = evaluations.dimensions
  scratch : engine.scratch.Fits engine.dimensions

section Storing

variable {engine other : Engine σ K} {evaluations : Evaluations K} {states : σ → Prop}

theorem Ready.storing_self (ready : engine.Ready evaluations states) :
    engine.Storing states engine :=
  ⟨engine.problem, engine.scratch, ready.problem, ready.scratch, rfl⟩

theorem Ready.of_storing (ready : engine.Ready evaluations states)
    (storing : engine.Storing states other) : other.Ready evaluations states := by
  obtain ⟨problem, scratch, held, fits, rfl⟩ := storing
  exact ⟨held, ready.dimensions, fits⟩

/-- The sequence number plays no part in what an engine needs to work. -/
theorem Ready.withSequence (ready : engine.Ready evaluations states) (sequence : Nat) :
    Ready { engine with sequence } evaluations states :=
  ⟨ready.problem, ready.dimensions, ready.scratch⟩

end Storing

/-! ### Values of the operations -/

section Values

variable [Problem σ K ε] [One K] [Add K] [Mul K] [Neg K]
  {evaluations : Evaluations K} {states : σ → Prop} (total : Evaluates evaluations states)
  {engine : Engine σ K} (ready : engine.Ready evaluations states)
include total ready

/-- The functions are what is known of the evaluations of the engine's problem. -/
theorem Ready.able : engine.Able evaluations.relations states where
  serves problem held := by
    rw [ready.dimensions]
    exact total.serves held
  problem := ready.problem
  scratch := ready.scratch

/-- **A preparation that is accepted** succeeds, takes the next sequence number, and gives what the
sample, the trajectories, the settings and the prior direction determine. -/
theorem prepare_value [Sub K] [Div K] {workspace : Workspace K} {sample : Sample K}
    {trajectories : Trajectories K} {prior out : Vec K}
    (admitted : engine.admitPreparation (ε := ε) workspace sample trajectories prior out = .ok ())
    (bufferFits : workspace.buffers.Fits engine.dimensions) :
    ∃ next, Storing { engine with sequence := engine.sequence + 1 } states next ∧
      engine.prepare workspace sample trajectories prior out = .ok
        { engine := next
          buffers := evaluations.rightHandSide engine.settings
            (evaluations.prepared engine.settings sample trajectories) sample.decision prior
          records := [engine.report (.prepared (engine.sequence + 1) sample.time)]
          result := .ok
            { engine := engine.id
              sequence := engine.sequence + 1
              buffers := evaluations.prepared engine.settings sample trajectories } } := by
  obtain ⟨⟨next, _, _, _⟩, ran, ⟨_, _, _⟩, storing, rfl, rfl, rfl, rfl, _, prepares, solves⟩ :=
    prepare_returns (ready.able total) admitted bufferFits
  obtain rfl := Evaluations.relations_prepares_iff.mp prepares
  obtain rfl := Evaluations.relations_rightHandSide_iff.mp solves
  exact ⟨next, storing, ran⟩

/-- **A product that is accepted** is what the step, the settings and the operands determine. -/
theorem multiply_value [Div K] {step : Prepared K} {decision direction out : Vec K}
    (admitted : engine.admitProduct (ε := ε) step decision direction out = .ok ())
    (bufferFits : step.buffers.Fits engine.dimensions) :
    ∃ next, engine.Storing states next ∧ engine.multiply step decision direction out = .ok
      { engine := next
        buffers := evaluations.product engine.settings step.buffers decision direction
        records := []
        result := .ok () } := by
  obtain ⟨⟨next, _, _, _⟩, ran, storing, rfl, rfl, _, responds, rfl⟩ :=
    multiply_returns (ready.able total) admitted bufferFits
  obtain rfl := Evaluations.relations_responds_iff.mp responds
  exact ⟨next, storing, ran⟩

/-- **An advance that is accepted** is what the step, the settings and the operands determine. -/
theorem advance_value [Zero K] [Sub K] [Div K] {step : Prepared K} {decision direction : Vec K}
    {trajectories : Trajectories K} (elapsed : K)
    (admitted : engine.admitAdvance (ε := ε) step decision direction trajectories = .ok ())
    (bufferFits : step.buffers.Fits engine.dimensions) :
    ∃ next, engine.Storing states next ∧
      engine.advance step decision direction trajectories elapsed = .ok
        { engine := next
          buffers := evaluations.advanced engine.settings step.buffers decision direction
            trajectories elapsed
          records := []
          result := .ok step.release } := by
  obtain ⟨⟨next, _, _, _⟩, ran, storing, rfl, rfl, advances⟩ :=
    advance_returns (ready.able total) elapsed admitted bufferFits
  obtain rfl := Evaluations.relations_advances_iff.mp advances
  exact ⟨next, storing, ran⟩

/-- **The norm at a point that is accepted** is what the point determines. -/
theorem optimalityNorm_value [Zero K] [ScalarFunctions K] {sample : Sample K}
    {trajectories : Trajectories K}
    (admitted : engine.admitPoint (ε := ε) sample trajectories = .ok ()) :
    ∃ next, engine.Storing states next ∧ engine.optimalityNorm sample trajectories = .ok
      { engine := next
        buffers := ()
        records :=
          if ScalarFunctions.isFinite (evaluations.normOf sample trajectories) then []
          else [engine.report (.notFinite sample.time)]
        result := .ok (evaluations.normOf sample trajectories) } := by
  obtain ⟨⟨next, _, _, _⟩, ran, norm, storing, rfl, rfl, measures⟩ :=
    optimalityNorm_returns (ready.able total) admitted
  obtain rfl := Evaluations.relations_measures_iff.mp measures
  exact ⟨next, storing, ran⟩

end Values

/-! ### Calls, accepted or not -/

section Calls

variable [Problem σ K ε] [One K] [Add K] [Mul K] [Neg K] {evaluations : Evaluations K}
  {states : σ → Prop} (total : Evaluates evaluations states) {engine : Engine σ K}
  (ready : engine.Ready evaluations states)
include total ready

/-- A norm leaves the engine but for its storage. -/
theorem optimalityNorm_storing [Zero K] [ScalarFunctions K] (sample : Sample K)
    (trajectories : Trajectories K) :
    Succeeds (engine.optimalityNorm sample trajectories) fun outcome =>
      engine.Storing states outcome.engine := by
  cases admitted : engine.admitPoint (ε := ε) sample trajectories with
  | error cause =>
    rw [optimalityNorm_of_error admitted]
    exact succeeds_ok ready.storing_self
  | ok _ =>
    refine (optimalityNorm_returns (ready.able total) admitted).mono ?_
    rintro outcome ⟨_, storing, _⟩
    exact storing

/-- A product leaves the engine but for its storage. -/
theorem multiply_storing [Div K] {step : Prepared K} (decision direction out : Vec K)
    (fits : step.engine = engine.id → step.buffers.Fits engine.dimensions) :
    Succeeds (engine.multiply step decision direction out) fun outcome =>
      engine.Storing states outcome.engine := by
  cases admitted : engine.admitProduct (ε := ε) step decision direction out with
  | error cause =>
    rw [multiply_of_error admitted]
    exact succeeds_ok ready.storing_self
  | ok _ =>
    have own := (admitProduct_eq_ok_iff.mp admitted).1.1
    refine (multiply_returns (ready.able total) admitted (fits own)).mono ?_
    rintro outcome ⟨storing, _⟩
    exact storing

/-- An advance leaves the engine but for its storage. -/
theorem advance_storing [Zero K] [Sub K] [Div K] {step : Prepared K} (decision direction : Vec K)
    (trajectories : Trajectories K) (elapsed : K)
    (fits : step.engine = engine.id → step.buffers.Fits engine.dimensions) :
    Succeeds (engine.advance step decision direction trajectories elapsed) fun outcome =>
      engine.Storing states outcome.engine := by
  cases admitted : engine.admitAdvance (ε := ε) step decision direction trajectories with
  | error cause =>
    rw [advance_of_error elapsed admitted]
    exact succeeds_ok ready.storing_self
  | ok _ =>
    have own := (admitAdvance_eq_ok_iff.mp admitted).1.1
    refine (advance_returns (ready.able total) elapsed admitted (fits own)).mono ?_
    rintro outcome ⟨storing, _⟩
    exact storing

/-- A preparation leaves the engine but for its storage and its sequence number. -/
theorem prepare_storing [Sub K] [Div K] {workspace : Workspace K} (sample : Sample K)
    (trajectories : Trajectories K) (prior out : Vec K)
    (fits : workspace.engine = engine.id → workspace.buffers.Fits engine.dimensions) :
    Succeeds (engine.prepare workspace sample trajectories prior out) fun outcome =>
      ∃ sequence, Storing { engine with sequence } states outcome.engine := by
  cases admitted : engine.admitPreparation (ε := ε) workspace sample trajectories prior out with
  | error cause =>
    rw [prepare_of_error admitted]
    exact succeeds_ok ⟨engine.sequence, ready.storing_self⟩
  | ok _ =>
    have own := (admitPreparation_eq_ok_iff.mp admitted).1
    refine (prepare_returns (ready.able total) admitted (fits own)).mono ?_
    rintro outcome ⟨_, storing, _⟩
    exact ⟨_, storing⟩

end Calls

end Engine

end Tracking

end RecedingHorizon
