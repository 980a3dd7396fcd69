/-
**The operations of an engine return.**

An engine over a lawful problem returns from every call. The problem is handed arguments that fit
its dimensions, at every evaluation, so it returns each time; the vectors of the engine agree in
their lengths, so no sum faults. What is known of the values of the evaluations carries over to the
results of the operations, be they functions of their arguments or not.

* `Engine.Able`: the problem of the engine serves it, and the storage of the engine has the right
  shapes;
* `Relations.Prepares`, `Relations.Responds`, `Relations.RightHandSide` and `Relations.Advances` say
  what is known of the results;
* `Engine.prepare_returns`, `Engine.multiply_returns`, `Engine.advance_returns` and
  `Engine.optimalityNorm_returns`: operands that are admitted are operands that a call returns on.
-/

import RecedingHorizon.Proofs.Contract
import RecedingHorizon.Proofs.Tracking.Shapes

set_option linter.unusedSectionVars false

namespace RecedingHorizon

universe u

variable {σ K ε : Type u}

/-! ### What is known of the results -/

namespace Relations

open Tracking

variable [Add K] [Mul K]

/-- What is known of the residuals of a sample. -/
structure Evaluated (relations : Relations K) (settings : Settings K) (sample : Sample K)
    (trajectories : Trajectories K) (buffers : Buffers K) : Prop where
  time : buffers.time = sample.time
  shiftedTime : buffers.shiftedTime = sample.time + settings.increment
  shiftedState : relations.predict sample settings.increment buffers.shiftedState
  residual : relations.stationarity sample trajectories buffers.residual
  shiftedResidual : relations.stationarity (buffers.shifted sample.decision) trajectories
    buffers.shiftedResidual
  defects : relations.defects sample trajectories buffers.defects

/-- What is known of a prepared step. -/
structure Prepares (relations : Relations K) (settings : Settings K) (sample : Sample K)
    (trajectories : Trajectories K) (buffers : Buffers K) : Prop
    extends relations.Evaluated settings sample trajectories buffers where
  shiftedDefects : relations.defects (buffers.shifted sample.decision) trajectories
    buffers.shiftedDefects

variable [One K] [Neg K]

/-- What is known of the response to a direction. -/
def Responds (relations : Relations K) (settings : Settings K) (buffers : Buffers K)
    (decision direction value : Vec K) : Prop :=
  ∃ trajectories reached,
    let moved := buffers.shifted (Vec.moved settings.increment direction decision)
    relations.rebuild moved buffers.shiftedDefects trajectories ∧
      relations.stationarity moved trajectories reached ∧
      value = Vec.moved (-1) buffers.shiftedResidual reached

variable [Sub K]

/-- What is known of the trajectories with the decayed defects of a step. -/
def Decays (relations : Relations K) (settings : Settings K) (buffers : Buffers K)
    (decision : Vec K) (trajectories : Trajectories K) : Prop :=
  relations.rebuild (buffers.shifted decision) (buffers.defects.scale settings.decay) trajectories

variable [Div K]

/-- What is known of the right-hand side for the prior direction zero. -/
def Drifts (relations : Relations K) (settings : Settings K) (buffers : Buffers K)
    (decision value : Vec K) : Prop :=
  ∃ trajectories probe, relations.Decays settings buffers decision trajectories ∧
    relations.stationarity (buffers.shifted decision) trajectories probe ∧
    value = Vec.moved (-settings.gain) buffers.residual
      (Vec.scale (1 / settings.increment) (Vec.moved (-1) probe buffers.residual))

/-- What is known of the right-hand side for a prior direction. -/
def RightHandSide (relations : Relations K) (settings : Settings K) (buffers : Buffers K)
    (decision prior value : Vec K) : Prop :=
  ∃ drift response, relations.Drifts settings buffers decision drift ∧
    relations.Responds settings buffers decision prior response ∧
    value = Vec.moved (-1 / settings.increment) response drift

/-- What is known of the decision and the trajectories after a time `elapsed`. -/
def Advances [Zero K] (relations : Relations K) (settings : Settings K) (buffers : Buffers K)
    (decision direction : Vec K) (trajectories : Trajectories K) (elapsed : K)
    (reached : Vec K × Trajectories K) : Prop :=
  ∃ target,
    relations.Decays settings buffers (Vec.moved settings.increment direction decision) target ∧
      reached = (Vec.moved elapsed direction decision,
        Trajectories.blended (elapsed / settings.increment) trajectories target)

/-- What is known of the norm of the whole optimality residual. -/
def Measures [Zero K] [ScalarFunctions K] (relations : Relations K) (sample : Sample K)
    (trajectories : Trajectories K) (norm : K) : Prop :=
  ∃ residual defects, relations.stationarity sample trajectories residual ∧
    relations.defects sample trajectories defects ∧
    norm = ScalarFunctions.sqrt
      (Vec.normSq residual + Mat.normSq defects.state + Mat.normSq defects.costate)

end Relations

namespace Tracking.Engine

/-! ### Engines that are served -/

variable [Problem σ K ε]

/-- The problem of the engine is one of those that return values of the right shapes, and the
storage of the engine has the right shapes. -/
structure Able (engine : Engine σ K) (relations : Relations K) (states : σ → Prop) : Prop where
  serves : ∀ problem, states problem → Serves problem engine.dimensions relations states
  problem : states engine.problem
  scratch : engine.scratch.Fits engine.dimensions

variable {engine : Engine σ K} {relations : Relations K} {states : σ → Prop}

theorem Able.of_storing {other : Engine σ K} (able : engine.Able relations states)
    (storing : engine.Storing states other) : other.Able relations states := by
  obtain ⟨problem, scratch, held, fits, rfl⟩ := storing
  exact ⟨able.serves, held, fits⟩

/-! ### Parts of the operations -/

variable [One K] [Add K] [Mul K] [Neg K] (able : engine.Able relations states)
include able

theorem rebuildDecayed_returns [Sub K] {buffers : Buffers K} {decision : Vec K}
    (fits : buffers.Fits engine.dimensions)
    (long : decision.size = engine.dimensions.decisionSize) :
    Succeeds (engine.rebuildDecayed buffers decision) fun reached =>
      engine.Storing states reached.1 ∧ reached.2.Fits engine.dimensions ∧
        relations.Decays engine.settings buffers decision reached.2 := by
  have targetsFit := fits.defects.scale engine.settings.decay
  unfold rebuildDecayed
  simp only
  rw [Trajectories.scaled_of_fits _ able.scratch.targets fits.defects, ok_bind]
  refine (able.serves _ able.problem).rebuild _ _ _ (fits.shifted long) targetsFit
    able.scratch.trajectories |>.bind ?_
  rintro ⟨problem, trajectories⟩ ⟨held, rebuiltFit, rebuilt⟩
  refine succeeds_ok ⟨storing_of_fits rfl held ?_, rebuiltFit, rebuilt⟩
  exact { able.scratch with targets := targetsFit, trajectories := rebuiltFit }

theorem respond_returns {buffers : Buffers K} {decision direction out : Vec K}
    (fits : buffers.Fits engine.dimensions)
    (long : decision.size = engine.dimensions.decisionSize)
    (directionLong : direction.size = engine.dimensions.decisionSize)
    (room : out.size = engine.dimensions.decisionSize) :
    Succeeds (engine.respond buffers decision direction out) fun reached =>
      engine.Storing states reached.1 ∧ reached.2.size = engine.dimensions.decisionSize ∧
        relations.Responds engine.settings buffers decision direction reached.2 := by
  have movedLong : (Vec.moved engine.settings.increment direction decision).size =
      engine.dimensions.decisionSize := Vec.size_moved_of_size directionLong long
  have movedFits := fits.shifted movedLong
  unfold respond
  simp only
  rw [Vec.offset_of_size (able.scratch.decision.trans long.symm) (long.trans directionLong.symm),
    ok_bind]
  refine (able.serves _ able.problem).rebuild _ _ _ movedFits fits.shiftedDefects
    able.scratch.trajectories |>.bind ?_
  rintro ⟨rebuilding, trajectories⟩ ⟨heldRebuilding, rebuiltFit, rebuilt⟩
  refine (able.serves _ heldRebuilding).stationarity _ _ _ movedFits rebuiltFit room |>.bind ?_
  rintro ⟨evaluating, reached⟩ ⟨held, reachedLong, evaluated⟩
  simp only at reachedLong evaluated ⊢
  rw [Vec.axpy_of_size (reachedLong.trans fits.shiftedResidual.symm), ok_bind]
  refine succeeds_ok ⟨storing_of_fits rfl held ?_,
    Vec.size_moved_of_size fits.shiftedResidual reachedLong, _, _, rebuilt, evaluated, rfl⟩
  exact { able.scratch with decision := movedLong, trajectories := rebuiltFit }

theorem evaluate_returns {buffers : Buffers K} {sample : Sample K} {trajectories : Trajectories K}
    (bufferFits : buffers.Fits engine.dimensions) (sampleFits : sample.Fits engine.dimensions)
    (fits : trajectories.Fits engine.dimensions) :
    Succeeds (engine.evaluate buffers sample trajectories) fun reached =>
      engine.Storing states reached.1 ∧ reached.2.Fits engine.dimensions ∧
        relations.Evaluated engine.settings sample trajectories reached.2 := by
  unfold evaluate
  refine (able.serves _ able.problem).predict _ _ _ sampleFits bufferFits.shiftedState |>.bind ?_
  rintro ⟨first, shiftedState⟩ ⟨heldFirst, shiftedSize, predicted⟩
  have shiftedFits : Sample.Fits
      { time := sample.time + engine.settings.increment
        state := shiftedState
        decision := sample.decision } engine.dimensions := ⟨shiftedSize, sampleFits.decision⟩
  refine (able.serves _ heldFirst).stationarity _ _ _ sampleFits fits bufferFits.residual |>.bind ?_
  rintro ⟨second, residual⟩ ⟨heldSecond, residualLong, evaluated⟩
  refine (able.serves _ heldSecond).stationarity _ _ _ shiftedFits fits
    bufferFits.shiftedResidual |>.bind ?_
  rintro ⟨third, shiftedResidual⟩ ⟨heldThird, shiftedLong, shiftedEvaluated⟩
  refine (able.serves _ heldThird).defects _ _ _ sampleFits fits bufferFits.defects |>.bind ?_
  rintro ⟨last, defects⟩ ⟨heldLast, defectsFit, compared⟩
  exact succeeds_ok ⟨storing_of_fits rfl heldLast able.scratch,
    ⟨shiftedSize, residualLong, shiftedLong, defectsFit, bufferFits.shiftedDefects⟩,
    ⟨rfl, rfl, predicted, evaluated, shiftedEvaluated, compared⟩⟩

section Prepare

variable [Sub K] [Div K]

theorem drift_returns {buffers : Buffers K} {decision out : Vec K}
    (fits : buffers.Fits engine.dimensions)
    (long : decision.size = engine.dimensions.decisionSize)
    (room : out.size = engine.dimensions.decisionSize) :
    Succeeds (engine.drift buffers decision out) fun reached =>
      engine.Storing states reached.1 ∧ reached.2.size = engine.dimensions.decisionSize ∧
        relations.Drifts engine.settings buffers decision reached.2 := by
  unfold drift
  refine (rebuildDecayed_returns able fits long).bind ?_
  rintro ⟨_, trajectories⟩ ⟨⟨problem, scratch, held, scratchFits, rfl⟩, rebuiltFit, rebuilt⟩
  refine (able.serves _ held).stationarity _ _ _ (fits.shifted long) rebuiltFit
    scratchFits.probe |>.bind ?_
  rintro ⟨last, probe⟩ ⟨heldLast, probeLong, evaluated⟩
  have differenceLong : (Vec.moved (-1) probe buffers.residual).size =
      engine.dimensions.decisionSize := Vec.size_moved_of_size probeLong fits.residual
  have rateLong : (Vec.scale (1 / engine.settings.increment)
      (Vec.moved (-1) probe buffers.residual)).size = engine.dimensions.decisionSize := by
    rw [Vec.size_scale, differenceLong]
  simp only at probeLong evaluated ⊢
  rw [Vec.overwrite_of_size (room.trans fits.residual.symm), ok_bind,
    Vec.axpy_of_size (fits.residual.trans probeLong.symm), ok_bind,
    Vec.axpy_of_size (rateLong.trans fits.residual.symm), ok_bind]
  exact succeeds_ok ⟨storing_of_fits rfl heldLast { scratchFits with probe := probeLong },
    Vec.size_moved_of_size fits.residual rateLong, _, _, rebuilt, evaluated, rfl⟩

theorem prepareStep_returns {buffers : Buffers K} {sample : Sample K}
    {trajectories : Trajectories K} {prior out : Vec K}
    (bufferFits : buffers.Fits engine.dimensions) (sampleFits : sample.Fits engine.dimensions)
    (fits : trajectories.Fits engine.dimensions)
    (priorLong : prior.size = engine.dimensions.decisionSize)
    (room : out.size = engine.dimensions.decisionSize) :
    Succeeds (engine.prepareStep buffers sample trajectories prior out) fun reached =>
      Storing { engine with sequence := engine.sequence + 1 } states reached.1 ∧
        reached.2.1.engine = engine.id ∧ reached.2.1.sequence = engine.sequence + 1 ∧
        reached.2.1.buffers.Fits engine.dimensions ∧
        relations.Prepares engine.settings sample trajectories reached.2.1.buffers ∧
        relations.RightHandSide engine.settings reached.2.1.buffers sample.decision prior
          reached.2.2 := by
  have long : sample.decision.size = engine.dimensions.decisionSize := sampleFits.decision
  unfold prepareStep
  refine (evaluate_returns able bufferFits sampleFits fits).bind ?_
  rintro ⟨_, evaluated⟩ ⟨evaluating, evaluatedFits, known⟩
  have evaluatedAble := able.of_storing evaluating
  obtain ⟨_, _, _, _, rfl⟩ := evaluating
  refine (drift_returns evaluatedAble evaluatedFits long room).bind ?_
  rintro ⟨_, drift⟩ ⟨drifting, driftLong, drifted⟩
  obtain ⟨drifting, scratch, held, scratchFits, rfl⟩ := drifting
  -- the defects at the shifted sample, which the preparation adds last
  refine (able.serves _ held).defects _ _ _ (evaluatedFits.shifted long) fits
    evaluatedFits.shiftedDefects |>.bind ?_
  rintro ⟨comparing, shiftedDefects⟩ ⟨heldComparing, shiftedFit, compared⟩
  have preparedFits : Buffers.Fits { evaluated with shiftedDefects } engine.dimensions :=
    { evaluatedFits with shiftedDefects := shiftedFit }
  have comparingAble : Able { engine with problem := comparing, scratch } relations states :=
    ⟨able.serves, heldComparing, scratchFits⟩
  refine (respond_returns comparingAble preparedFits long priorLong scratchFits.probe).bind ?_
  rintro ⟨_, response⟩ ⟨responding, responseLong, responded⟩
  obtain ⟨last, reached, heldLast, reachedFits, rfl⟩ := responding
  simp only at driftLong responseLong ⊢
  rw [Vec.axpy_of_size (driftLong.trans responseLong.symm), ok_bind]
  exact succeeds_ok ⟨storing_of_fits rfl heldLast { reachedFits with probe := responseLong }, rfl,
    rfl, preparedFits, ⟨⟨known.time, known.shiftedTime, known.shiftedState, known.residual,
      known.shiftedResidual, known.defects⟩, compared⟩, _, _, drifted, responded, rfl⟩

/-! ### The operations -/

/-- **A preparation that is admitted returns** a step with the next sequence number. -/
theorem prepare_returns {workspace : Workspace K} {sample : Sample K}
    {trajectories : Trajectories K} {prior out : Vec K}
    (admitted : engine.admitPreparation (ε := ε) workspace sample trajectories prior out = .ok ())
    (bufferFits : workspace.buffers.Fits engine.dimensions) :
    Succeeds (engine.prepare workspace sample trajectories prior out) fun outcome =>
      ∃ step, Storing { engine with sequence := engine.sequence + 1 } states outcome.engine ∧
        outcome.records = [engine.report (.prepared (engine.sequence + 1) sample.time)] ∧
        outcome.result = .ok step ∧ step.engine = engine.id ∧
        step.sequence = engine.sequence + 1 ∧ step.buffers.Fits engine.dimensions ∧
        relations.Prepares engine.settings sample trajectories step.buffers ∧
        relations.RightHandSide engine.settings step.buffers sample.decision prior
          outcome.buffers := by
  obtain ⟨_, ⟨sampleFits, fits⟩, priorLong, room⟩ := admitPreparation_eq_ok_iff.mp admitted
  unfold prepare
  rw [admitted]
  refine (prepareStep_returns able bufferFits sampleFits fits priorLong room).bind ?_
  rintro ⟨next, step, rightHandSide⟩ ⟨storing, owner, current, stepFits, prepares, solves⟩
  refine succeeds_ok ⟨step, storing, ?_, rfl, owner, current, stepFits, prepares, solves⟩
  obtain ⟨_, _, _, _, rfl⟩ := storing
  simp only at current ⊢
  rw [current]
  rfl

end Prepare

/-- **A product that is admitted returns.** -/
theorem multiply_returns [Div K] {step : Prepared K} {decision direction out : Vec K}
    (admitted : engine.admitProduct (ε := ε) step decision direction out = .ok ())
    (bufferFits : step.buffers.Fits engine.dimensions) :
    Succeeds (engine.multiply step decision direction out) fun outcome =>
      engine.Storing states outcome.engine ∧ outcome.records = [] ∧ outcome.result = .ok () ∧
        ∃ response, relations.Responds engine.settings step.buffers decision direction response ∧
          outcome.buffers = Vec.scale (1 / engine.settings.increment) response := by
  obtain ⟨_, long, directionLong, room⟩ := admitProduct_eq_ok_iff.mp admitted
  unfold multiply
  rw [admitted]
  refine (respond_returns able bufferFits long directionLong room).bind ?_
  rintro ⟨next, response⟩ ⟨storing, _, responded⟩
  refine succeeds_ok ⟨storing, rfl, rfl, response, responded, ?_⟩
  obtain ⟨_, _, _, _, rfl⟩ := storing
  rfl

/-- **An advance that is admitted returns** the storage of its step. -/
theorem advance_returns [Zero K] [Sub K] [Div K] {step : Prepared K} {decision direction : Vec K}
    {trajectories : Trajectories K} (elapsed : K)
    (admitted : engine.admitAdvance (ε := ε) step decision direction trajectories = .ok ())
    (bufferFits : step.buffers.Fits engine.dimensions) :
    Succeeds (engine.advance step decision direction trajectories elapsed) fun outcome =>
      engine.Storing states outcome.engine ∧ outcome.records = [] ∧
        outcome.result = .ok step.release ∧
        relations.Advances engine.settings step.buffers decision direction trajectories elapsed
          outcome.buffers := by
  obtain ⟨_, long, directionLong, fits⟩ := admitAdvance_eq_ok_iff.mp admitted
  have movedLong : (Vec.moved engine.settings.increment direction decision).size =
      engine.dimensions.decisionSize := Vec.size_moved_of_size directionLong long
  have movedAble : Able { engine with
      scratch := { engine.scratch with
        decision := Vec.moved engine.settings.increment direction decision } } relations states :=
    ⟨able.serves, able.problem, { able.scratch with decision := movedLong }⟩
  unfold advance
  rw [admitted]
  simp only
  unfold advanceStep
  simp only
  rw [Vec.offset_of_size (able.scratch.decision.trans long.symm) (long.trans directionLong.symm),
    ok_bind]
  obtain ⟨⟨_, target⟩, ran, ⟨problem, scratch, held, scratchFits, rfl⟩, targetFits, decays⟩ :=
    rebuildDecayed_returns movedAble bufferFits movedLong
  rw [ran, ok_bind]
  simp only at targetFits ⊢
  rw [Trajectories.blend_of_fits _ fits targetFits, ok_bind,
    Vec.axpy_of_size (long.trans directionLong.symm), ok_bind]
  exact succeeds_ok ⟨⟨problem, scratch, held, scratchFits, rfl⟩, rfl, rfl, target, decays, rfl⟩

/-- The sum of the squares under the root. -/
theorem squaredResidual_returns [Zero K] {sample : Sample K} {trajectories : Trajectories K}
    (sampleFits : sample.Fits engine.dimensions) (fits : trajectories.Fits engine.dimensions) :
    Succeeds (engine.squaredResidual sample trajectories) fun reached =>
      engine.Storing states reached.1 ∧ ∃ residual defects,
        relations.stationarity sample trajectories residual ∧
        relations.defects sample trajectories defects ∧
        reached.2 =
          Vec.normSq residual + Mat.normSq defects.state + Mat.normSq defects.costate := by
  unfold squaredResidual
  simp only
  obtain ⟨⟨first, residual⟩, ranResidual, heldFirst, residualLong, evaluated⟩ :=
    (able.serves _ able.problem).stationarity _ _ _ sampleFits fits able.scratch.optimality
  obtain ⟨⟨last, defects⟩, ranDefects, heldLast, defectsFit, compared⟩ :=
    (able.serves _ heldFirst).defects _ _ _ sampleFits fits able.scratch.defects
  rw [ranResidual, ok_bind]
  simp only
  rw [ranDefects, ok_bind]
  refine succeeds_ok ⟨storing_of_fits rfl heldLast ?_, residual, defects, evaluated, compared, rfl⟩
  exact { able.scratch with optimality := residualLong, defects := defectsFit }

/-- **A norm at a point that is admitted returns.** -/
theorem optimalityNorm_returns [Zero K] [ScalarFunctions K] {sample : Sample K}
    {trajectories : Trajectories K}
    (admitted : engine.admitPoint (ε := ε) sample trajectories = .ok ()) :
    Succeeds (engine.optimalityNorm sample trajectories) fun outcome =>
      ∃ norm, engine.Storing states outcome.engine ∧ outcome.result = .ok norm ∧
        outcome.records = (if ScalarFunctions.isFinite norm then []
          else [engine.report (.notFinite sample.time)]) ∧
        relations.Measures sample trajectories norm := by
  obtain ⟨sampleFits, fits⟩ := admitPoint_eq_ok_iff.mp admitted
  unfold optimalityNorm
  rw [admitted]
  refine (squaredResidual_returns able sampleFits fits).bind ?_
  rintro ⟨_, squared⟩ ⟨⟨problem, scratch, held, scratchFits, rfl⟩, known⟩
  obtain ⟨residual, defects, evaluated, compared, rfl⟩ := known
  exact succeeds_ok ⟨_, ⟨problem, scratch, held, scratchFits, rfl⟩, rfl, rfl, residual, defects,
    evaluated, compared, rfl⟩

end Tracking.Engine

end RecedingHorizon
