/-
**What the operations leave alone.**

Over any problem, an operation of the engine that does not fault keeps the identity, the settings
and the dimensions of its engine. The sequence number goes up by one when a preparation succeeds or
when the problem accepts a reset, and stays where it is otherwise.

* `Engine.Continues`: the problem and the storage may have changed, and nothing else;
* `Engine.prepare_frame`, `Engine.multiply_continues`, `Engine.advance_continues`,
  `Engine.optimalityNorm_continues` and `Engine.afterReset_frame` are the frames of the operations;
* `Engine.optimalityNorm_of_error` and its like: a call whose checks fail leaves everything as it
  was;
* `Engine.refuses_of_admitStep`: a step that is not admitted is refused by both calls that take one.
-/

import RecedingHorizon.Proofs.Checked
import RecedingHorizon.Tracking.ControlStep
import RecedingHorizon.Tracking.Optimality

set_option linter.unusedSectionVars false

namespace RecedingHorizon.Tracking.Engine

universe u

variable {σ K ε : Type u}

/-- The engines that differ from this one in its problem and its storage only. -/
def Continues (engine next : Engine σ K) : Prop :=
  ∃ (problem : σ) (scratch : Scratch K), next = { engine with problem, scratch }

section Continues

variable {engine next last : Engine σ K}

theorem continues_refl (engine : Engine σ K) : engine.Continues engine :=
  ⟨engine.problem, engine.scratch, rfl⟩

theorem Continues.trans (first : engine.Continues next) (second : next.Continues last) :
    engine.Continues last := by
  obtain ⟨_, _, rfl⟩ := first
  obtain ⟨problem, scratch, rfl⟩ := second
  exact ⟨problem, scratch, rfl⟩

theorem Continues.id (continues : engine.Continues next) : next.id = engine.id := by
  obtain ⟨_, _, rfl⟩ := continues
  rfl

theorem Continues.dimensions (continues : engine.Continues next) :
    next.dimensions = engine.dimensions := by
  obtain ⟨_, _, rfl⟩ := continues
  rfl

theorem Continues.settings (continues : engine.Continues next) :
    next.settings = engine.settings := by
  obtain ⟨_, _, rfl⟩ := continues
  rfl

theorem Continues.sequence (continues : engine.Continues next) :
    next.sequence = engine.sequence := by
  obtain ⟨_, _, rfl⟩ := continues
  rfl

end Continues

/-! ### Evaluations -/

variable [Problem σ K ε] [One K] [Add K] [Mul K] [Neg K] {engine next : Engine σ K}

theorem rebuildDecayed_continues [Sub K] {buffers : Buffers K} {decision : Vec K}
    {trajectories : Trajectories K}
    (ran : engine.rebuildDecayed buffers decision = .ok (next, trajectories)) :
    engine.Continues next := by
  unfold rebuildDecayed at ran
  obtain ⟨targets, _, ran⟩ := bind_eq_ok_iff.mp ran
  obtain ⟨⟨problem, rebuilt⟩, _, ran⟩ := bind_eq_ok_iff.mp ran
  cases ran
  exact ⟨_, _, rfl⟩

theorem respond_continues {buffers : Buffers K} {decision direction out change : Vec K}
    (ran : engine.respond buffers decision direction out = .ok (next, change)) :
    engine.Continues next := by
  unfold respond at ran
  obtain ⟨moved, _, ran⟩ := bind_eq_ok_iff.mp ran
  obtain ⟨⟨rebuilding, rebuilt⟩, _, ran⟩ := bind_eq_ok_iff.mp ran
  obtain ⟨⟨evaluating, reached⟩, _, ran⟩ := bind_eq_ok_iff.mp ran
  obtain ⟨value, _, ran⟩ := bind_eq_ok_iff.mp ran
  cases ran
  exact ⟨_, _, rfl⟩

theorem evaluate_continues {buffers after : Buffers K} {sample : Sample K}
    {trajectories : Trajectories K}
    (ran : engine.evaluate buffers sample trajectories = .ok (next, after)) :
    engine.Continues next := by
  unfold evaluate at ran
  obtain ⟨⟨first, shiftedState⟩, _, ran⟩ := bind_eq_ok_iff.mp ran
  obtain ⟨⟨second, residual⟩, _, ran⟩ := bind_eq_ok_iff.mp ran
  obtain ⟨⟨third, shiftedResidual⟩, _, ran⟩ := bind_eq_ok_iff.mp ran
  obtain ⟨⟨last, defects⟩, _, ran⟩ := bind_eq_ok_iff.mp ran
  cases ran
  exact ⟨_, _, rfl⟩

section Prepare

variable [Sub K] [Div K]

theorem drift_continues {buffers : Buffers K} {decision out value : Vec K}
    (ran : engine.drift buffers decision out = .ok (next, value)) : engine.Continues next := by
  unfold drift at ran
  obtain ⟨⟨rebuilding, trajectories⟩, rebuilt, ran⟩ := bind_eq_ok_iff.mp ran
  obtain ⟨⟨problem, probe⟩, _, ran⟩ := bind_eq_ok_iff.mp ran
  obtain ⟨residual, _, ran⟩ := bind_eq_ok_iff.mp ran
  obtain ⟨difference, _, ran⟩ := bind_eq_ok_iff.mp ran
  obtain ⟨drift, _, ran⟩ := bind_eq_ok_iff.mp ran
  cases ran
  exact (rebuildDecayed_continues rebuilt).trans ⟨_, _, rfl⟩

/-- A prepared step carries the identity of its engine and the new sequence number. -/
theorem prepareStep_frame {buffers : Buffers K} {sample : Sample K} {trajectories : Trajectories K}
    {prior out rightHandSide : Vec K} {step : Prepared K}
    (ran : engine.prepareStep buffers sample trajectories prior out =
      .ok (next, step, rightHandSide)) :
    Continues { engine with sequence := engine.sequence + 1 } next ∧ step.engine = engine.id ∧
      step.sequence = engine.sequence + 1 := by
  unfold prepareStep at ran
  obtain ⟨⟨evaluating, evaluated⟩, ranEvaluate, ran⟩ := bind_eq_ok_iff.mp ran
  obtain ⟨⟨drifting, drift⟩, ranDrift, ran⟩ := bind_eq_ok_iff.mp ran
  obtain ⟨⟨problem, shiftedDefects⟩, _, ran⟩ := bind_eq_ok_iff.mp ran
  obtain ⟨⟨responding, probe⟩, ranRespond, ran⟩ := bind_eq_ok_iff.mp ran
  obtain ⟨value, _, ran⟩ := bind_eq_ok_iff.mp ran
  cases ran
  obtain ⟨_, _, rfl⟩ := evaluate_continues ranEvaluate
  obtain ⟨_, _, rfl⟩ := drift_continues ranDrift
  obtain ⟨_, _, rfl⟩ := respond_continues ranRespond
  exact ⟨⟨_, _, rfl⟩, rfl, rfl⟩

/-- **The frame of a preparation.** Refused, it leaves the engine as it was. -/
theorem prepare_frame {workspace : Workspace K} {sample : Sample K} {trajectories : Trajectories K}
    {prior out : Vec K} {outcome : Outcome σ K ε (Vec K) (Prepared K)}
    (ran : engine.prepare workspace sample trajectories prior out = .ok outcome) :
    (∃ cause, outcome.result = .error cause ∧ outcome.engine = engine) ∨
      ∃ step, outcome.result = .ok step ∧ step.engine = engine.id ∧
        step.sequence = engine.sequence + 1 ∧
        Continues { engine with sequence := engine.sequence + 1 } outcome.engine := by
  unfold prepare at ran
  split at ran
  · rename_i cause _
    cases ran
    exact Or.inl ⟨cause, rfl, rfl⟩
  · obtain ⟨⟨prepared, step, rightHandSide⟩, ranStep, ran⟩ := bind_eq_ok_iff.mp ran
    cases ran
    obtain ⟨continues, owner, current⟩ := prepareStep_frame ranStep
    exact Or.inr ⟨step, rfl, owner, current, continues⟩

end Prepare

/-! ### Calls that keep the sequence number -/

theorem multiply_continues [Div K] {step : Prepared K} {decision direction out : Vec K}
    {outcome : Outcome σ K ε (Vec K) Unit}
    (ran : engine.multiply step decision direction out = .ok outcome) :
    engine.Continues outcome.engine := by
  unfold multiply at ran
  split at ran
  · cases ran
    exact continues_refl engine
  · obtain ⟨⟨responding, change⟩, ranRespond, ran⟩ := bind_eq_ok_iff.mp ran
    cases ran
    exact respond_continues ranRespond

theorem advance_continues [Zero K] [Sub K] [Div K] {step : Prepared K}
    {decision direction : Vec K} {trajectories : Trajectories K} {elapsed : K}
    {outcome : Outcome σ K ε (Vec K × Trajectories K) (Workspace K)}
    (ran : engine.advance step decision direction trajectories elapsed = .ok outcome) :
    engine.Continues outcome.engine := by
  unfold advance at ran
  split at ran
  · cases ran
    exact continues_refl engine
  · obtain ⟨⟨advancing, followed, reached⟩, ranStep, ran⟩ := bind_eq_ok_iff.mp ran
    cases ran
    unfold advanceStep at ranStep
    obtain ⟨moved, _, ranStep⟩ := bind_eq_ok_iff.mp ranStep
    obtain ⟨⟨rebuilding, target⟩, ranRebuild, ranStep⟩ := bind_eq_ok_iff.mp ranStep
    obtain ⟨blended, _, ranStep⟩ := bind_eq_ok_iff.mp ranStep
    obtain ⟨decided, _, ranStep⟩ := bind_eq_ok_iff.mp ranStep
    cases ranStep
    obtain ⟨_, _, rfl⟩ := rebuildDecayed_continues ranRebuild
    exact ⟨_, _, rfl⟩

/-- An advance gives back the storage of its step. -/
theorem released_of_advance [Zero K] [Sub K] [Div K] {step : Prepared K}
    {decision direction : Vec K} {trajectories : Trajectories K} {elapsed : K}
    {outcome : Outcome σ K ε (Vec K × Trajectories K) (Workspace K)} {workspace : Workspace K}
    (ran : engine.advance step decision direction trajectories elapsed = .ok outcome)
    (returned : outcome.result = .ok workspace) : workspace = step.release := by
  unfold advance at ran
  split at ran
  · cases ran
    cases returned
  · obtain ⟨_, _, ran⟩ := bind_eq_ok_iff.mp ran
    cases ran
    cases returned
    rfl

theorem optimalityNorm_continues [Zero K] [ScalarFunctions K] {sample : Sample K}
    {trajectories : Trajectories K} {outcome : Outcome σ K ε Unit K}
    (ran : engine.optimalityNorm sample trajectories = .ok outcome) :
    engine.Continues outcome.engine := by
  unfold optimalityNorm at ran
  split at ran
  · cases ran
    exact continues_refl engine
  · obtain ⟨⟨measuring, squared⟩, ranSum, ran⟩ := bind_eq_ok_iff.mp ran
    cases ran
    unfold squaredResidual at ranSum
    obtain ⟨⟨first, optimality⟩, _, ranSum⟩ := bind_eq_ok_iff.mp ranSum
    obtain ⟨⟨last, defects⟩, _, ranSum⟩ := bind_eq_ok_iff.mp ranSum
    cases ranSum
    exact ⟨_, _, rfl⟩

/-! ### Resets -/

omit [One K] [Add K] [Mul K] [Neg K] in
/-- **The frame of a reset.** The sequence number goes up when the problem accepts, also if the
dimensions then turn out to have changed. -/
theorem afterReset_frame (engine : Engine σ K) (event : Event K) (answer : σ × Except ε Unit) :
    (engine.afterReset event answer).engine.id = engine.id ∧
      ((answer.2 = .ok () ∧
          (engine.afterReset event answer).engine.sequence = engine.sequence + 1) ∨
        (answer.2 ≠ .ok () ∧
          (engine.afterReset event answer).engine.sequence = engine.sequence)) := by
  obtain ⟨problem, accepted⟩ := answer
  cases accepted with
  | ok _ => exact ⟨rfl, Or.inl ⟨rfl, rfl⟩⟩
  | error cause => exact ⟨rfl, Or.inr ⟨nofun, rfl⟩⟩

omit [One K] [Add K] [Mul K] [Neg K] in
theorem afterReset_dimensions (engine : Engine σ K) (event : Event K)
    (answer : σ × Except ε Unit) :
    (engine.afterReset event answer).engine.dimensions = engine.dimensions := by
  obtain ⟨problem, accepted⟩ := answer
  cases accepted <;> rfl

omit [One K] [Add K] [Mul K] [Neg K] in
theorem afterReset_settings (engine : Engine σ K) (event : Event K)
    (answer : σ × Except ε Unit) :
    (engine.afterReset event answer).engine.settings = engine.settings := by
  obtain ⟨problem, accepted⟩ := answer
  cases accepted <;> rfl

omit [One K] [Add K] [Mul K] [Neg K] in
/-- The engine takes the problem that a reset has left, also if it was refused. -/
theorem afterReset_problem (engine : Engine σ K) (event : Event K) (answer : σ × Except ε Unit) :
    (engine.afterReset event answer).engine.problem = answer.1 := by
  obtain ⟨problem, accepted⟩ := answer
  cases accepted <;> rfl

/-! ### Construction -/

omit [One K] [Add K] [Mul K] [Neg K] in
/-- A new engine has the identity that it was given. -/
theorem id_of_build [Zero K] [LT K] [DecidableLT K] [LE K] [DecidableLE K] [ScalarFunctions K]
    {id : Nat} {problem : σ} {settings : Settings K}
    (built : build (ε := ε) id problem settings = .ok engine) : engine.id = id := by
  obtain ⟨_, _, _, rfl⟩ := build_eq_ok_iff.mp built
  rfl

/-! ### Calls that are refused -/

section Refused

variable {cause : Refusal ε K}

theorem optimalityNorm_of_error [Zero K] [ScalarFunctions K] {sample : Sample K}
    {trajectories : Trajectories K}
    (refused : engine.admitPoint sample trajectories = .error cause) :
    engine.optimalityNorm sample trajectories = .ok (engine.refuse () cause) := by
  unfold optimalityNorm
  rw [refused]

theorem prepare_of_error [Sub K] [Div K] {workspace : Workspace K} {sample : Sample K}
    {trajectories : Trajectories K} {prior out : Vec K}
    (refused : engine.admitPreparation workspace sample trajectories prior out = .error cause) :
    engine.prepare workspace sample trajectories prior out = .ok (engine.refuse out cause) := by
  unfold prepare
  rw [refused]

theorem multiply_of_error [Div K] {step : Prepared K} {decision direction out : Vec K}
    (refused : engine.admitProduct step decision direction out = .error cause) :
    engine.multiply step decision direction out = .ok (engine.refuse out cause) := by
  unfold multiply
  rw [refused]

theorem advance_of_error [Zero K] [Sub K] [Div K] {step : Prepared K}
    {decision direction : Vec K} {trajectories : Trajectories K} (elapsed : K)
    (refused : engine.admitAdvance step decision direction trajectories = .error cause) :
    engine.advance step decision direction trajectories elapsed =
      .ok (engine.refuse (decision, trajectories) cause) := by
  unfold advance
  rw [refused]

end Refused

/-- Both calls that take a step refuse it for the given cause, and leave everything as it was. -/
def Refuses [Zero K] [Sub K] [Div K] (engine : Engine σ K) (step : Prepared K)
    (cause : Refusal ε K) : Prop :=
  (∀ decision direction out : Vec K,
    engine.multiply step decision direction out = .ok (engine.refuse out cause)) ∧
  ∀ (decision direction : Vec K) (trajectories : Trajectories K) (elapsed : K),
    engine.advance step decision direction trajectories elapsed =
      .ok (engine.refuse (decision, trajectories) cause)

theorem refuses_of_admitStep [Zero K] [Sub K] [Div K] {step : Prepared K} {cause : Refusal ε K}
    (refused : engine.admitStep step = .error cause) : engine.Refuses step cause := by
  constructor
  · intro decision direction out
    refine multiply_of_error ?_
    unfold admitProduct
    rw [refused]
    rfl
  · intro decision direction trajectories elapsed
    refine advance_of_error elapsed ?_
    unfold admitAdvance
    rw [refused]
    rfl

end RecedingHorizon.Tracking.Engine
