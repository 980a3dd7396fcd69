/-
**Translation in time.**

An engine knows of time only what its problem makes of it. Delay the sample of every call, and put
in the place of the problem one that answers a delayed sample as the problem itself answers the
sample: every operation then gives the same results, but for the times that it hands on, which are
later by the delay.

* `Problem.Translates`: the problem that is put in the place of another one answers delayed samples
  and delayed resets as the other one answers them when they are not delayed;
* `Outcome.Delayed`: two outcomes are the same, but for the delay;
* `Engine.optimalityNorm_delayed`, `Engine.prepare_delayed`, `Engine.multiply_delayed`,
  `Engine.advance_delayed`, `Engine.afterReset_delayed` and `Engine.build_delayed`: so are those of
  every operation.
-/

import Mathlib.Algebra.Group.Basic
import RecedingHorizon.Tracking.ControlStep
import RecedingHorizon.Tracking.Optimality
import RecedingHorizon.Proofs.Checked

set_option linter.unusedSectionVars false

namespace RecedingHorizon

open Tracking

universe u v w

variable {σ K ε : Type u}

/-! ### What is delayed -/

section Delay

variable [Add K] (shift : K)

/-- The same sample, taken later. -/
def Sample.delay (sample : Sample K) : Sample K :=
  { sample with time := sample.time + shift }

/-- The same shape of the horizon, from a later origin on. -/
def Horizon.Settings.delay (settings : Horizon.Settings K) : Horizon.Settings K :=
  { settings with origin := settings.origin + shift }

namespace Tracking

/-- The same values, for samples that are later. -/
def Buffers.delay (buffers : Buffers K) : Buffers K :=
  { buffers with
    time := buffers.time + shift
    shiftedTime := buffers.shiftedTime + shift }

/-- The same step, prepared at a later sample. -/
def Prepared.delay (step : Prepared K) : Prepared K :=
  { step with buffers := step.buffers.delay shift }

/-- The same event, at a later time. -/
def Event.delay : Event K → Event K
  | .constructed dimensions settings => .constructed dimensions settings
  | .horizonReset horizon => .horizonReset (horizon.delay shift)
  | .originMoved origin => .originMoved (origin + shift)
  | .notFinite time => .notFinite (time + shift)
  | .prepared sequence time => .prepared sequence (time + shift)

/-- The same record, of a later event. -/
def Record.delay (record : Record K) : Record K :=
  { record with event := record.event.delay shift }

end Tracking

end Delay

/-- The workspaces differ in the times of their last step at most. -/
def Tracking.Workspace.SameStorage (workspace other : Workspace K) : Prop :=
  ∃ time shiftedTime : K,
    other = { workspace with buffers := { workspace.buffers with time, shiftedTime } }

/-! ### Problems -/

/-- **A problem is translated**: put another one in its place, and delay what it is asked about. The
dimensions stay the same, the evaluations have the same values, resets are accepted and refused for
the same reasons, and the problem that is left is again the one in the place of the other. -/
structure Problem.Translates [Problem σ K ε] [Add K] (shift : K) (move : σ → σ) : Prop where
  dimensions : ∀ problem : σ, Problem.dimensions (move problem) = Problem.dimensions problem
  predict : ∀ (problem : σ) (sample : Sample K) (elapsed : K) (out : Vec K),
    Corresponds (fun first second => second = (move first.1, first.2))
      (Problem.predict problem sample elapsed out)
      (Problem.predict (move problem) (sample.delay shift) elapsed out)
  stationarity : ∀ (problem : σ) (sample : Sample K) (trajectories : Trajectories K) (out : Vec K),
    Corresponds (fun first second => second = (move first.1, first.2))
      (Problem.stationarity problem sample trajectories out)
      (Problem.stationarity (move problem) (sample.delay shift) trajectories out)
  defects : ∀ (problem : σ) (sample : Sample K) (trajectories out : Trajectories K),
    Corresponds (fun first second => second = (move first.1, first.2))
      (Problem.defects problem sample trajectories out)
      (Problem.defects (move problem) (sample.delay shift) trajectories out)
  rebuild : ∀ (problem : σ) (sample : Sample K) (targets out : Trajectories K),
    Corresponds (fun first second => second = (move first.1, first.2))
      (Problem.rebuild problem sample targets out)
      (Problem.rebuild (move problem) (sample.delay shift) targets out)
  reset : ∀ (problem : σ) (horizon : Horizon.Settings K),
    Problem.reset (move problem) (horizon.delay shift) =
      (move (Problem.reset problem horizon).1, (Problem.reset problem horizon).2)
  moveOrigin : ∀ (problem : σ) (origin : K),
    Problem.moveOrigin (move problem) (origin + shift) =
      (move (Problem.moveOrigin problem origin).1, (Problem.moveOrigin problem origin).2)

namespace Tracking

/-- The engine over the problem that is put in the place of its own. -/
def Engine.carry (move : σ → σ) (engine : Engine σ K) : Engine σ K :=
  { engine with problem := move engine.problem }

/-- **Two outcomes are the same, but for the delay**: the one engine is over the other problem, the
storage of the caller is the same, the records are later, and both calls are refused for the same
cause, or their results are related. -/
inductive Outcome.Delayed {β : Type v} {α : Type w} [Add K] (shift : K) (move : σ → σ)
    (related : α → α → Prop) : Outcome σ K ε β α → Outcome σ K ε β α → Prop
  | refused (engine : Engine σ K) (buffers : β) (records : List (Record K))
    (cause : Refusal ε K) :
    Outcome.Delayed shift move related
      { engine, buffers, records, result := .error cause }
      { engine := engine.carry move, buffers
        records := records.map (Record.delay shift), result := .error cause }
  | done (engine : Engine σ K) (buffers : β) (records : List (Record K)) {value later : α}
    (same : related value later) :
    Outcome.Delayed shift move related
      { engine, buffers, records, result := .ok value }
      { engine := engine.carry move, buffers
        records := records.map (Record.delay shift), result := .ok later }

namespace Engine

section Operations

variable [Problem σ K ε] [AddCommGroup K] {shift : K} {move : σ → σ}
  (translates : Problem.Translates (ε := ε) shift move)

include translates

/-! ### Evaluations that operations share -/

section Evaluations

variable [One K] [Mul K]

theorem rebuildDecayed_delayed (engine : Engine σ K) (buffers : Buffers K) (decision : Vec K) :
    Corresponds (fun first second => second = (first.1.carry move, first.2))
      (engine.rebuildDecayed buffers decision)
      ((engine.carry move).rebuildDecayed (buffers.delay shift) decision) := by
  refine (corresponds_refl _).bind ?_
  rintro targets _ rfl
  refine (translates.rebuild _ _ _ _).bind ?_
  rintro ⟨problem, trajectories⟩ _ rfl
  exact .ok rfl

theorem respond_delayed (engine : Engine σ K) (buffers : Buffers K)
    (decision direction out : Vec K) :
    Corresponds (fun first second => second = (first.1.carry move, first.2))
      (engine.respond buffers decision direction out)
      ((engine.carry move).respond (buffers.delay shift) decision direction out) := by
  refine (corresponds_refl _).bind ?_
  rintro moved _ rfl
  refine (translates.rebuild _ _ _ _).bind ?_
  rintro ⟨problem, trajectories⟩ _ rfl
  refine (translates.stationarity _ _ _ _).bind ?_
  rintro ⟨problem, reached⟩ _ rfl
  refine (corresponds_refl _).bind ?_
  rintro change _ rfl
  exact .ok rfl

/-- The evaluations of a preparation overwrite the times of the storage, and hand on times that are
later by the delay. -/
theorem evaluate_delayed (engine : Engine σ K) {buffers : Buffers K} (time shiftedTime : K)
    (sample : Sample K) (trajectories : Trajectories K) :
    Corresponds (fun first second => second = (first.1.carry move, first.2.delay shift))
      (engine.evaluate buffers sample trajectories)
      ((engine.carry move).evaluate { buffers with time, shiftedTime } (sample.delay shift)
        trajectories) := by
  -- The increment is added to the delayed time, instead of the delay to the incremented one.
  have ahead : sample.time + engine.settings.increment + shift =
      sample.time + shift + engine.settings.increment := add_right_comm _ _ _
  refine (translates.predict _ _ _ _).bind ?_
  rintro ⟨problem, shiftedState⟩ _ rfl
  refine (translates.stationarity _ _ _ _).bind ?_
  rintro ⟨problem, residual⟩ _ rfl
  have shifted := translates.stationarity problem
    { time := sample.time + engine.settings.increment
      state := shiftedState
      decision := sample.decision } trajectories buffers.shiftedResidual
  unfold Sample.delay at shifted
  rw [ahead] at shifted
  refine shifted.bind ?_
  rintro ⟨problem, shiftedResidual⟩ _ rfl
  refine (translates.defects _ _ _ _).bind ?_
  rintro ⟨problem, defects⟩ _ rfl
  refine .ok ?_
  unfold Buffers.delay
  rw [ahead]
  rfl

variable [Div K]

theorem drift_delayed (engine : Engine σ K) (buffers : Buffers K) (decision out : Vec K) :
    Corresponds (fun first second => second = (first.1.carry move, first.2))
      (engine.drift buffers decision out)
      ((engine.carry move).drift (buffers.delay shift) decision out) := by
  refine (rebuildDecayed_delayed translates _ _ _).bind ?_
  rintro ⟨engine, trajectories⟩ _ rfl
  refine (translates.stationarity _ _ _ _).bind ?_
  rintro ⟨problem, probe⟩ _ rfl
  refine (corresponds_refl _).bind ?_
  rintro residual _ rfl
  refine (corresponds_refl _).bind ?_
  rintro difference _ rfl
  refine (corresponds_refl _).bind ?_
  rintro drift _ rfl
  exact .ok rfl

theorem prepareStep_delayed (engine : Engine σ K) {buffers : Buffers K} (time shiftedTime : K)
    (sample : Sample K) (trajectories : Trajectories K) (prior out : Vec K) :
    Corresponds
      (fun first second => second = (first.1.carry move, first.2.1.delay shift, first.2.2))
      (engine.prepareStep buffers sample trajectories prior out)
      ((engine.carry move).prepareStep { buffers with time, shiftedTime } (sample.delay shift)
        trajectories prior out) := by
  refine (evaluate_delayed translates _ _ _ _ _).bind ?_
  rintro ⟨engine, buffers⟩ _ rfl
  refine (drift_delayed translates _ _ _ _).bind ?_
  rintro ⟨engine, drift⟩ _ rfl
  refine (translates.defects _ _ _ _).bind ?_
  rintro ⟨problem, shiftedDefects⟩ _ rfl
  refine (respond_delayed translates _ _ _ _ _).bind ?_
  rintro ⟨engine, probe⟩ _ rfl
  refine (corresponds_refl _).bind ?_
  rintro rightHandSide _ rfl
  exact .ok rfl

omit [Div K] [One K] in
theorem squaredResidual_delayed (engine : Engine σ K) (sample : Sample K)
    (trajectories : Trajectories K) :
    Corresponds (fun first second => second = (first.1.carry move, first.2))
      (engine.squaredResidual sample trajectories)
      ((engine.carry move).squaredResidual (sample.delay shift) trajectories) := by
  refine (translates.stationarity _ _ _ _).bind ?_
  rintro ⟨problem, optimality⟩ _ rfl
  refine (translates.defects _ _ _ _).bind ?_
  rintro ⟨problem, defects⟩ _ rfl
  exact .ok rfl

/-! ### Operations -/

/-- **Norms stay the same.** -/
theorem optimalityNorm_delayed [ScalarFunctions K] (engine : Engine σ K) (sample : Sample K)
    (trajectories : Trajectories K) :
    Corresponds (Outcome.Delayed shift move Eq) (engine.optimalityNorm sample trajectories)
      ((engine.carry move).optimalityNorm (sample.delay shift) trajectories) := by
  have check : (engine.carry move).admitPoint (ε := ε) (sample.delay shift) trajectories =
      engine.admitPoint sample trajectories := rfl
  unfold optimalityNorm
  rw [check]
  cases engine.admitPoint (ε := ε) sample trajectories with
  | error cause => exact .ok (.refused _ _ _ _)
  | ok _ =>
    refine (squaredResidual_delayed translates _ _ _).bind ?_
    rintro ⟨next, squared⟩ _ rfl
    simp only
    split
    · exact .ok (.done _ _ _ rfl)
    · exact .ok (.done _ _ [_] rfl)

/-- **A preparation gives the same right-hand side**, and the same step, later. -/
theorem prepare_delayed (engine : Engine σ K) {workspace other : Workspace K}
    (storage : workspace.SameStorage other) (sample : Sample K) (trajectories : Trajectories K)
    (prior out : Vec K) :
    Corresponds (Outcome.Delayed shift move fun step later => later = step.delay shift)
      (engine.prepare workspace sample trajectories prior out)
      ((engine.carry move).prepare other (sample.delay shift) trajectories prior out) := by
  obtain ⟨time, shiftedTime, rfl⟩ := storage
  have check : (engine.carry move).admitPreparation (ε := ε)
      { workspace with buffers := { workspace.buffers with time, shiftedTime } }
      (sample.delay shift) trajectories prior out =
        engine.admitPreparation workspace sample trajectories prior out := rfl
  unfold prepare
  rw [check]
  cases engine.admitPreparation (ε := ε) workspace sample trajectories prior out with
  | error cause => exact .ok (.refused _ _ _ _)
  | ok _ =>
    refine (prepareStep_delayed translates _ _ _ _ _ _ _).bind ?_
    rintro ⟨next, step, rightHandSide⟩ _ rfl
    exact .ok (.done _ _ _ rfl)

/-- **Products stay the same.** -/
theorem multiply_delayed (engine : Engine σ K) (step : Prepared K)
    (decision direction out : Vec K) :
    Corresponds (Outcome.Delayed shift move Eq) (engine.multiply step decision direction out)
      ((engine.carry move).multiply (step.delay shift) decision direction out) := by
  have check : (engine.carry move).admitProduct (ε := ε) (step.delay shift) decision direction out =
      engine.admitProduct step decision direction out := rfl
  unfold multiply
  rw [check]
  cases engine.admitProduct (ε := ε) step decision direction out with
  | error cause => exact .ok (.refused _ _ _ _)
  | ok _ =>
    refine (respond_delayed translates _ _ _ _ _).bind ?_
    rintro ⟨next, change⟩ _ rfl
    exact .ok (.done _ _ _ rfl)

theorem advanceStep_delayed (engine : Engine σ K) (buffers : Buffers K)
    (decision direction : Vec K) (trajectories : Trajectories K) (elapsed : K) :
    Corresponds (fun first second => second = (first.1.carry move, first.2))
      (engine.advanceStep buffers decision direction trajectories elapsed)
      ((engine.carry move).advanceStep (buffers.delay shift) decision direction trajectories
        elapsed) := by
  refine (corresponds_refl _).bind ?_
  rintro moved _ rfl
  refine (rebuildDecayed_delayed translates _ _ _).bind ?_
  rintro ⟨next, target⟩ _ rfl
  refine (corresponds_refl _).bind ?_
  rintro reached _ rfl
  refine (corresponds_refl _).bind ?_
  rintro followed _ rfl
  exact .ok rfl

/-- **An advance gives the same decision and the same trajectories.** -/
theorem advance_delayed (engine : Engine σ K) (step : Prepared K) (decision direction : Vec K)
    (trajectories : Trajectories K) (elapsed : K) :
    Corresponds (Outcome.Delayed shift move Workspace.SameStorage)
      (engine.advance step decision direction trajectories elapsed)
      ((engine.carry move).advance (step.delay shift) decision direction trajectories elapsed) := by
  have check : (engine.carry move).admitAdvance (ε := ε) (step.delay shift) decision direction
      trajectories = engine.admitAdvance step decision direction trajectories := rfl
  unfold advance
  rw [check]
  cases engine.admitAdvance (ε := ε) step decision direction trajectories with
  | error cause => exact .ok (.refused _ _ _ _)
  | ok _ =>
    refine (advanceStep_delayed translates _ _ _ _ _ _).bind ?_
    rintro ⟨next, followed, reached⟩ _ rfl
    exact .ok (.done _ _ _ ⟨_, _, rfl⟩)

end Evaluations

/-! ### Resets and construction -/

/-- What a problem reports is the same. -/
theorem reportedDimensions_delayed (problem : σ) :
    reportedDimensions (ε := ε) (move problem) = reportedDimensions problem := by
  unfold reportedDimensions
  rw [translates.dimensions]

/-- **Resets are accepted and refused alike.** -/
theorem afterReset_delayed (engine : Engine σ K) (event : Event K)
    (answer : σ × Except ε Unit) :
    Outcome.Delayed shift move Eq (engine.afterReset event answer)
      ((engine.carry move).afterReset (event.delay shift) (move answer.1, answer.2)) := by
  obtain ⟨problem, accepted⟩ := answer
  cases accepted with
  | error cause => exact .refused { engine with problem } () [] _
  | ok _ =>
    let next : Engine σ K := { engine with problem, sequence := engine.sequence + 1 }
    have check : (next.carry move).checkDimensions = next.checkDimensions (ε := ε) :=
      congrArg (· >>= _) (reportedDimensions_delayed translates problem)
    show Outcome.Delayed shift move Eq
      { engine := next, buffers := (), records := [engine.report event]
        result := next.checkDimensions }
      { engine := next.carry move, buffers := ()
        records := [(engine.carry move).report (event.delay shift)]
        result := (next.carry move).checkDimensions }
    rw [check]
    cases next.checkDimensions (ε := ε) with
    | error cause => exact .refused next () [engine.report event] cause
    | ok _ => exact .done next () [engine.report event] rfl

theorem reset_delayed (engine : Engine σ K) (horizon : Horizon.Settings K) :
    Outcome.Delayed shift move Eq (engine.reset horizon)
      ((engine.carry move).reset (horizon.delay shift)) := by
  have answer := translates.reset engine.problem horizon
  unfold reset
  rw [show (engine.carry move).problem = move engine.problem from rfl, answer]
  exact afterReset_delayed translates engine (.horizonReset horizon) _

theorem moveOrigin_delayed (engine : Engine σ K) (origin : K) :
    Outcome.Delayed shift move Eq (engine.moveOrigin origin)
      ((engine.carry move).moveOrigin (origin + shift)) := by
  have answer := translates.moveOrigin engine.problem origin
  unfold moveOrigin
  rw [show (engine.carry move).problem = move engine.problem from rfl, answer]
  exact afterReset_delayed translates engine (.originMoved origin) _

/-- **Engines are built and refused alike.** -/
theorem build_delayed [LT K] [DecidableLT K] [LE K] [DecidableLE K] [ScalarFunctions K] (id : Nat)
    (problem : σ) (settings : Settings K) :
    Corresponds (fun engine later => later = engine.carry move)
      (Engine.build (ε := ε) id problem settings)
      (Engine.build (ε := ε) id (move problem) settings) := by
  unfold build
  rw [reportedDimensions_delayed translates]
  cases settings.validate with
  | error cause => exact .error _
  | ok _ =>
    cases reportedDimensions (ε := ε) problem with
    | error cause => exact .error _
    | ok dimensions => exact .ok rfl

end Operations

end Engine

end Tracking

end RecedingHorizon
