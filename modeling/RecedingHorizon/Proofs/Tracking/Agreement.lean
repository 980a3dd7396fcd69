/-
**Engines that agree.**

Two engines over regulators agree if they differ in the content of their storage only, be it the
storage of the engine or that of its problem. What a call answers is the same for both, with any
content of the workspace and of the caller's storage, and leaves engines that agree again.

* `Engine.Working` is what every engine over a regulator keeps, and `Engine.fresh` the engine with
  zeroed storage, so that two engines agree if they are the same fresh engine;
* `Outcome.Agrees`: two calls ended in the same way;
* `Engine.optimalityNorm_agrees`, `Engine.multiply_agrees`, `Engine.advance_agrees`,
  `Engine.prepare_agrees`, `Engine.afterReset_agrees` and `Engine.build_agrees` compare two calls.
-/

import RecedingHorizon.Proofs.Tracking.Values
import RecedingHorizon.Proofs.Tracking.Frame
import RecedingHorizon.Proofs.Regulator.History

set_option linter.unusedSectionVars false

namespace RecedingHorizon

universe u v w

variable {K : Type u}

/-! ### Regulators that agree -/

namespace Regulator

variable {model other : Regulator K}

variable [Zero K]

theorem fresh_of_storing (storing : model.Storing other) : other.fresh = model.fresh := by
  obtain ⟨scratch, _, rfl⟩ := storing
  rfl

theorem storing_of_fresh (sound : other.Sound) (same : other.fresh = model.fresh) :
    model.Storing other := by
  have equal : other = { model with scratch := other.scratch } :=
    congrArg (fun reached : Regulator K => { reached with scratch := other.scratch }) same
  have states : other.fresh.state = model.fresh.state := congrArg state same
  refine ⟨other.scratch, ?_, equal⟩
  show other.scratch.Fits model.fresh.state
  rw [← states]
  exact sound.scratch

section Resets

variable [LE K] [DecidableLE K] [LT K] [DecidableLT K] [ScalarFunctions K]

/-- The model after the answer of its horizon to a reset. -/
def withAnswer (model : Regulator K) :
    Except (Horizon.Invalid K) (Horizon K) → Regulator K × Except (Horizon.Invalid K) Unit
  | .ok horizon => ({ model with horizon }, .ok ())
  | .error cause => (model, .error cause)

theorem reset_eq_withAnswer (model : Regulator K) (settings : Horizon.Settings K) :
    model.reset settings = model.withAnswer (model.horizon.reset settings) := by
  unfold reset withAnswer
  cases model.horizon.reset settings <;> rfl

theorem moveOrigin_eq_withAnswer (model : Regulator K) (origin : K) :
    model.moveOrigin origin = model.withAnswer (model.horizon.moveOrigin origin) := by
  unfold moveOrigin withAnswer
  cases model.horizon.moveOrigin origin <;> rfl

end Resets

end Regulator

namespace Tracking

/-! ### Engines at work -/

/-- The engine works on a sound regulator of its own dimensions. -/
structure Engine.Working (engine : Engine (Regulator K) K) : Prop where
  sound : engine.problem.Sound
  dimensions : engine.dimensions = engine.problem.dimensions
  valid : engine.dimensions.validate = .ok ()
  scratch : engine.scratch.Fits engine.dimensions

variable [Zero K]

/-- The engine with zeroed storage. -/
def Engine.fresh (engine : Engine (Regulator K) K) : Engine (Regulator K) K :=
  { engine with problem := engine.problem.fresh, scratch := Scratch.zeros engine.dimensions }

/-- Two calls ended in the same way, and left engines that agree. Where the calls succeeded, the
caller's storage holds the same. -/
structure Outcome.Agrees {ε : Type u} {β : Type v} {α : Type w}
    (outcome other : Outcome (Regulator K) K ε β α) : Prop where
  working : outcome.engine.Working
  otherWorking : other.engine.Working
  engine : other.engine.fresh = outcome.engine.fresh
  records : other.records = outcome.records
  result : other.result = outcome.result
  buffers : ∀ value, outcome.result = .ok value → other.buffers = outcome.buffers

namespace Engine

section Storing

variable {engine other : Engine (Regulator K) K}

theorem Working.of_storing (working : engine.Working)
    (storing : engine.Storing engine.problem.Storing other) : other.Working := by
  obtain ⟨problem, scratch, held, fits, rfl⟩ := storing
  refine ⟨working.sound.of_storing held, ?_, working.valid, fits⟩
  obtain ⟨_, _, rfl⟩ := held
  exact working.dimensions

theorem fresh_of_storing (storing : engine.Storing engine.problem.Storing other) :
    other.fresh = engine.fresh := by
  obtain ⟨problem, scratch, held, _, rfl⟩ := storing
  unfold fresh
  rw [Regulator.fresh_of_storing held]

omit [Zero K] in
theorem horizon_of_storing (storing : engine.Storing engine.problem.Storing other) :
    other.problem.horizon = engine.problem.horizon := by
  obtain ⟨_, _, ⟨_, _, rfl⟩, _, rfl⟩ := storing
  rfl

theorem storing_of_fresh (working : other.Working) (same : other.fresh = engine.fresh) :
    engine.Storing engine.problem.Storing other := by
  have equal : other = { engine with problem := other.problem, scratch := other.scratch } :=
    congrArg (fun reached : Engine (Regulator K) K =>
      { reached with problem := other.problem, scratch := other.scratch }) same
  have dimensions : other.fresh.dimensions = engine.fresh.dimensions :=
    congrArg Engine.dimensions same
  have problem : other.fresh.problem = engine.fresh.problem := congrArg Engine.problem same
  refine ⟨other.problem, other.scratch, Regulator.storing_of_fresh working.sound problem, ?_, equal⟩
  show other.scratch.Fits engine.fresh.dimensions
  rw [← dimensions]
  exact working.scratch

end Storing

/-! ### Checks -/

section Checks

variable {σ ε : Type u} {engine other : Engine σ K} {states : σ → Prop}
  (storing : engine.Storing states other)
include storing

theorem Storing.dimensions : other.dimensions = engine.dimensions := by
  obtain ⟨_, _, _, _, rfl⟩ := storing
  rfl

theorem Storing.next :
    Storing { engine with sequence := engine.sequence + 1 } states
      { other with sequence := other.sequence + 1 } := by
  obtain ⟨problem, scratch, held, fits, rfl⟩ := storing
  exact ⟨problem, scratch, held, fits, rfl⟩

theorem admitPoint_of_storing (sample : Sample K) (trajectories : Trajectories K) :
    other.admitPoint (ε := ε) sample trajectories = engine.admitPoint sample trajectories := by
  obtain ⟨_, _, _, _, rfl⟩ := storing
  rfl

theorem admitAdvance_of_storing (step : Prepared K) (decision direction : Vec K)
    (trajectories : Trajectories K) :
    other.admitAdvance (ε := ε) step decision direction trajectories =
      engine.admitAdvance step decision direction trajectories := by
  obtain ⟨_, _, _, _, rfl⟩ := storing
  rfl

/-- Of the caller's storage, the checks see the length. -/
theorem admitProduct_of_storing (step : Prepared K) (decision direction : Vec K)
    {out room : Vec K} (size : room.size = out.size) :
    other.admitProduct (ε := ε) step decision direction room =
      engine.admitProduct step decision direction out := by
  obtain ⟨_, _, _, _, rfl⟩ := storing
  unfold admitProduct checkLength
  rw [size]
  rfl

/-- Of a workspace, the checks see the owner. -/
theorem admitPreparation_of_storing {workspace storage : Workspace K}
    (owner : storage.engine = workspace.engine) (sample : Sample K)
    (trajectories : Trajectories K) (prior : Vec K) {out room : Vec K}
    (size : room.size = out.size) :
    other.admitPreparation (ε := ε) storage sample trajectories prior room =
      engine.admitPreparation workspace sample trajectories prior out := by
  obtain ⟨_, _, _, _, rfl⟩ := storing
  unfold admitPreparation admitWorkspace checkLength
  rw [size, owner]
  rfl

end Checks

/-! ### Calls -/

variable [One K] [Add K] [Mul K] [Neg K] [Sub K] [Div K] [BEq K] [NatCast K]
  [LE K] [DecidableLE K] [LT K] [DecidableLT K] [ScalarFunctions K]

theorem Working.ready {engine : Engine (Regulator K) K} (working : engine.Working) :
    engine.Ready engine.problem.evaluations engine.problem.Storing :=
  ⟨working.sound.storing_self, working.dimensions, working.scratch⟩

/-- After an accepted reset the engine works on, since the horizon has no part in the dimensions. -/
theorem Working.withHorizon {engine : Engine (Regulator K) K} (working : engine.Working)
    (horizon : Horizon K) :
    Working { engine with
      problem := { engine.problem with horizon }, sequence := engine.sequence + 1 } :=
  ⟨working.sound.withHorizon horizon, working.dimensions, working.valid, working.scratch⟩

/-- The dimensions of a regulator are those that its engine was built for. -/
theorem Working.checkDimensions {engine : Engine (Regulator K) K} (working : engine.Working) :
    engine.checkDimensions (ε := Horizon.Invalid K) = .ok () := by
  have reported : reportedDimensions (ε := Horizon.Invalid K) engine.problem =
      .ok engine.dimensions :=
    reportedDimensions_eq_ok_iff.mpr ⟨working.dimensions.symm, working.valid⟩
  unfold Engine.checkDimensions
  rw [reported, ok_bind, if_pos rfl]
  rfl

section Calls

variable {engine other : Engine (Regulator K) K} (working : engine.Working)

include working

/-- Two engines that continue the same engine, with equal answers. -/
theorem agrees_of_storing {ε : Type u} {β : Type v} {α : Type w}
    {next last : Engine (Regulator K) K}
    (storing : engine.Storing engine.problem.Storing next)
    (otherStoring : engine.Storing engine.problem.Storing last)
    (buffers : β) (records : List (Record K)) (result : Except (Refusal ε K) α) :
    Outcome.Agrees { engine := next, buffers, records, result }
      { engine := last, buffers, records, result } where
  working := working.of_storing storing
  otherWorking := working.of_storing otherStoring
  engine := (fresh_of_storing otherStoring).trans (fresh_of_storing storing).symm
  records := rfl
  result := rfl
  buffers := fun _ _ => rfl

variable (storing : engine.Storing engine.problem.Storing other)

include storing

/-- Two calls that are refused for the same cause. -/
theorem agrees_refuse {ε : Type u} {β : Type v} {α : Type w} (buffers room : β)
    (cause : Refusal ε K) :
    (engine.refuse (α := α) buffers cause).Agrees (other.refuse room cause) where
  working := working
  otherWorking := working.of_storing storing
  engine := fresh_of_storing storing
  records := rfl
  result := rfl
  buffers := nofun

/-- **Measuring** keeps both engines as they were, up to their storage. -/
theorem optimalityNorm_agrees (sample : Sample K) (trajectories : Trajectories K) :
    ∃ outcome second, engine.optimalityNorm sample trajectories = .ok outcome ∧
      other.optimalityNorm sample trajectories = .ok second ∧ outcome.Agrees second ∧
      outcome.engine.fresh = engine.fresh := by
  have total := Regulator.evaluates working.sound
  have otherReady := working.ready.of_storing storing
  have check := admitPoint_of_storing (ε := Horizon.Invalid K) storing sample trajectories
  cases admitted : engine.admitPoint (ε := Horizon.Invalid K) sample trajectories with
  | error cause =>
    refine ⟨_, _, ?_, ?_, agrees_refuse working storing () () cause, rfl⟩
    · exact optimalityNorm_of_error admitted
    · exact optimalityNorm_of_error (check.trans admitted)
  | ok _ =>
    obtain ⟨next, first, ran⟩ := optimalityNorm_value total working.ready admitted
    obtain ⟨last, second, otherRan⟩ :=
      optimalityNorm_value total otherReady (check.trans admitted)
    have both := storing.trans second
    obtain ⟨_, _, _, _, rfl⟩ := storing
    exact ⟨_, _, ran, otherRan, agrees_of_storing working first both _ _ _, fresh_of_storing first⟩

/-- **Multiplying** keeps both engines as they were, up to their storage. -/
theorem multiply_agrees {step : Prepared K}
    (fits : step.engine = engine.id → step.buffers.Fits engine.dimensions)
    (decision direction : Vec K) {out room : Vec K} (size : room.size = out.size) :
    ∃ outcome second, engine.multiply step decision direction out = .ok outcome ∧
      other.multiply step decision direction room = .ok second ∧ outcome.Agrees second ∧
      outcome.engine.fresh = engine.fresh := by
  have total := Regulator.evaluates working.sound
  have otherReady := working.ready.of_storing storing
  have check := admitProduct_of_storing (ε := Horizon.Invalid K) storing step decision direction
    size
  cases admitted : engine.admitProduct (ε := Horizon.Invalid K) step decision direction out with
  | error cause =>
    refine ⟨_, _, ?_, ?_, agrees_refuse working storing out room cause, rfl⟩
    · exact multiply_of_error admitted
    · exact multiply_of_error (check.trans admitted)
  | ok _ =>
    have bufferFits := fits (admitProduct_eq_ok_iff.mp admitted).1.1
    obtain ⟨next, first, ran⟩ := multiply_value total working.ready admitted bufferFits
    have otherFits : step.buffers.Fits other.dimensions := storing.dimensions ▸ bufferFits
    obtain ⟨last, second, otherRan⟩ :=
      multiply_value total otherReady (check.trans admitted) otherFits
    have both := storing.trans second
    obtain ⟨_, _, _, _, rfl⟩ := storing
    exact ⟨_, _, ran, otherRan, agrees_of_storing working first both _ _ _, fresh_of_storing first⟩

/-- **Advancing** keeps both engines as they were, up to their storage. Refused, it gives back what
it was given. -/
theorem advance_agrees {step : Prepared K}
    (fits : step.engine = engine.id → step.buffers.Fits engine.dimensions)
    (decision direction : Vec K) (trajectories : Trajectories K) (elapsed : K) :
    ∃ outcome second, engine.advance step decision direction trajectories elapsed = .ok outcome ∧
      other.advance step decision direction trajectories elapsed = .ok second ∧
      outcome.Agrees second ∧ outcome.engine.fresh = engine.fresh ∧
      second.buffers = outcome.buffers := by
  have total := Regulator.evaluates working.sound
  have otherReady := working.ready.of_storing storing
  have check := admitAdvance_of_storing (ε := Horizon.Invalid K) storing step decision direction
    trajectories
  cases admitted : engine.admitAdvance (ε := Horizon.Invalid K) step decision direction
      trajectories with
  | error cause =>
    refine ⟨_, _, ?_, ?_, agrees_refuse working storing (decision, trajectories)
      (decision, trajectories) cause, rfl, rfl⟩
    · exact advance_of_error elapsed admitted
    · exact advance_of_error elapsed (check.trans admitted)
  | ok _ =>
    have bufferFits := fits (admitAdvance_eq_ok_iff.mp admitted).1.1
    obtain ⟨next, first, ran⟩ := advance_value total working.ready elapsed admitted bufferFits
    have otherFits : step.buffers.Fits other.dimensions := storing.dimensions ▸ bufferFits
    obtain ⟨last, second, otherRan⟩ :=
      advance_value total otherReady elapsed (check.trans admitted) otherFits
    have both := storing.trans second
    obtain ⟨_, _, _, _, rfl⟩ := storing
    exact ⟨_, _, ran, otherRan, agrees_of_storing working first both _ _ _, fresh_of_storing first,
      rfl⟩

/-- **Preparing** in any storage of the engine gives one step and one right-hand side. -/
theorem prepare_agrees {workspace storage : Workspace K}
    (fits : workspace.engine = engine.id → workspace.buffers.Fits engine.dimensions)
    (otherFits : storage.engine = engine.id → storage.buffers.Fits engine.dimensions)
    (owner : storage.engine = workspace.engine) (sample : Sample K)
    (trajectories : Trajectories K) (prior : Vec K) {out room : Vec K}
    (size : room.size = out.size) :
    ∃ outcome second, engine.prepare workspace sample trajectories prior out = .ok outcome ∧
      other.prepare storage sample trajectories prior room = .ok second ∧
      outcome.Agrees second ∧
      ∀ step, outcome.result = .ok step → step.buffers.Fits engine.dimensions := by
  have total := Regulator.evaluates working.sound
  have otherReady := working.ready.of_storing storing
  have check := admitPreparation_of_storing (ε := Horizon.Invalid K) storing owner sample
    trajectories prior size
  cases admitted : engine.admitPreparation (ε := Horizon.Invalid K) workspace sample trajectories
      prior out with
  | error cause =>
    refine ⟨_, _, ?_, ?_, agrees_refuse working storing out room cause, nofun⟩
    · exact prepare_of_error admitted
    · exact prepare_of_error (check.trans admitted)
  | ok _ =>
    obtain ⟨own, ⟨sampleFits, trajectoriesFit⟩, _⟩ := admitPreparation_eq_ok_iff.mp admitted
    obtain ⟨next, first, ran⟩ := prepare_value total working.ready admitted (fits own)
    have room : storage.buffers.Fits other.dimensions :=
      storing.dimensions ▸ otherFits (owner.trans own)
    obtain ⟨last, second, otherRan⟩ :=
      prepare_value total otherReady (check.trans admitted) room
    -- both go on from the engine with the next sequence number
    have moved : Working { engine with sequence := engine.sequence + 1 } :=
      ⟨working.sound, working.dimensions, working.valid, working.scratch⟩
    have both := storing.next.trans second
    obtain ⟨_, _, _, _, rfl⟩ := storing
    refine ⟨_, _, ran, otherRan, agrees_of_storing moved first both _ _ _, ?_⟩
    rintro _ ⟨⟩
    exact total.fits_prepared working.dimensions engine.settings sampleFits trajectoriesFit

/-- Two resets on one answer of the horizon. Refused, they keep both engines as they were. -/
theorem afterReset_agrees (event : Event K) (answer : Except (Horizon.Invalid K) (Horizon K)) :
    (engine.afterReset event (engine.problem.withAnswer answer)).Agrees
        (other.afterReset event (other.problem.withAnswer answer)) ∧
      ((engine.afterReset event (engine.problem.withAnswer answer)).result ≠ .ok () →
        (engine.afterReset event (engine.problem.withAnswer answer)).engine.fresh =
          engine.fresh) := by
  cases answer with
  | error cause =>
    exact ⟨agrees_refuse working storing () () (.problem cause), fun _ => rfl⟩
  | ok horizon =>
    have moved := working.withHorizon horizon
    obtain ⟨_, scratch, ⟨_, held, rfl⟩, fits, rfl⟩ := storing
    refine ⟨?_, fun failed => absurd moved.checkDimensions failed⟩
    exact agrees_of_storing moved moved.ready.storing_self
      ⟨_, scratch, ⟨_, held, rfl⟩, fits, rfl⟩ () _ _

/-- **Resetting** two engines that agree. -/
theorem reset_agrees (horizon : Horizon.Settings K) :
    (engine.reset horizon).Agrees (other.reset horizon) ∧
      ((engine.reset horizon).result ≠ .ok () →
        (engine.reset horizon).engine.fresh = engine.fresh) := by
  have same := horizon_of_storing storing
  have agrees := afterReset_agrees working storing (.horizonReset horizon)
    (engine.problem.horizon.reset horizon)
  rw [← Regulator.reset_eq_withAnswer, ← same, ← Regulator.reset_eq_withAnswer] at agrees
  exact agrees

/-- **Moving the origin** of two engines that agree. -/
theorem moveOrigin_agrees (origin : K) :
    (engine.moveOrigin origin).Agrees (other.moveOrigin origin) ∧
      ((engine.moveOrigin origin).result ≠ .ok () →
        (engine.moveOrigin origin).engine.fresh = engine.fresh) := by
  have same := horizon_of_storing storing
  have agrees := afterReset_agrees working storing (.originMoved origin)
    (engine.problem.horizon.moveOrigin origin)
  rw [← Regulator.moveOrigin_eq_withAnswer, ← same, ← Regulator.moveOrigin_eq_withAnswer] at agrees
  exact agrees

end Calls

/-! ### Construction -/

/-- Two engines built over regulators that agree. -/
theorem build_agrees {problem other : Regulator K} (sound : problem.Sound)
    (storing : problem.Storing other) (id : Nat) (settings : Settings K) :
    (∃ cause, build (ε := Horizon.Invalid K) id problem settings = .error cause ∧
        build (ε := Horizon.Invalid K) id other settings = .error cause) ∨
      ∃ engine second, build (ε := Horizon.Invalid K) id problem settings = .ok engine ∧
        build (ε := Horizon.Invalid K) id other settings = .ok second ∧ engine.Working ∧
        engine.Storing engine.problem.Storing second ∧ engine.id = id := by
  have same : reportedDimensions (ε := Horizon.Invalid K) other = reportedDimensions problem := by
    obtain ⟨_, _, rfl⟩ := storing
    rfl
  unfold build
  rw [same]
  cases settings.validate with
  | error cause => exact Or.inl ⟨_, rfl, rfl⟩
  | ok _ =>
    cases reported : reportedDimensions (ε := Horizon.Invalid K) problem with
    | error cause => exact Or.inl ⟨_, rfl, rfl⟩
    | ok dimensions =>
      obtain ⟨rfl, valid⟩ := reportedDimensions_eq_ok_iff.mp reported
      exact Or.inr ⟨_, _, rfl, rfl, ⟨sound, rfl, valid, Scratch.fits_zeros _⟩,
        ⟨_, _, storing, Scratch.fits_zeros _, rfl⟩, rfl⟩

/-- An engine that is built over a sound regulator works. -/
theorem working_of_build {id : Nat} {problem : Regulator K} {settings : Settings K}
    {engine : Engine (Regulator K) K} (sound : problem.Sound)
    (built : build (ε := Horizon.Invalid K) id problem settings = .ok engine) :
    engine.Working := by
  rcases build_agrees sound sound.storing_self id settings with
    ⟨cause, refused, _⟩ | ⟨made, _, same, _, working, _⟩
  · rw [refused] at built
    cases built
  · rw [same] at built
    cases built
    exact working

end Engine

end Tracking

end RecedingHorizon
