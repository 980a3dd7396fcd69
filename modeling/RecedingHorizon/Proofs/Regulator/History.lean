/-
**A regulator without history.**

The evaluations of a regulator leave traces in its storage only, and no evaluation reads a trace: on
arguments of the right shapes each of them succeeds, with a value that its matrices, its constraint,
its horizon and the arguments determine.

* `Regulator.fresh` is the model with zeroed storage, `Regulator.evaluations` what it evaluates to;
* `evaluates`: with any content of the storage, the model evaluates to the same;
* `evaluations_predict`, `evaluations_stationarity`, `evaluations_defects` and
  `evaluations_rebuild` say what these values are;
* `functional` and `rigid`: regulators are functional problems, and no reset changes their
  dimensions.
-/

import RecedingHorizon.Proofs.Contract
import RecedingHorizon.Proofs.Regulator.Blocks

set_option linter.unusedSectionVars false

namespace RecedingHorizon.Regulator

universe u

/-- The value of an evaluation, or a replacement if it faults. -/
def valueOr {σ β : Type u} (replacement : β) : Checked (σ × β) → β
  | .ok (_, value) => value
  | .error _ => replacement

variable {K : Type u}

/-- The model with zeroed storage. -/
def fresh [Zero K] (model : Regulator K) : Regulator K :=
  { model with scratch := Scratch.zeros model.state }

/-- The models that differ from this one in the content of their storage only. -/
def Storing (model other : Regulator K) : Prop :=
  ∃ scratch : Scratch K, scratch.Fits model.state ∧ other = { model with scratch }

/-- A sound model is one of them. -/
theorem Sound.storing_self {model : Regulator K} (sound : model.Sound) : model.Storing model :=
  ⟨model.scratch, sound.scratch, rfl⟩

theorem Sound.of_storing {model other : Regulator K} (sound : model.Sound)
    (storing : model.Storing other) : other.Sound := by
  obtain ⟨scratch, fits, rfl⟩ := storing
  exact sound.withScratch fits

theorem Sound.fresh [Zero K] {model : Regulator K} (sound : model.Sound) : model.fresh.Sound :=
  sound.withScratch (Scratch.fits_zeros _)

variable [Zero K] [One K] [Add K] [Mul K] [Neg K] [Sub K] [Div K] [BEq K] [NatCast K]
  [LE K] [DecidableLE K] [LT K] [DecidableLT K] [ScalarFunctions K]

/-- What the model evaluates to with zeroed storage. -/
def evaluations (model : Regulator K) : Evaluations K where
  dimensions := model.dimensions
  predict sample elapsed :=
    valueOr #[] (model.fresh.predict sample elapsed (Vec.zeros model.state))
  stationarity sample trajectories :=
    valueOr #[] (model.fresh.stationarity sample trajectories
      (Vec.zeros model.dimensions.decisionSize))
  defects sample trajectories :=
    valueOr (Trajectories.zeros model.dimensions)
      (model.fresh.defects sample trajectories (Trajectories.zeros model.dimensions))
  rebuild sample targets :=
    valueOr (Trajectories.zeros model.dimensions)
      (model.fresh.rebuild sample targets (Trajectories.zeros model.dimensions))

/-- The content of the storage does not show in the evaluations. -/
theorem evaluations_of_storing {model other : Regulator K} (storing : model.Storing other) :
    other.evaluations = model.evaluations := by
  obtain ⟨scratch, _, rfl⟩ := storing
  rfl

section Values

variable {model : Regulator K} (sound : model.Sound)
include sound

/-- The prediction is one Euler step. -/
theorem evaluations_predict {sample : Sample K} (fits : sample.Fits model.dimensions)
    (elapsed : K) :
    model.evaluations.predict sample elapsed =
      Vec.moved elapsed (model.rateOf sample.decision 0 sample.state) sample.state := by
  obtain ⟨_, _, ran⟩ := predict_value sound.fresh fits elapsed (Vec.size_zeros _)
  exact congrArg (valueOr #[]) ran

/-- The stationarity residual consists of its blocks. -/
theorem evaluations_stationarity {sample : Sample K} {trajectories : Trajectories K}
    (sampleFits : sample.Fits model.dimensions) (fits : trajectories.Fits model.dimensions) :
    model.StationarityBlocks sample.decision trajectories.costate
      (model.evaluations.stationarity sample trajectories) := by
  obtain ⟨_, residual, _, ran, blocks⟩ :=
    stationarity_value sound.fresh sampleFits fits (Vec.size_zeros _)
  have value : model.evaluations.stationarity sample trajectories = residual :=
    congrArg (valueOr #[]) ran
  rw [value]
  exact ⟨blocks.size, blocks.block⟩

/-- The defects have the rows of the defects. -/
theorem evaluations_defects {sample : Sample K} {trajectories : Trajectories K}
    (sampleFits : sample.Fits model.dimensions) (fits : trajectories.Fits model.dimensions) :
    model.DefectRows (model.stageSpan sample.time) sample.state sample.decision trajectories
      (model.evaluations.defects sample trajectories) := by
  obtain ⟨_, defects, _, ran, rows⟩ :=
    defects_value sound.fresh sampleFits fits (Trajectories.fits_zeros _)
  have value : model.evaluations.defects sample trajectories = defects :=
    congrArg (valueOr _) ran
  rw [value]
  exact ⟨rows.fits, rows.state, rows.terminal, rows.costate⟩

/-- The rebuilt trajectories have the rows of rebuilt trajectories. -/
theorem evaluations_rebuild {sample : Sample K} {targets : Trajectories K}
    (sampleFits : sample.Fits model.dimensions) (fits : targets.Fits model.dimensions) :
    model.RebuiltRows (model.stageSpan sample.time) sample.state sample.decision targets
      (model.evaluations.rebuild sample targets) := by
  obtain ⟨_, rebuilt, _, ran, rows⟩ :=
    rebuild_value sound.fresh sampleFits fits (Trajectories.fits_zeros _)
  have value : model.evaluations.rebuild sample targets = rebuilt :=
    congrArg (valueOr _) ran
  rw [value]
  exact ⟨rows.fits, rows.state, rows.terminal, rows.costate⟩

/-- **Whatever its storage holds, the model evaluates to the same.** -/
theorem evaluates : Evaluates (σ := Regulator K) model.evaluations model.Storing where
  dimensions := by
    rintro _ ⟨scratch, _, rfl⟩
    rfl
  predict := by
    rintro _ sample elapsed out ⟨scratch, fits, rfl⟩ sampleFits room
    obtain ⟨next, nextFits, ran⟩ :=
      predict_value (sound.withScratch fits) sampleFits elapsed room
    rw [evaluations_predict sound sampleFits]
    exact ⟨_, ran, next, nextFits, rfl⟩
  size_predict := by
    intro sample elapsed sampleFits
    rw [evaluations_predict sound sampleFits]
    exact Vec.size_moved_of_size (size_rateOf sound _ _ _) sampleFits.state
  stationarity := by
    rintro _ sample trajectories out ⟨scratch, fits, rfl⟩ sampleFits trajectoriesFit room
    obtain ⟨next, residual, nextFits, ran, blocks⟩ :=
      stationarity_value (sound.withScratch fits) sampleFits trajectoriesFit room
    have same : model.evaluations.stationarity sample trajectories = residual :=
      (evaluations_stationarity sound sampleFits trajectoriesFit).unique
        ⟨blocks.size, blocks.block⟩
    rw [same]
    exact ⟨_, ran, next, nextFits, rfl⟩
  size_stationarity := by
    intro sample trajectories sampleFits trajectoriesFit
    exact (evaluations_stationarity sound sampleFits trajectoriesFit).size
  defects := by
    rintro _ sample trajectories out ⟨scratch, fits, rfl⟩ sampleFits trajectoriesFit room
    obtain ⟨next, defects, nextFits, ran, rows⟩ :=
      defects_value (sound.withScratch fits) sampleFits trajectoriesFit room
    have same : model.evaluations.defects sample trajectories = defects :=
      (evaluations_defects sound sampleFits trajectoriesFit).unique
        ⟨rows.fits, rows.state, rows.terminal, rows.costate⟩
    rw [same]
    exact ⟨_, ran, next, nextFits, rfl⟩
  fits_defects := by
    intro sample trajectories sampleFits trajectoriesFit
    exact (evaluations_defects sound sampleFits trajectoriesFit).fits
  rebuild := by
    rintro _ sample targets out ⟨scratch, fits, rfl⟩ sampleFits targetsFit room
    obtain ⟨next, rebuilt, nextFits, ran, rows⟩ :=
      rebuild_value (sound.withScratch fits) sampleFits targetsFit room
    have same : model.evaluations.rebuild sample targets = rebuilt :=
      (evaluations_rebuild sound sampleFits targetsFit).unique
        ⟨rows.fits, rows.state, rows.terminal, rows.costate⟩
    rw [same]
    exact ⟨_, ran, next, nextFits, rfl⟩
  fits_rebuild := by
    intro sample targets sampleFits targetsFit
    exact (evaluations_rebuild sound sampleFits targetsFit).fits

end Values

/-- **Sound regulators are functional problems.** -/
theorem functional : Problem.Functional (σ := Regulator K) evaluations Sound where
  dimensions _ _ := rfl
  serves model sound := by
    refine ((evaluates sound).serves sound.storing_self).mono fun other storing => ?_
    exact ⟨sound.of_storing storing, evaluations_of_storing storing⟩
  reset model settings sound := by
    show (model.reset settings).1.Sound
    unfold reset
    split
    · exact sound.withHorizon _
    · exact sound
  moveOrigin model origin sound := by
    show (model.moveOrigin origin).1.Sound
    unfold moveOrigin
    split
    · exact sound.withHorizon _
    · exact sound

/-- The horizon has no part in the dimensions. -/
theorem rigid : Problem.Rigid (σ := Regulator K) Sound where
  reset model settings _ := by
    show (model.reset settings).1.dimensions = model.dimensions
    unfold reset
    split <;> rfl
  moveOrigin model origin _ := by
    show (model.moveOrigin origin).1.dimensions = model.dimensions
    unfold moveOrigin
    split <;> rfl

end RecedingHorizon.Regulator
