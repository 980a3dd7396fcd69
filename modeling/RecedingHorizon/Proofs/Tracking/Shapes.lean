/-
**Shapes of what an engine works with.**

An engine works in storage of its own and of its steps, all of it in the shapes of its dimensions,
and admits operands of these shapes only.

* `Scratch.Fits` and `Buffers.Fits`: the storage of an engine and of a step has the shapes of the
  dimensions;
* `Engine.admitPoint_eq_ok_iff`, `Engine.admitPreparation_eq_ok_iff`,
  `Engine.admitProduct_eq_ok_iff` and `Engine.admitAdvance_eq_ok_iff` say which operands are
  admitted;
* `Engine.Storing` relates an engine to those that differ from it in storage only.
-/

import RecedingHorizon.Proofs.Evaluations
import RecedingHorizon.Proofs.Dense.Values
import RecedingHorizon.Tracking.ControlStep
import RecedingHorizon.Tracking.Optimality

set_option linter.unusedSectionVars false

namespace RecedingHorizon

universe u

variable {σ K ε : Type u}

/-! ### Trajectories -/

namespace Trajectories

/-- The value of `scaled`. -/
def scale [Mul K] (factor : K) (trajectories : Trajectories K) : Trajectories K where
  state := trajectories.state.scale factor
  costate := trajectories.costate.scale factor

/-- The value of `blend`. -/
def blended [Zero K] [Add K] [Sub K] [Mul K] (ratio : K) (trajectories target : Trajectories K) :
    Trajectories K where
  state := Mat.blended ratio trajectories.state target.state
  costate := Mat.blended ratio trajectories.costate target.costate

variable {dimensions : Dimensions}

theorem Fits.scale [Mul K] {trajectories : Trajectories K} (fits : trajectories.Fits dimensions)
    (factor : K) : (trajectories.scale factor).Fits dimensions :=
  ⟨fits.state, fits.costate⟩

theorem scaled_of_fits [Mul K] {buffer source : Trajectories K} (factor : K)
    (room : buffer.Fits dimensions) (fits : source.Fits dimensions) :
    scaled buffer source factor = .ok (source.scale factor) := by
  unfold scaled
  rw [Mat.scaled_of_shape factor (room.state.trans fits.state.symm), ok_bind,
    Mat.scaled_of_shape factor (room.costate.trans fits.costate.symm), ok_bind]
  rfl

theorem blend_of_fits [Zero K] [Add K] [Sub K] [Mul K] (ratio : K)
    {trajectories target : Trajectories K} (fits : trajectories.Fits dimensions)
    (targetFits : target.Fits dimensions) :
    blend ratio trajectories target = .ok (blended ratio trajectories target) := by
  unfold blend
  rw [Mat.blend_of_shape ratio (fits.state.trans targetFits.state.symm), ok_bind,
    Mat.blend_of_shape ratio (fits.costate.trans targetFits.costate.symm), ok_bind]
  rfl

end Trajectories

namespace Tracking

/-! ### Storage of the right shapes -/

/-- Everything in the storage of an engine has the shape of its dimensions. -/
structure Scratch.Fits (scratch : Scratch K) (dimensions : Dimensions) : Prop where
  decision : scratch.decision.size = dimensions.decisionSize
  trajectories : scratch.trajectories.Fits dimensions
  targets : scratch.targets.Fits dimensions
  probe : scratch.probe.size = dimensions.decisionSize
  optimality : scratch.optimality.size = dimensions.decisionSize
  defects : scratch.defects.Fits dimensions

/-- Everything in the storage of a step has the shape of the dimensions. -/
structure Buffers.Fits (buffers : Buffers K) (dimensions : Dimensions) : Prop where
  shiftedState : buffers.shiftedState.size = dimensions.state
  residual : buffers.residual.size = dimensions.decisionSize
  shiftedResidual : buffers.shiftedResidual.size = dimensions.decisionSize
  defects : buffers.defects.Fits dimensions
  shiftedDefects : buffers.shiftedDefects.Fits dimensions

theorem Scratch.fits_zeros [Zero K] (dimensions : Dimensions) :
    (Scratch.zeros dimensions : Scratch K).Fits dimensions where
  decision := Vec.size_zeros _
  trajectories := Trajectories.fits_zeros _
  targets := Trajectories.fits_zeros _
  probe := Vec.size_zeros _
  optimality := Vec.size_zeros _
  defects := Trajectories.fits_zeros _

theorem Buffers.fits_zeros [Zero K] (dimensions : Dimensions) :
    (Buffers.zeros dimensions : Buffers K).Fits dimensions where
  shiftedState := Vec.size_zeros _
  residual := Vec.size_zeros _
  shiftedResidual := Vec.size_zeros _
  defects := Trajectories.fits_zeros _
  shiftedDefects := Trajectories.fits_zeros _

theorem Buffers.Fits.shifted {buffers : Buffers K} {dimensions : Dimensions}
    (fits : buffers.Fits dimensions) {decision : Vec K}
    (long : decision.size = dimensions.decisionSize) : (buffers.shifted decision).Fits dimensions :=
  ⟨fits.shiftedState, long⟩

/-- A problem reports the dimensions it has, if none is missing. -/
theorem reportedDimensions_eq_ok_iff {σ ε : Type u} [Problem σ K ε] {problem : σ}
    {dimensions : Dimensions} :
    reportedDimensions (ε := ε) problem = .ok dimensions ↔
      Problem.dimensions problem = dimensions ∧ dimensions.validate = .ok () := by
  unfold reportedDimensions
  constructor
  · intro reported
    split at reported
    · rename_i valid
      cases reported
      exact ⟨rfl, valid⟩
    · cases reported
  · rintro ⟨rfl, valid⟩
    rw [valid]

namespace Engine

/-! ### Operands that are accepted -/

theorem admitTrajectories_eq_ok_iff {engine : Engine σ K} {trajectories : Trajectories K} :
    engine.admitTrajectories (ε := ε) trajectories = .ok () ↔
      trajectories.Fits engine.dimensions := by
  unfold admitTrajectories
  rw [bind_unit_eq_ok_iff, checkShape_eq_ok_iff, checkShape_eq_ok_iff]
  exact ⟨fun given => ⟨given.1, given.2⟩, fun fits => ⟨fits.state, fits.costate⟩⟩

theorem admitPoint_eq_ok_iff {engine : Engine σ K} {sample : Sample K}
    {trajectories : Trajectories K} :
    engine.admitPoint (ε := ε) sample trajectories = .ok () ↔
      sample.Fits engine.dimensions ∧ trajectories.Fits engine.dimensions := by
  unfold admitPoint
  rw [bind_unit_eq_ok_iff, bind_unit_eq_ok_iff, checkLength_eq_ok_iff, checkLength_eq_ok_iff,
    admitTrajectories_eq_ok_iff, ← and_assoc]
  exact and_congr_left fun _ => ⟨fun given => ⟨given.1, given.2⟩,
    fun fits => ⟨fits.state, fits.decision⟩⟩

theorem admitWorkspace_eq_ok_iff {engine : Engine σ K} {workspace : Workspace K} :
    engine.admitWorkspace (ε := ε) workspace = .ok () ↔ workspace.engine = engine.id := by
  unfold admitWorkspace
  split <;> simp_all

theorem admitPreparation_eq_ok_iff {engine : Engine σ K} {workspace : Workspace K}
    {sample : Sample K} {trajectories : Trajectories K} {prior out : Vec K} :
    engine.admitPreparation (ε := ε) workspace sample trajectories prior out = .ok () ↔
      workspace.engine = engine.id ∧ (sample.Fits engine.dimensions ∧
        trajectories.Fits engine.dimensions) ∧ prior.size = engine.dimensions.decisionSize ∧
        out.size = engine.dimensions.decisionSize := by
  unfold admitPreparation
  rw [bind_unit_eq_ok_iff, bind_unit_eq_ok_iff, bind_unit_eq_ok_iff, admitWorkspace_eq_ok_iff,
    admitPoint_eq_ok_iff, checkLength_eq_ok_iff, checkLength_eq_ok_iff]

theorem admitProduct_eq_ok_iff {engine : Engine σ K} {step : Prepared K}
    {decision direction out : Vec K} :
    engine.admitProduct (ε := ε) step decision direction out = .ok () ↔
      (step.engine = engine.id ∧ step.sequence = engine.sequence) ∧
        decision.size = engine.dimensions.decisionSize ∧
        direction.size = engine.dimensions.decisionSize ∧
        out.size = engine.dimensions.decisionSize := by
  unfold admitProduct
  rw [bind_unit_eq_ok_iff, bind_unit_eq_ok_iff, bind_unit_eq_ok_iff, admitStep_eq_ok_iff,
    checkLength_eq_ok_iff, checkLength_eq_ok_iff, checkLength_eq_ok_iff]

theorem admitAdvance_eq_ok_iff {engine : Engine σ K} {step : Prepared K}
    {decision direction : Vec K} {trajectories : Trajectories K} :
    engine.admitAdvance (ε := ε) step decision direction trajectories = .ok () ↔
      (step.engine = engine.id ∧ step.sequence = engine.sequence) ∧
        decision.size = engine.dimensions.decisionSize ∧
        direction.size = engine.dimensions.decisionSize ∧
        trajectories.Fits engine.dimensions := by
  unfold admitAdvance
  rw [bind_unit_eq_ok_iff, bind_unit_eq_ok_iff, bind_unit_eq_ok_iff, admitStep_eq_ok_iff,
    checkLength_eq_ok_iff, checkLength_eq_ok_iff, admitTrajectories_eq_ok_iff]

/-! ### Engines that differ in storage -/

/-- The engines that differ from this one in the storage of the engine and of its problem only. -/
def Storing (engine : Engine σ K) (states : σ → Prop) (other : Engine σ K) : Prop :=
  ∃ (problem : σ) (scratch : Scratch K), states problem ∧ scratch.Fits engine.dimensions ∧
    other = { engine with problem, scratch }

section Storing

variable {engine other : Engine σ K} {states : σ → Prop}

theorem storing_of_fits
    (same : other = { engine with problem := other.problem, scratch := other.scratch })
    (held : states other.problem)
    (fits : other.scratch.Fits engine.dimensions) : engine.Storing states other :=
  ⟨other.problem, other.scratch, held, fits, same⟩

theorem Storing.problem (storing : engine.Storing states other) : states other.problem := by
  obtain ⟨_, _, held, _, rfl⟩ := storing
  exact held

theorem Storing.trans {last : Engine σ K} (first : engine.Storing states other)
    (second : other.Storing states last) : engine.Storing states last := by
  obtain ⟨_, _, _, _, rfl⟩ := first
  obtain ⟨problem, scratch, held, fits, rfl⟩ := second
  exact ⟨problem, scratch, held, fits, rfl⟩

end Storing

end Engine

end Tracking

end RecedingHorizon
