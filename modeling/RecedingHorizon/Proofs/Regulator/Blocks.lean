/-
**The stationarity residual, block by block.**

The residual is one flat vector with a block per stage, which is written in place: first the
gradient, then, below it, the residual of the constraint.

* `blockOf` is the block of a stage, with the gradient above the residual of the constraint;
* `stationarity_value`: the residual consists of the blocks of all stages, whatever the storage
  held;
* `StationarityBlocks.unique`: there is one such vector only.
-/

import RecedingHorizon.Proofs.Regulator.Rows

set_option linter.unusedSectionVars false

namespace RecedingHorizon.Regulator

universe u

variable {K : Type u} [Zero K] [One K] [Add K] [Mul K]

/-! ### The block of one stage -/

/-- The inputs of a stage. -/
def inputsOf (model : Regulator K) (decision : Vec K) (stage : Nat) : Vec K :=
  decision.block (stage * model.width) model.input

/-- The multipliers of a stage. -/
def multipliersOf (model : Regulator K) (decision : Vec K) (stage : Nat) : Vec K :=
  decision.block (stage * model.width + model.input) model.multipliers

/-- The gradient `R u_i + Bᵀ λ`, without the part of the constraint. -/
def gradientOf (model : Regulator K) (decision : Vec K) (stage : Nat) (costate : Vec K) : Vec K :=
  model.inputMap.transposeTimesAdd costate
    (model.inputWeight.times (model.inputsOf decision stage))

variable [Neg K]

/-- The block of a stage: `R u_i + Bᵀ λ + Eᵀ ρ_i` above `E u_i - e`. -/
def blockOf (model : Regulator K) (decision : Vec K) (stage : Nat) (costate : Vec K) : Vec K :=
  match model.constraint with
  | some constraint =>
    constraint.matrix.transposeTimesAdd (model.multipliersOf decision stage)
      (model.gradientOf decision stage costate) ++
    constraint.matrix.timesAdd 1 (model.inputsOf decision stage) (-1) constraint.target
  | none => model.gradientOf decision stage costate

/-- **The blocks of the stationarity residual** along costates. -/
structure StationarityBlocks (model : Regulator K) (decision : Vec K) (costates : Mat K)
    (residual : Vec K) : Prop where
  size : residual.size = model.dimensions.decisionSize
  block : ∀ stage, stage < model.stages →
    residual.block (stage * model.width) model.width =
      model.blockOf decision stage (costates.rowAt stage)

section Blocks

variable {model : Regulator K}

/-- **The blocks determine the residual.** -/
theorem StationarityBlocks.unique {decision first second : Vec K} {costates : Mat K}
    (one : model.StationarityBlocks decision costates first)
    (other : model.StationarityBlocks decision costates second) : first = second := by
  refine Vec.ext_block model.stages one.size other.size fun stage below => ?_
  exact (one.block stage below).trans (other.block stage below).symm

theorem size_inputsOf {decision : Vec K} {stage : Nat}
    (long : decision.size = model.dimensions.decisionSize) (below : stage < model.stages) :
    (model.inputsOf decision stage).size = model.input := by
  have inside := inputs_le_decisionSize below
  rw [← long] at inside
  exact Vec.size_block_of_le inside

theorem size_multipliersOf {decision : Vec K} {stage : Nat}
    (long : decision.size = model.dimensions.decisionSize) (below : stage < model.stages) :
    (model.multipliersOf decision stage).size = model.multipliers := by
  have inside := block_le_decisionSize below
  rw [width_eq, ← Nat.add_assoc, ← long] at inside
  exact Vec.size_block_of_le inside

variable (sound : model.Sound)
include sound

theorem size_gradientOf (decision : Vec K) (stage : Nat) (costate : Vec K) :
    (model.gradientOf decision stage costate).size = model.input := by
  have rows : model.inputWeight.rows = model.input := congrArg Prod.fst sound.inputWeight
  unfold gradientOf
  exact Mat.size_transposeTimesAdd (by rw [Mat.size_times, rows]; rfl)

/-! ### Writing the block -/

/-- **The block of a stage is written, and no other.** -/
theorem writeBlock_value {decision out : Vec K} (costate : Vec K) {stage : Nat}
    (long : decision.size = model.dimensions.decisionSize)
    (room : out.size = model.dimensions.decisionSize) (below : stage < model.stages) :
    ∃ result, model.writeBlock decision (stage * model.width) (model.inputsOf decision stage)
        (model.gradientOf decision stage costate) out = .ok result ∧
      result.size = model.dimensions.decisionSize ∧
      result.block (stage * model.width) model.width = model.blockOf decision stage costate ∧
      ∀ other, other ≠ stage →
        result.block (other * model.width) model.width =
          out.block (other * model.width) model.width := by
  have gradientSize := size_gradientOf sound decision stage costate
  have inputsSize := size_inputsOf long below
  have multipliersSize := size_multipliersOf long below
  have inside := block_le_decisionSize below
  have wide := width_eq model
  unfold writeBlock blockOf
  cases given : model.constraint with
  | none =>
    have narrow : model.width = model.input := by
      rw [wide, multipliers_of_none given, Nat.add_zero]
    have fits : stage * model.width + (model.gradientOf decision stage costate).size ≤
        out.size := by
      rw [gradientSize, room, ← narrow]
      exact inside
    refine ⟨_, Vec.splice_of_le fits, (Vec.size_patch fits).trans room, ?_, fun other apart => ?_⟩
    · have written := Vec.block_patch_self fits
      rw [gradientSize, ← narrow] at written
      exact written
    · refine Vec.block_patch_of_disjoint fits ?_
      rw [gradientSize, ← narrow]
      exact blocks_apart model apart
  | some constraint =>
    obtain ⟨cols, target⟩ := sound.constraint constraint given
    have rows := multipliers_of_some given
    have split : model.width = model.input + constraint.matrix.rows := by rw [wide, rows]
    -- the two parts of the block, the lower one behind the upper one
    have upperSize : (constraint.matrix.transposeTimesAdd (model.multipliersOf decision stage)
        (model.gradientOf decision stage costate)).size = model.input := by
      rw [Mat.size_transposeTimesAdd (gradientSize.trans cols.symm), cols]
    have lowerSize : (constraint.matrix.timesAdd 1 (model.inputsOf decision stage) (-1)
        constraint.target).size = constraint.matrix.rows := Mat.size_timesAdd target
    generalize upperEq : constraint.matrix.transposeTimesAdd (model.multipliersOf decision stage)
      (model.gradientOf decision stage costate) = upper at upperSize
    generalize lowerEq : constraint.matrix.timesAdd 1 (model.inputsOf decision stage) (-1)
      constraint.target = lower at lowerSize
    have upperFits : stage * model.width + upper.size ≤ out.size := by omega
    have upperWritten : (out.patch (stage * model.width) upper).size =
        model.dimensions.decisionSize := (Vec.size_patch upperFits).trans room
    have lowerFits : stage * model.width + model.input + lower.size ≤
        (out.patch (stage * model.width) upper).size := by omega
    have lowerWritten := (Vec.size_patch lowerFits).trans upperWritten
    refine ⟨(out.patch (stage * model.width) upper).patch (stage * model.width + model.input) lower,
      ?_, lowerWritten, ?_, fun other apart => ?_⟩
    · simp only [constrainedBlock, inputsSize]
      rw [Vec.segment_of_le (by omega), ok_bind,
        Mat.addTransposeMulVec_of_size (by rw [Vec.size_block]; omega)
          (gradientSize.trans cols.symm), ok_bind]
      have multipliers : Vec.block decision (stage * model.width + model.input)
          constraint.matrix.rows = model.multipliersOf decision stage := by
        unfold multipliersOf
        rw [rows]
      rw [multipliers, upperEq, Vec.splice_of_le upperFits, ok_bind, Vec.segment_of_le (by omega),
        ok_bind, Vec.overwrite_of_size (by rw [Vec.size_block]; omega), ok_bind,
        Mat.addMulVec_of_size (cols.trans inputsSize.symm) target, ok_bind, lowerEq,
        Vec.splice_of_le lowerFits]
    · have upperKept : ((out.patch (stage * model.width) upper).patch
            (stage * model.width + model.input) lower).block (stage * model.width) model.input =
          (out.patch (stage * model.width) upper).block (stage * model.width) model.input :=
        Vec.block_patch_of_disjoint lowerFits (Or.inl (Nat.le_refl _))
      have upperRead := Vec.block_patch_self upperFits
      have lowerRead := Vec.block_patch_self lowerFits
      rw [upperSize] at upperRead
      rw [lowerSize] at lowerRead
      have whole : stage * model.width + model.input + constraint.matrix.rows ≤
          ((out.patch (stage * model.width) upper).patch (stage * model.width + model.input)
            lower).size := by omega
      have parts := Vec.block_append whole
      rw [← split] at parts
      rw [← parts, upperKept, upperRead, lowerRead]
      simp only [upperEq, lowerEq]
    · have beside := blocks_apart model apart
      rw [Vec.block_patch_of_disjoint lowerFits (by omega),
        Vec.block_patch_of_disjoint upperFits (by omega)]

/-- One stage of the sweep. -/
theorem stageStationarity_value {decision : Vec K} {costates : Mat K} {stage : Nat}
    (long : decision.size = model.dimensions.decisionSize)
    (shape : costates.shape = (model.stages, model.state)) (below : stage < model.stages)
    {work : Scratch K × Vec K} (fits : work.1.Fits model.state)
    (room : work.2.size = model.dimensions.decisionSize) :
    ∃ after, model.stageStationarity decision costates stage work = .ok after ∧
      after.1.Fits model.state ∧ after.2.size = model.dimensions.decisionSize ∧
      after.2.block (stage * model.width) model.width =
        model.blockOf decision stage (costates.rowAt stage) ∧
      ∀ other, other ≠ stage →
        after.2.block (other * model.width) model.width =
          work.2.block (other * model.width) model.width := by
  obtain ⟨scratch, out⟩ := work
  obtain ⟨rows, cols⟩ := Prod.mk.inj shape
  obtain ⟨weightRows, weightCols⟩ := Prod.mk.inj sound.inputWeight
  have inside : stage < costates.rows := rows.symm ▸ below
  have costateSize := (Mat.size_rowAt inside).trans cols
  have inputsInside := inputs_le_decisionSize below
  have inputsSize := size_inputsOf long below
  have blockSize : (Vec.block out (stage * model.width) model.input).size = model.input :=
    Vec.size_block_of_le (by rw [room]; exact inputsInside)
  obtain ⟨result, written, size, here, beside⟩ :=
    writeBlock_value sound (costates.rowAt stage) long room below
  refine ⟨({ scratch with costate := costates.rowAt stage }, result), ?_,
    { fits with costate := costateSize }, size, here, beside⟩
  unfold stageStationarity
  simp only
  rw [Mat.readRow_of_lt inside (fits.costate.trans cols.symm), ok_bind,
    Vec.segment_of_le (by rw [long]; exact inputsInside), ok_bind,
    Vec.segment_of_le (by rw [room]; exact inputsInside), ok_bind]
  unfold inputsOf at inputsSize
  rw [Mat.mulVec_of_size (weightCols.trans inputsSize.symm), ok_bind,
    Vec.overwrite_of_size (by rw [blockSize, Mat.size_times, weightRows]), ok_bind,
    Mat.addTransposeMulVec_of_size (sound.inputMap.trans costateSize.symm)
      (by rw [Mat.size_times, weightRows]; rfl), ok_bind]
  unfold gradientOf inputsOf at written
  rw [written, ok_bind]
  rfl

/-- **The stationarity residual, block by block.** -/
theorem stationarity_value {sample : Sample K} {trajectories : Trajectories K} {out : Vec K}
    (sampleFits : sample.Fits model.dimensions) (fits : trajectories.Fits model.dimensions)
    (room : out.size = model.dimensions.decisionSize) :
    ∃ (scratch : Scratch K) (residual : Vec K), scratch.Fits model.state ∧
      model.stationarity sample trajectories out = .ok ({ model with scratch }, residual) ∧
      model.StationarityBlocks sample.decision trajectories.costate residual := by
  obtain ⟨⟨scratch, residual⟩, ran, scratchFits, size, done⟩ := Sweep.forward_total
    (model.stageStationarity sample.decision trajectories.costate) model.stages (model.scratch, out)
    (fun stage work => work.1.Fits model.state ∧ work.2.size = model.dimensions.decisionSize ∧
      ∀ other, other < stage → work.2.block (other * model.width) model.width =
        model.blockOf sample.decision other (trajectories.costate.rowAt other))
    (fun stage below before reached => by
      obtain ⟨scratchFits, size, done⟩ := reached
      obtain ⟨after, stepped, stillFits, stillLong, here, beside⟩ :=
        stageStationarity_value sound sampleFits.decision fits.costate below scratchFits size
      refine ⟨after, stepped, stillFits, stillLong, fun other upTo => ?_⟩
      by_cases last : other = stage
      · rw [last, here]
      · rw [beside other last]
        exact done other (by omega))
    ⟨sound.scratch, room, fun other negative => absurd negative (Nat.not_lt_zero other)⟩
  refine ⟨scratch, residual, scratchFits, ?_, ⟨size, done⟩⟩
  unfold stationarity
  rw [ran, ok_bind]
  rfl

end Blocks

end RecedingHorizon.Regulator
