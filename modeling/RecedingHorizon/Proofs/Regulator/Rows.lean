/-
**The sweeps of the regulator, row by row.**

Every sweep works in place, with five vectors of storage that it fills again and again. Seen from
outside, row `i` of its result is a fixed function of a few rows of its arguments and of its result:

* `predict_value`: the prediction is `Vec.moved elapsed` of the rate of the first stage;
* `DefectRows` and `defects_value`: the rows of the defects, from those of the trajectories;
* `RebuiltRows` and `rebuild_value`: the rows of the rebuilt trajectories, from the targets and the
  rows before them. `RebuiltRows.states_agree` and `RebuiltRows.costates_agree` compare the rows of
  two such pairs, and `RebuiltRows.unique` says that there is one only.

The loops are followed stage by stage: the invariant of a loop over the states says that `start`
holds the state that the stage starts at and that the rows below the stage are done. The arithmetic
is that of the program, in the order of the program, over any scalars.
-/

import RecedingHorizon.Proofs.Regulator.Shapes

set_option linter.unusedSectionVars false

namespace RecedingHorizon.Regulator

universe u

variable {K : Type u} [Zero K] [One K] [Add K] [Mul K]

/-! ### The values of one stage -/

/-- The state that a stage starts at: the initial one, or the row before. -/
def startAt (initial : Vec K) (states : Mat K) : Nat → Vec K
  | 0 => initial
  | stage + 1 => states.rowAt stage

/-- The rate `A x + B u_i` at the state `start`. -/
def rateOf (model : Regulator K) (decision : Vec K) (stage : Nat) (start : Vec K) : Vec K :=
  model.inputMap.timesAdd 1 (decision.block (stage * model.width) model.input) 1
    (model.dynamics.times start)

/-- The rate `Q x + Aᵀ λ` at the state `finish` and the costate `ahead`. -/
def costateRateOf (model : Regulator K) (finish ahead : Vec K) : Vec K :=
  model.dynamics.transposeTimesAdd ahead (model.stateWeight.times finish)

theorem startAt_of_rowAt {initial : Vec K} {first second : Mat K} {stage : Nat}
    (same : ∀ row, row < stage → first.rowAt row = second.rowAt row) :
    startAt initial first stage = startAt initial second stage := by
  cases stage with
  | zero => rfl
  | succ stage => exact same stage (Nat.lt_succ_self stage)

theorem size_startAt {model : Regulator K} {initial : Vec K} {states : Mat K} {stage : Nat}
    (initialSize : initial.size = model.state)
    (shape : states.shape = (model.stages, model.state)) (below : stage < model.stages) :
    (startAt initial states stage).size = model.state := by
  obtain ⟨rows, cols⟩ := Prod.mk.inj shape
  cases stage with
  | zero => exact initialSize
  | succ stage =>
    have inside : stage < states.rows := by omega
    exact (Mat.size_rowAt inside).trans cols

section Sizes

variable {model : Regulator K} (sound : model.Sound)
include sound

theorem size_rateOf (decision : Vec K) (stage : Nat) (start : Vec K) :
    (model.rateOf decision stage start).size = model.state := by
  unfold rateOf
  rw [Mat.size_timesAdd (by rw [Mat.size_times, sound.inputMap]; rfl), sound.inputMap]

theorem size_costateRateOf (finish ahead : Vec K) :
    (model.costateRateOf finish ahead).size = model.state := by
  have weight : model.stateWeight.rows = model.state := congrArg Prod.fst sound.stateWeight
  unfold costateRateOf
  rw [Mat.size_transposeTimesAdd (by rw [Mat.size_times, weight, sound.dynamics]), sound.dynamics]

/-- **The rate of a stage**, whatever the storage holds. -/
theorem stateRate_value {decision : Vec K} (long : decision.size = model.dimensions.decisionSize)
    {stage : Nat} (below : stage < model.stages) {scratch : Scratch K}
    (fits : scratch.Fits model.state) :
    model.stateRate decision stage scratch =
      .ok { scratch with rate := model.rateOf decision stage scratch.start } := by
  have inside := inputs_le_decisionSize below
  rw [← long] at inside
  have inputs : model.inputMap.cols =
      (decision.block (stage * model.width) model.input).size :=
    (Vec.size_block_of_le inside).symm
  unfold stateRate
  rw [Vec.segment_of_le inside, ok_bind,
    Mat.mulVec_of_size (sound.dynamics.trans fits.start.symm), ok_bind,
    Vec.overwrite_of_size (by rw [Mat.size_times, fits.rate]; rfl), ok_bind,
    Mat.addMulVec_of_size inputs (by rw [Mat.size_times, sound.inputMap]; rfl), ok_bind]
  rfl

/-- **The rate of the costate**, whatever the storage holds. -/
theorem costateRate_value {scratch : Scratch K} (fits : scratch.Fits model.state) :
    model.costateRate scratch =
      .ok { scratch with rate := model.costateRateOf scratch.finish scratch.ahead } := by
  obtain ⟨rows, cols⟩ := Prod.mk.inj sound.stateWeight
  unfold costateRate
  rw [Mat.mulVec_of_size (cols.trans fits.finish.symm), ok_bind,
    Vec.overwrite_of_size (by rw [Mat.size_times, fits.rate, rows]), ok_bind,
    Mat.addTransposeMulVec_of_size fits.ahead.symm
      (by rw [Mat.size_times, rows, sound.dynamics]), ok_bind]
  rfl

/-! ### Prediction -/

/-- **The prediction is one Euler step.** -/
theorem predict_value {sample : Sample K} (sampleFits : sample.Fits model.dimensions) (elapsed : K)
    {out : Vec K} (room : out.size = model.state) :
    ∃ scratch : Scratch K, scratch.Fits model.state ∧
      model.predict sample elapsed out = .ok ({ model with scratch },
        Vec.moved elapsed (model.rateOf sample.decision 0 sample.state) sample.state) := by
  have long : sample.state.size = model.state := sampleFits.state
  have fits : Scratch.Fits { model.scratch with start := sample.state } model.state :=
    { sound.scratch with start := long }
  refine ⟨{ model.scratch with
    start := sample.state, rate := model.rateOf sample.decision 0 sample.state },
    { fits with rate := size_rateOf sound _ _ _ }, ?_⟩
  unfold predict
  rw [Vec.overwrite_of_size (sound.scratch.start.trans long.symm), ok_bind,
    stateRate_value sound sampleFits.decision sound.stages fits, ok_bind,
    Vec.offset_of_size (room.trans long.symm) (long.trans (size_rateOf sound _ _ _).symm), ok_bind]
  rfl

end Sizes

/-! ### Defects -/

/-- The storage fits and the result has the shape of a trajectory, in the middle of a sweep. -/
structure Working (model : Regulator K) (work : Scratch K × Mat K) : Prop where
  scratch : work.1.Fits model.state
  shape : work.2.shape = (model.stages, model.state)

variable [Neg K]

/-- The defect of the state equation on a stage that starts at `start` and reaches `reached`. -/
def stateDefectOf (model : Regulator K) (decision : Vec K) (span : K) (stage : Nat)
    (start reached : Vec K) : Vec K :=
  Vec.moved (-span) (model.rateOf decision stage start) (Vec.moved (-1) start reached)

/-- The defect of the terminal condition, at the last state and the last costate. -/
def terminalDefectOf (model : Regulator K) (finish costate : Vec K) : Vec K :=
  model.terminalWeight.timesAdd (-1) finish 1 costate

/-- The defect of the costate equation on a stage with the state `finish`, the costate `costate`
and the costate `ahead` after it. -/
def costateDefectOf (model : Regulator K) (span : K) (finish ahead costate : Vec K) : Vec K :=
  Vec.moved (-span) (model.costateRateOf finish ahead) (Vec.moved (-1) ahead costate)

/-- **The rows of the defects** of trajectories along a decision from an initial state. -/
structure DefectRows (model : Regulator K) (span : K) (initial decision : Vec K)
    (trajectories defects : Trajectories K) : Prop where
  fits : defects.Fits model.dimensions
  state : ∀ stage, stage < model.stages → defects.state.rowAt stage =
    model.stateDefectOf decision span stage (startAt initial trajectories.state stage)
      (trajectories.state.rowAt stage)
  terminal : defects.costate.rowAt (model.stages - 1) =
    model.terminalDefectOf (trajectories.state.rowAt (model.stages - 1))
      (trajectories.costate.rowAt (model.stages - 1))
  costate : ∀ stage, stage < model.stages - 1 → defects.costate.rowAt stage =
    model.costateDefectOf span (trajectories.state.rowAt stage)
      (trajectories.costate.rowAt (stage + 1)) (trajectories.costate.rowAt stage)

/-- Two pairs with the same rows are equal. -/
theorem trajectories_ext {model : Regulator K} {first second : Trajectories K}
    (firstFits : first.Fits model.dimensions) (secondFits : second.Fits model.dimensions)
    (state : ∀ stage, stage < model.stages → first.state.rowAt stage = second.state.rowAt stage)
    (costate : ∀ stage, stage < model.stages →
      first.costate.rowAt stage = second.costate.rowAt stage) : first = second := by
  obtain ⟨firstState, firstCostate⟩ := first
  obtain ⟨secondState, secondCostate⟩ := second
  have stateRows : firstState.rows = model.stages := congrArg Prod.fst firstFits.state
  have costateRows : firstCostate.rows = model.stages := congrArg Prod.fst firstFits.costate
  congr 1
  · refine Mat.ext_rowAt (firstFits.state.trans secondFits.state.symm) fun stage inside => ?_
    exact state stage (stateRows ▸ inside)
  · refine Mat.ext_rowAt (firstFits.costate.trans secondFits.costate.symm) fun stage inside => ?_
    exact costate stage (costateRows ▸ inside)

section Defects

variable {model : Regulator K} (sound : model.Sound)

theorem DefectRows.unique {span : K} {initial decision : Vec K}
    {trajectories first second : Trajectories K}
    (one : model.DefectRows span initial decision trajectories first)
    (other : model.DefectRows span initial decision trajectories second) : first = second := by
  refine trajectories_ext one.fits other.fits (fun stage below => ?_) fun stage below => ?_
  · rw [one.state stage below, other.state stage below]
  · by_cases last : stage = model.stages - 1
    · rw [last, one.terminal, other.terminal]
    · rw [one.costate stage (by omega), other.costate stage (by omega)]

include sound

theorem size_stateDefectOf (decision : Vec K) (span : K) (stage : Nat) {start reached : Vec K}
    (first : start.size = model.state) (second : reached.size = model.state) :
    (model.stateDefectOf decision span stage start reached).size = model.state :=
  Vec.size_moved_of_size (size_rateOf sound _ _ _) (Vec.size_moved_of_size first second)

theorem size_terminalDefectOf (finish : Vec K) {costate : Vec K}
    (given : costate.size = model.state) :
    (model.terminalDefectOf finish costate).size = model.state := by
  have rows : model.terminalWeight.rows = model.state := congrArg Prod.fst sound.terminalWeight
  unfold terminalDefectOf
  rw [Mat.size_timesAdd (given.trans rows.symm), rows]

theorem size_costateDefectOf (span : K) (finish : Vec K) {ahead costate : Vec K}
    (first : ahead.size = model.state) (second : costate.size = model.state) :
    (model.costateDefectOf span finish ahead costate).size = model.state :=
  Vec.size_moved_of_size (size_costateRateOf sound _ _) (Vec.size_moved_of_size first second)

/-- One stage of the sweep over the states. -/
theorem stateDefect_value {decision : Vec K} (span : K) {states : Mat K} {stage : Nat}
    (long : decision.size = model.dimensions.decisionSize)
    (shape : states.shape = (model.stages, model.state)) (below : stage < model.stages)
    {work : Scratch K × Mat K} (working : model.Working work) :
    ∃ after, model.stateDefect decision span states stage work = .ok after ∧
      model.Working after ∧ after.1.start = states.rowAt stage ∧
      after.2.rowAt stage =
        model.stateDefectOf decision span stage work.1.start (states.rowAt stage) ∧
      ∀ row, row ≠ stage → after.2.rowAt row = work.2.rowAt row := by
  obtain ⟨scratch, out⟩ := work
  obtain ⟨fits, outShape⟩ := working
  obtain ⟨rows, cols⟩ := Prod.mk.inj shape
  obtain ⟨outRows, outCols⟩ := Prod.mk.inj outShape
  have inside : stage < states.rows := rows.symm ▸ below
  have reached : (states.rowAt stage).size = model.state := (Mat.size_rowAt inside).trans cols
  have rateSize : (model.rateOf decision stage scratch.start).size = model.state :=
    size_rateOf sound _ _ _
  have changeSize : (Vec.moved (-1) scratch.start (states.rowAt stage)).size = model.state :=
    Vec.size_moved_of_size fits.start reached
  have defectSize := size_stateDefectOf sound decision span stage fits.start reached
  obtain ⟨written, stored, writtenShape, here, beside⟩ :=
    Mat.exists_writeRow (outRows.symm ▸ below) (defectSize.trans outCols.symm)
  refine ⟨({ scratch with
      rate := model.rateOf decision stage scratch.start
      finish := model.stateDefectOf decision span stage scratch.start (states.rowAt stage)
      start := states.rowAt stage }, written), ?_, ⟨?_, writtenShape.trans outShape⟩, rfl, here,
    beside⟩
  · unfold stateDefect
    simp only [stateRate_value sound long below fits, ok_bind]
    rw [Mat.readRow_of_lt inside (fits.finish.trans cols.symm), ok_bind,
      Vec.axpy_of_size (reached.trans fits.start.symm), ok_bind,
      Vec.axpy_of_size (changeSize.trans rateSize.symm), ok_bind]
    unfold stateDefectOf at stored
    rw [stored, ok_bind, Mat.readRow_of_lt inside (fits.start.trans cols.symm), ok_bind]
    rfl
  · exact { fits with rate := rateSize, finish := defectSize, start := reached }

/-- The sweep over the states: below a stage, the rows are done, and `start` holds the state that
the stage starts at. -/
theorem stateDefects_value {initial decision : Vec K} (span : K) {states : Mat K}
    (long : decision.size = model.dimensions.decisionSize)
    (shape : states.shape = (model.stages, model.state))
    (work : Scratch K × Mat K) (working : model.Working work) (begun : work.1.start = initial) :
    ∃ after, Sweep.forward (model.stateDefect decision span states) model.stages work = .ok after ∧
      model.Working after ∧
      ∀ stage, stage < model.stages → after.2.rowAt stage =
        model.stateDefectOf decision span stage (startAt initial states stage)
          (states.rowAt stage) := by
  obtain ⟨after, ran, kept, _, done⟩ := Sweep.forward_total
    (model.stateDefect decision span states) model.stages work
    (fun stage work => model.Working work ∧ work.1.start = startAt initial states stage ∧
      ∀ row, row < stage → work.2.rowAt row =
        model.stateDefectOf decision span row (startAt initial states row) (states.rowAt row))
    (fun stage below before reached => by
      obtain ⟨working, start, done⟩ := reached
      obtain ⟨after, stepped, kept, next, here, beside⟩ :=
        stateDefect_value sound span long shape below working
      refine ⟨after, stepped, kept, next, fun row upTo => ?_⟩
      by_cases last : row = stage
      · rw [last, here, start]
      · rw [beside row last]
        exact done row (by omega))
    ⟨working, begun, fun row negative => absurd negative (Nat.not_lt_zero row)⟩
  exact ⟨after, ran, kept, done⟩

/-- The terminal condition. -/
theorem terminalDefect_value {trajectories : Trajectories K}
    (fits : trajectories.Fits model.dimensions) (work : Scratch K × Mat K)
    (working : model.Working work) :
    ∃ after, model.terminalDefect trajectories work = .ok after ∧ model.Working after ∧
      after.2.rowAt (model.stages - 1) =
        model.terminalDefectOf (trajectories.state.rowAt (model.stages - 1))
          (trajectories.costate.rowAt (model.stages - 1)) := by
  obtain ⟨scratch, out⟩ := work
  obtain ⟨held, outShape⟩ := working
  obtain ⟨rows, cols⟩ := Prod.mk.inj fits.state
  obtain ⟨costateRows, costateCols⟩ := Prod.mk.inj fits.costate
  obtain ⟨outRows, outCols⟩ := Prod.mk.inj outShape
  obtain ⟨weightRows, weightCols⟩ := Prod.mk.inj sound.terminalWeight
  have below : model.stages - 1 < model.stages := Nat.sub_lt sound.stages Nat.one_pos
  have inside : model.stages - 1 < trajectories.state.rows := rows.symm ▸ below
  have costateInside : model.stages - 1 < trajectories.costate.rows := costateRows.symm ▸ below
  have finishSize := (Mat.size_rowAt inside).trans cols
  have costateSize := (Mat.size_rowAt costateInside).trans costateCols
  have defectSize := size_terminalDefectOf sound (trajectories.state.rowAt (model.stages - 1))
    costateSize
  have place : model.stages - 1 < out.rows := by
    rw [outRows]
    exact below
  obtain ⟨written, stored, writtenShape, here, _⟩ :=
    Mat.exists_writeRow place (defectSize.trans outCols.symm)
  refine ⟨({ scratch with
      finish := trajectories.state.rowAt (model.stages - 1)
      costate := model.terminalDefectOf (trajectories.state.rowAt (model.stages - 1))
        (trajectories.costate.rowAt (model.stages - 1)) }, written), ?_,
    ⟨{ held with finish := finishSize, costate := defectSize }, writtenShape.trans outShape⟩, here⟩
  unfold terminalDefect
  simp only
  rw [Mat.readRow_of_lt inside (held.finish.trans cols.symm), ok_bind,
    Mat.readRow_of_lt costateInside (held.costate.trans costateCols.symm), ok_bind,
    Mat.addMulVec_of_size (weightCols.trans finishSize.symm) (costateSize.trans weightRows.symm),
    ok_bind]
  unfold terminalDefectOf at stored
  rw [stored, ok_bind]
  rfl

/-- One stage of the sweep over the costates. -/
theorem costateDefect_value (span : K) {trajectories : Trajectories K} {stage : Nat}
    (fits : trajectories.Fits model.dimensions) (below : stage < model.stages - 1)
    {work : Scratch K × Mat K} (working : model.Working work) :
    ∃ after, model.costateDefect span trajectories stage work = .ok after ∧
      model.Working after ∧
      after.2.rowAt stage = model.costateDefectOf span (trajectories.state.rowAt stage)
        (trajectories.costate.rowAt (stage + 1)) (trajectories.costate.rowAt stage) ∧
      ∀ row, row ≠ stage → after.2.rowAt row = work.2.rowAt row := by
  obtain ⟨scratch, out⟩ := work
  obtain ⟨held, outShape⟩ := working
  obtain ⟨rows, cols⟩ := Prod.mk.inj fits.state
  obtain ⟨costateRows, costateCols⟩ := Prod.mk.inj fits.costate
  obtain ⟨outRows, outCols⟩ := Prod.mk.inj outShape
  have inside : stage < trajectories.state.rows := by
    rw [rows]
    exact Nat.lt_of_lt_pred below
  have nextInside : stage + 1 < trajectories.costate.rows := by
    rw [costateRows]
    exact Nat.add_lt_of_lt_sub below
  have finishSize := (Mat.size_rowAt inside).trans cols
  have aheadSize := (Mat.size_rowAt nextInside).trans costateCols
  have givenSize := (Mat.size_rowAt (Nat.lt_of_succ_lt nextInside)).trans costateCols
  have loaded : Scratch.Fits { scratch with
      finish := trajectories.state.rowAt stage
      ahead := trajectories.costate.rowAt (stage + 1) } model.state :=
    { held with finish := finishSize, ahead := aheadSize }
  have rateSize := size_costateRateOf sound (trajectories.state.rowAt stage)
    (trajectories.costate.rowAt (stage + 1))
  have changeSize : (Vec.moved (-1) (trajectories.costate.rowAt (stage + 1))
      (trajectories.costate.rowAt stage)).size = model.state :=
    Vec.size_moved_of_size aheadSize givenSize
  have defectSize := size_costateDefectOf sound span (trajectories.state.rowAt stage) aheadSize
    givenSize
  have place : stage < out.rows := by
    rw [outRows]
    omega
  obtain ⟨written, stored, writtenShape, here, beside⟩ :=
    Mat.exists_writeRow place (defectSize.trans outCols.symm)
  refine ⟨({ scratch with
      rate := model.costateRateOf (trajectories.state.rowAt stage)
        (trajectories.costate.rowAt (stage + 1))
      finish := trajectories.state.rowAt stage
      ahead := trajectories.costate.rowAt (stage + 1)
      costate := model.costateDefectOf span (trajectories.state.rowAt stage)
        (trajectories.costate.rowAt (stage + 1)) (trajectories.costate.rowAt stage) }, written), ?_,
    ⟨{ loaded with rate := rateSize, costate := defectSize }, writtenShape.trans outShape⟩, here,
    beside⟩
  unfold costateDefect
  simp only
  rw [Mat.readRow_of_lt inside (held.finish.trans cols.symm), ok_bind,
    Mat.readRow_of_lt nextInside (held.ahead.trans costateCols.symm), ok_bind,
    costateRate_value sound loaded, ok_bind,
    Mat.readRow_of_lt (Nat.lt_of_succ_lt nextInside) (held.costate.trans costateCols.symm), ok_bind,
    Vec.axpy_of_size (givenSize.trans aheadSize.symm), ok_bind,
    Vec.axpy_of_size (changeSize.trans rateSize.symm), ok_bind]
  unfold costateDefectOf at stored
  rw [stored, ok_bind]
  rfl

/-- **The defects, row by row.** -/
theorem defects_value [Sub K] [Div K] [BEq K] [NatCast K] [LE K] [DecidableLE K]
    [ScalarFunctions K] {sample : Sample K} {trajectories out : Trajectories K}
    (sampleFits : sample.Fits model.dimensions) (fits : trajectories.Fits model.dimensions)
    (room : out.Fits model.dimensions) :
    ∃ (scratch : Scratch K) (defects : Trajectories K), scratch.Fits model.state ∧
      model.defects sample trajectories out = .ok ({ model with scratch }, defects) ∧
      model.DefectRows (model.stageSpan sample.time) sample.state sample.decision trajectories
        defects := by
  have long : sample.state.size = model.state := sampleFits.state
  obtain ⟨⟨first, state⟩, ranStates, stateWorking, stateRows⟩ :=
    stateDefects_value sound (model.stageSpan sample.time) sampleFits.decision fits.state
      ({ model.scratch with start := sample.state }, out.state)
      ⟨{ sound.scratch with start := long }, room.state⟩ rfl
  obtain ⟨⟨second, terminal⟩, ranTerminal, working, terminalRow⟩ :=
    terminalDefect_value sound fits (first, out.costate)
      ⟨stateWorking.scratch, room.costate⟩
  -- the rows from the terminal one on are done, and so is every row the sweep has come down to
  obtain ⟨⟨last, costate⟩, ranCostates, lastWorking, kept, done⟩ := Sweep.backward_total
    (model.costateDefect (model.stageSpan sample.time) trajectories) (model.stages - 1)
    (second, terminal)
    (fun stage work => model.Working work ∧
      work.2.rowAt (model.stages - 1) = terminal.rowAt (model.stages - 1) ∧
      ∀ row, stage ≤ row → row < model.stages - 1 → work.2.rowAt row =
        model.costateDefectOf (model.stageSpan sample.time) (trajectories.state.rowAt row)
          (trajectories.costate.rowAt (row + 1)) (trajectories.costate.rowAt row))
    (fun stage below before reached => by
      obtain ⟨working, kept, done⟩ := reached
      obtain ⟨after, stepped, stillWorking, here, beside⟩ :=
        costateDefect_value sound (model.stageSpan sample.time) fits below working
      refine ⟨after, stepped, stillWorking, ?_, fun row from_ upTo => ?_⟩
      · rw [beside _ (Nat.ne_of_gt below), kept]
      · by_cases same : row = stage
        · rw [same, here]
        · rw [beside row same]
          exact done row (by omega) upTo)
    ⟨working, rfl, fun row from_ upTo => absurd upTo (Nat.not_lt.mpr from_)⟩
  refine ⟨last, ⟨state, costate⟩, lastWorking.scratch, ?_, ?_⟩
  · unfold Regulator.defects
    simp only [Vec.overwrite_of_size (sound.scratch.start.trans long.symm), ok_bind, ranStates,
      ranTerminal, ranCostates]
    rfl
  · exact
      { fits := ⟨stateWorking.shape, lastWorking.shape⟩
        state := stateRows
        terminal := kept.trans terminalRow
        costate := fun stage below => done stage (Nat.zero_le stage) below }

end Defects

/-! ### Rebuilding -/

/-- The state that a stage from `start` reaches with the defect `target`. -/
def rebuiltStateOf (model : Regulator K) (decision : Vec K) (span : K) (stage : Nat)
    (start target : Vec K) : Vec K :=
  Vec.moved span (model.rateOf decision stage start) (Vec.moved 1 start target)

/-- The last costate, at the last state, with the terminal defect `target`. -/
def rebuiltTerminalOf (model : Regulator K) (finish target : Vec K) : Vec K :=
  model.terminalWeight.timesAdd 1 finish 1 target

/-- The costate of a stage with the state `finish`, the costate `ahead` after it and the defect
`target`. -/
def rebuiltCostateOf (model : Regulator K) (span : K) (finish ahead target : Vec K) : Vec K :=
  Vec.moved span (model.costateRateOf finish ahead) (Vec.moved 1 ahead target)

/-- **The rows of trajectories rebuilt** from targets along a decision from an initial state. -/
structure RebuiltRows (model : Regulator K) (span : K) (initial decision : Vec K)
    (targets rebuilt : Trajectories K) : Prop where
  fits : rebuilt.Fits model.dimensions
  state : ∀ stage, stage < model.stages → rebuilt.state.rowAt stage =
    model.rebuiltStateOf decision span stage (startAt initial rebuilt.state stage)
      (targets.state.rowAt stage)
  terminal : rebuilt.costate.rowAt (model.stages - 1) =
    model.rebuiltTerminalOf (rebuilt.state.rowAt (model.stages - 1))
      (targets.costate.rowAt (model.stages - 1))
  costate : ∀ stage, stage < model.stages - 1 → rebuilt.costate.rowAt stage =
    model.rebuiltCostateOf span (rebuilt.state.rowAt stage) (rebuilt.costate.rowAt (stage + 1))
      (targets.costate.rowAt stage)

section Rebuild

variable {model : Regulator K} (sound : model.Sound)

/-- **Stages that start alike, run at the same rates and have the same targets end alike.** The
stages of `rest` are compared with those of `model` from `first` on. -/
theorem RebuiltRows.states_agree {rest : Regulator K} {span : K}
    {initial start decision controls : Vec K} {targets rebuilt goals reached : Trajectories K}
    (first count : Nat) (whole : model.RebuiltRows span initial decision targets rebuilt)
    (part : rest.RebuiltRows span start controls goals reached)
    (inside : count + first ≤ model.stages) (short : count ≤ rest.stages)
    (begun : start = startAt initial rebuilt.state first)
    (rate : ∀ row, row < count → ∀ state,
      rest.rateOf controls row state = model.rateOf decision (row + first) state)
    (goal : ∀ row, row < count → goals.state.rowAt row = targets.state.rowAt (row + first)) :
    ∀ row, row < count → reached.state.rowAt row = rebuilt.state.rowAt (row + first) := by
  have ends : ∀ row, row < count →
      startAt start reached.state row = startAt initial rebuilt.state (row + first) →
      reached.state.rowAt row = rebuilt.state.rowAt (row + first) := by
    intro row below starts
    rw [part.state row (by omega), whole.state (row + first) (by omega), starts, goal row below]
    unfold rebuiltStateOf
    rw [rate row below]
  -- by induction on the stage, which starts where the one before it ended
  intro row
  induction row with
  | zero =>
    intro below
    refine ends 0 below ?_
    rw [Nat.zero_add]
    exact begun
  | succ row hypothesis =>
    intro below
    refine ends (row + 1) below ?_
    rw [Nat.add_right_comm]
    exact hypothesis (by omega)

/-- **Stages with the same states and the same targets have the same costates**, from any stage on.
The stages of `rest` are compared with the last ones of `model`. -/
theorem RebuiltRows.costates_agree {rest : Regulator K} {span : K}
    {initial start decision controls : Vec K} {targets rebuilt goals reached : Trajectories K}
    (first least : Nat) (whole : model.RebuiltRows span initial decision targets rebuilt)
    (part : rest.RebuiltRows span start controls goals reached)
    (matrices : rest.toMatrices = model.toMatrices) (stages : rest.stages + first = model.stages)
    (state : ∀ row, least ≤ row → row < rest.stages →
      reached.state.rowAt row = rebuilt.state.rowAt (row + first))
    (goal : ∀ row, least ≤ row → row < rest.stages →
      goals.costate.rowAt row = targets.costate.rowAt (row + first)) :
    ∀ row, least ≤ row → row < rest.stages →
      reached.costate.rowAt row = rebuilt.costate.rowAt (row + first) := by
  -- by induction on the distance from the last stage
  have ends : ∀ distance row, row + distance + 1 = rest.stages → least ≤ row →
      reached.costate.rowAt row = rebuilt.costate.rowAt (row + first) := by
    intro distance
    induction distance with
    | zero =>
      intro row place from_
      have last : row = rest.stages - 1 := by omega
      have wholeLast : row + first = model.stages - 1 := by omega
      have terminal := whole.terminal
      rw [← wholeLast, ← goal row from_ (by omega), ← state row from_ (by omega)] at terminal
      rw [terminal, last, part.terminal]
      unfold rebuiltTerminalOf
      rw [matrices]
    | succ distance hypothesis =>
      intro row place from_
      rw [part.costate row (by omega), whole.costate (row + first) (by omega),
        hypothesis (row + 1) (by omega) (by omega), state row from_ (by omega),
        goal row from_ (by omega), Nat.add_right_comm row 1 first]
      unfold rebuiltCostateOf costateRateOf
      rw [matrices]
  intro row from_ below
  exact ends (rest.stages - 1 - row) row (by omega) from_

/-- **The rows determine the trajectories**: the states from the first stage on, and with them the
costates from the last stage back. -/
theorem RebuiltRows.unique {span : K} {initial decision : Vec K}
    {targets first second : Trajectories K}
    (one : model.RebuiltRows span initial decision targets first)
    (other : model.RebuiltRows span initial decision targets second) : first = second := by
  have states : ∀ row, row < model.stages → first.state.rowAt row = second.state.rowAt row :=
    other.states_agree 0 model.stages one (Nat.le_refl _) (Nat.le_refl _) rfl
      (fun _ _ _ => rfl) fun _ _ => rfl
  have costates : ∀ row, 0 ≤ row → row < model.stages →
      first.costate.rowAt row = second.costate.rowAt row :=
    other.costates_agree 0 0 one rfl rfl (fun row _ => states row) fun _ _ _ => rfl
  exact trajectories_ext one.fits other.fits states fun row => costates row (Nat.zero_le row)

include sound

theorem size_rebuiltStateOf (decision : Vec K) (span : K) (stage : Nat) {start target : Vec K}
    (first : start.size = model.state) (second : target.size = model.state) :
    (model.rebuiltStateOf decision span stage start target).size = model.state :=
  Vec.size_moved_of_size (size_rateOf sound _ _ _) (Vec.size_moved_of_size first second)

theorem size_rebuiltTerminalOf (finish : Vec K) {target : Vec K}
    (given : target.size = model.state) :
    (model.rebuiltTerminalOf finish target).size = model.state := by
  have rows : model.terminalWeight.rows = model.state := congrArg Prod.fst sound.terminalWeight
  unfold rebuiltTerminalOf
  rw [Mat.size_timesAdd (given.trans rows.symm), rows]

theorem size_rebuiltCostateOf (span : K) (finish : Vec K) {ahead target : Vec K}
    (first : ahead.size = model.state) (second : target.size = model.state) :
    (model.rebuiltCostateOf span finish ahead target).size = model.state :=
  Vec.size_moved_of_size (size_costateRateOf sound _ _) (Vec.size_moved_of_size first second)

/-- One stage of the sweep over the states. -/
theorem rebuildState_value {decision : Vec K} (span : K) {targets : Mat K} {stage : Nat}
    (long : decision.size = model.dimensions.decisionSize)
    (shape : targets.shape = (model.stages, model.state)) (below : stage < model.stages)
    {work : Scratch K × Mat K} (working : model.Working work) :
    ∃ after, model.rebuildState decision span targets stage work = .ok after ∧
      model.Working after ∧ after.1.start = after.2.rowAt stage ∧
      after.2.rowAt stage =
        model.rebuiltStateOf decision span stage work.1.start (targets.rowAt stage) ∧
      ∀ row, row ≠ stage → after.2.rowAt row = work.2.rowAt row := by
  obtain ⟨scratch, out⟩ := work
  obtain ⟨fits, outShape⟩ := working
  obtain ⟨rows, cols⟩ := Prod.mk.inj shape
  obtain ⟨outRows, outCols⟩ := Prod.mk.inj outShape
  have inside : stage < targets.rows := rows.symm ▸ below
  have target : (targets.rowAt stage).size = model.state := (Mat.size_rowAt inside).trans cols
  have rateSize : (model.rateOf decision stage scratch.start).size = model.state :=
    size_rateOf sound _ _ _
  have heldSize : (Vec.moved 1 scratch.start (targets.rowAt stage)).size = model.state :=
    Vec.size_moved_of_size fits.start target
  have reachedSize := size_rebuiltStateOf sound decision span stage fits.start target
  obtain ⟨written, stored, writtenShape, here, beside⟩ :=
    Mat.exists_writeRow (outRows.symm ▸ below) (reachedSize.trans outCols.symm)
  refine ⟨({ scratch with
      rate := model.rateOf decision stage scratch.start
      start := model.rebuiltStateOf decision span stage scratch.start (targets.rowAt stage)
      finish := scratch.start }, written), ?_, ⟨?_, writtenShape.trans outShape⟩, here.symm, here,
    beside⟩
  · unfold rebuildState
    simp only [stateRate_value sound long below fits, ok_bind]
    rw [Mat.readRow_of_lt inside (fits.finish.trans cols.symm), ok_bind,
      Vec.axpy_of_size (target.trans fits.start.symm), ok_bind,
      Vec.axpy_of_size (heldSize.trans rateSize.symm), ok_bind]
    unfold rebuiltStateOf at stored
    rw [stored, ok_bind]
    rfl
  · exact { fits with rate := rateSize, start := reachedSize, finish := fits.start }

/-- The sweep over the states: below a stage, the rows are done, and `start` holds the state that
the stage starts at. At the end it holds the last state. -/
theorem rebuildStates_value {initial decision : Vec K} (span : K) {targets : Mat K}
    (long : decision.size = model.dimensions.decisionSize)
    (shape : targets.shape = (model.stages, model.state))
    (work : Scratch K × Mat K) (working : model.Working work) (begun : work.1.start = initial) :
    ∃ after, Sweep.forward (model.rebuildState decision span targets) model.stages work =
        .ok after ∧
      model.Working after ∧ after.1.start = after.2.rowAt (model.stages - 1) ∧
      ∀ stage, stage < model.stages → after.2.rowAt stage =
        model.rebuiltStateOf decision span stage (startAt initial after.2 stage)
          (targets.rowAt stage) := by
  obtain ⟨after, ran, kept, start, done⟩ := Sweep.forward_total
    (model.rebuildState decision span targets) model.stages work
    (fun stage work => model.Working work ∧ work.1.start = startAt initial work.2 stage ∧
      ∀ row, row < stage → work.2.rowAt row =
        model.rebuiltStateOf decision span row (startAt initial work.2 row) (targets.rowAt row))
    (fun stage below before reached => by
      obtain ⟨working, start, done⟩ := reached
      obtain ⟨after, stepped, kept, next, here, beside⟩ :=
        rebuildState_value sound span long shape below working
      have starts : ∀ row, row ≤ stage →
          startAt initial after.2 row = startAt initial before.2 row :=
        fun row upTo => startAt_of_rowAt fun other before => beside other (by omega)
      refine ⟨after, stepped, kept, next, fun row upTo => ?_⟩
      rw [starts row (Nat.le_of_lt_succ upTo)]
      by_cases last : row = stage
      · rw [last, here, start]
      · rw [beside row last]
        exact done row (by omega))
    ⟨working, begun, fun row negative => absurd negative (Nat.not_lt_zero row)⟩
  refine ⟨after, ran, kept, ?_, done⟩
  obtain ⟨last, next⟩ := Nat.exists_eq_add_one.mpr sound.stages
  rw [start, next]
  rfl

/-- The terminal condition, where `start` holds the last state. -/
theorem rebuildTerminal_value {targets : Mat K}
    (shape : targets.shape = (model.stages, model.state)) (work : Scratch K × Mat K)
    (working : model.Working work) :
    ∃ after, model.rebuildTerminal targets work = .ok after ∧ model.Working after ∧
      after.1.ahead = after.2.rowAt (model.stages - 1) ∧
      after.2.rowAt (model.stages - 1) =
        model.rebuiltTerminalOf work.1.start (targets.rowAt (model.stages - 1)) := by
  obtain ⟨scratch, out⟩ := work
  obtain ⟨held, outShape⟩ := working
  obtain ⟨rows, cols⟩ := Prod.mk.inj shape
  obtain ⟨outRows, outCols⟩ := Prod.mk.inj outShape
  obtain ⟨weightRows, weightCols⟩ := Prod.mk.inj sound.terminalWeight
  have below : model.stages - 1 < model.stages := Nat.sub_lt sound.stages Nat.one_pos
  have inside : model.stages - 1 < targets.rows := rows.symm ▸ below
  have targetSize := (Mat.size_rowAt inside).trans cols
  have costateSize := size_rebuiltTerminalOf sound scratch.start targetSize
  have place : model.stages - 1 < out.rows := by
    rw [outRows]
    exact below
  obtain ⟨written, stored, writtenShape, here, _⟩ :=
    Mat.exists_writeRow place (costateSize.trans outCols.symm)
  refine ⟨({ scratch with
      ahead := model.rebuiltTerminalOf scratch.start (targets.rowAt (model.stages - 1)) }, written),
    ?_, ⟨{ held with ahead := costateSize }, writtenShape.trans outShape⟩, here.symm, here⟩
  unfold rebuildTerminal
  simp only
  rw [Mat.readRow_of_lt inside (held.ahead.trans cols.symm), ok_bind,
    Mat.addMulVec_of_size (weightCols.trans held.start.symm) (targetSize.trans weightRows.symm),
    ok_bind]
  unfold rebuiltTerminalOf at stored
  rw [stored, ok_bind]
  rfl

/-- One stage of the sweep over the costates, where `ahead` holds the costate after it. -/
theorem rebuildCostate_value (span : K) {states targets : Mat K} {stage : Nat}
    (statesShape : states.shape = (model.stages, model.state))
    (shape : targets.shape = (model.stages, model.state)) (below : stage < model.stages)
    {work : Scratch K × Mat K} (working : model.Working work) :
    ∃ after, model.rebuildCostate span states targets stage work = .ok after ∧
      model.Working after ∧ after.1.ahead = after.2.rowAt stage ∧
      after.2.rowAt stage = model.rebuiltCostateOf span (states.rowAt stage) work.1.ahead
        (targets.rowAt stage) ∧
      ∀ row, row ≠ stage → after.2.rowAt row = work.2.rowAt row := by
  obtain ⟨scratch, out⟩ := work
  obtain ⟨held, outShape⟩ := working
  obtain ⟨stateRows, stateCols⟩ := Prod.mk.inj statesShape
  obtain ⟨rows, cols⟩ := Prod.mk.inj shape
  obtain ⟨outRows, outCols⟩ := Prod.mk.inj outShape
  have stateInside : stage < states.rows := stateRows.symm ▸ below
  have inside : stage < targets.rows := rows.symm ▸ below
  have finishSize := (Mat.size_rowAt stateInside).trans stateCols
  have targetSize := (Mat.size_rowAt inside).trans cols
  have loaded : Scratch.Fits { scratch with finish := states.rowAt stage } model.state :=
    { held with finish := finishSize }
  have rateSize := size_costateRateOf sound (states.rowAt stage) scratch.ahead
  have heldSize : (Vec.moved 1 scratch.ahead (targets.rowAt stage)).size = model.state :=
    Vec.size_moved_of_size held.ahead targetSize
  have reachedSize := size_rebuiltCostateOf sound span (states.rowAt stage) held.ahead targetSize
  obtain ⟨written, stored, writtenShape, here, beside⟩ :=
    Mat.exists_writeRow (outRows.symm ▸ below) (reachedSize.trans outCols.symm)
  refine ⟨({ scratch with
      rate := model.costateRateOf (states.rowAt stage) scratch.ahead
      finish := states.rowAt stage
      ahead := model.rebuiltCostateOf span (states.rowAt stage) scratch.ahead (targets.rowAt stage)
      costate := scratch.ahead }, written), ?_,
    ⟨{ loaded with rate := rateSize, ahead := reachedSize, costate := held.ahead },
      writtenShape.trans outShape⟩, here.symm, here, beside⟩
  unfold rebuildCostate
  simp only
  rw [Mat.readRow_of_lt stateInside (held.finish.trans stateCols.symm), ok_bind,
    costateRate_value sound loaded, ok_bind,
    Mat.readRow_of_lt inside (held.costate.trans cols.symm), ok_bind,
    Vec.axpy_of_size (targetSize.trans held.ahead.symm), ok_bind,
    Vec.axpy_of_size (heldSize.trans rateSize.symm), ok_bind]
  unfold rebuiltCostateOf at stored
  rw [stored, ok_bind]
  rfl

/-- **The rebuilt trajectories, row by row.** -/
theorem rebuild_value [Sub K] [Div K] [BEq K] [NatCast K] [LE K] [DecidableLE K]
    [ScalarFunctions K] {sample : Sample K} {targets out : Trajectories K}
    (sampleFits : sample.Fits model.dimensions) (fits : targets.Fits model.dimensions)
    (room : out.Fits model.dimensions) :
    ∃ (scratch : Scratch K) (rebuilt : Trajectories K), scratch.Fits model.state ∧
      model.rebuild sample targets out = .ok ({ model with scratch }, rebuilt) ∧
      model.RebuiltRows (model.stageSpan sample.time) sample.state sample.decision targets
        rebuilt := by
  have long : sample.state.size = model.state := sampleFits.state
  obtain ⟨⟨first, state⟩, ranStates, stateWorking, lastState, stateRows⟩ :=
    rebuildStates_value sound (model.stageSpan sample.time) sampleFits.decision fits.state
      ({ model.scratch with start := sample.state }, out.state)
      ⟨{ sound.scratch with start := long }, room.state⟩ rfl
  obtain ⟨⟨second, terminal⟩, ranTerminal, working, held, terminalRow⟩ :=
    rebuildTerminal_value sound fits.costate (first, out.costate)
      ⟨stateWorking.scratch, room.costate⟩
  -- `ahead` holds the row above the stage, which the sweep does not touch any more
  obtain ⟨⟨last, costate⟩, ranCostates, lastWorking, _, kept, done⟩ := Sweep.backward_total
    (model.rebuildCostate (model.stageSpan sample.time) state targets.costate) (model.stages - 1)
    (second, terminal)
    (fun stage work => model.Working work ∧ work.1.ahead = work.2.rowAt stage ∧
      work.2.rowAt (model.stages - 1) = terminal.rowAt (model.stages - 1) ∧
      ∀ row, stage ≤ row → row < model.stages - 1 → work.2.rowAt row =
        model.rebuiltCostateOf (model.stageSpan sample.time) (state.rowAt row)
          (work.2.rowAt (row + 1)) (targets.costate.rowAt row))
    (fun stage below before reached => by
      obtain ⟨working, ahead, kept, done⟩ := reached
      obtain ⟨after, stepped, stillWorking, next, here, beside⟩ :=
        rebuildCostate_value sound (model.stageSpan sample.time) stateWorking.shape
          fits.costate (Nat.lt_of_lt_pred below) working
      refine ⟨after, stepped, stillWorking, next, ?_, fun row from_ upTo => ?_⟩
      · rw [beside _ (Nat.ne_of_gt below), kept]
      · rw [beside (row + 1) (by omega)]
        by_cases same : row = stage
        · rw [same, here, ahead]
        · rw [beside row same]
          exact done row (by omega) upTo)
    ⟨working, held, rfl, fun row from_ upTo => absurd upTo (Nat.not_lt.mpr from_)⟩
  refine ⟨last, ⟨state, costate⟩, lastWorking.scratch, ?_, ?_⟩
  · unfold Regulator.rebuild
    simp only [Vec.overwrite_of_size (sound.scratch.start.trans long.symm), ok_bind, ranStates,
      ranTerminal, ranCostates]
    rfl
  · exact
      { fits := ⟨stateWorking.shape, lastWorking.shape⟩
        state := stateRows
        terminal := by rw [kept, terminalRow, lastState]
        costate := fun stage below => done stage (Nat.zero_le stage) below }

end Rebuild

end RecedingHorizon.Regulator
