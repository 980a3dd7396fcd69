/-
**Rebuilding inverts the defects.**

In exact arithmetic the sweeps of the regulator compute the defects of the discretised state and
costate equation, and `rebuild` solves these equations for the trajectories.

* `DefectEquations` are the defects of all stages by coordinates;
* `rebuiltRows_iff_defectRows`: rebuilt trajectories are those with the prescribed defects. Stage by
  stage one row function is the inverse of the other, so that both maps follow from the uniqueness
  of the rows;
* `defects_rebuild_inverse`: each of the two evaluations undoes the other.
-/

import Mathlib.Algebra.Order.Ring.Rat
import Mathlib.Data.Rat.Lemmas
import Mathlib.Algebra.Field.Rat
import Mathlib.Tactic.Module
import RecedingHorizon.Proofs.Dense.Coordinates
import RecedingHorizon.Proofs.Regulator.History

set_option linter.unusedSectionVars false

namespace RecedingHorizon.Regulator

universe u

variable {K : Type u}

/-! ### The equations -/

/-- The decision from the block of a stage on, which starts with the inputs of the stage. -/
def stageCoord [Zero K] (model : Regulator K) (decision : Vec K) (stage : ℕ) : ℕ → K :=
  fun index => decision.coord (stage * model.width + index)

/-- The state that a stage starts at, by coordinates. -/
def startCoord [Zero K] (initial : Vec K) (states : Mat K) : ℕ → ℕ → K
  | 0 => initial.coord
  | stage + 1 => states.get stage

/-- **The defects of the discretised equations**, with `x_0` the state of the sample, `x_i` the
state `X_{i-1}` and `Δτ` the span of a stage:

  `X_i - x_i - Δτ (A x_i + B u_i)`, `Λ_{N-1} - S X_{N-1}`,
  `Λ_i - Λ_{i+1} - Δτ (Q X_i + Aᵀ Λ_{i+1})`.
-/
structure DefectEquations [CommRing K] (model : Regulator K) (span : K) (initial decision : Vec K)
    (trajectories defects : Trajectories K) : Prop where
  state : ∀ stage, stage < model.stages → defects.state.get stage =
    trajectories.state.get stage - startCoord initial trajectories.state stage -
      span • (model.dynamics.linear (startCoord initial trajectories.state stage) +
        model.inputMap.linear (model.stageCoord decision stage))
  terminal : defects.costate.get (model.stages - 1) =
    trajectories.costate.get (model.stages - 1) -
      model.terminalWeight.linear (trajectories.state.get (model.stages - 1))
  costate : ∀ stage, stage < model.stages - 1 → defects.costate.get stage =
    trajectories.costate.get stage - trajectories.costate.get (stage + 1) -
      span • (model.stateWeight.linear (trajectories.state.get stage) +
        model.dynamics.transposeLinear (trajectories.costate.get (stage + 1)))

/-! ### Rows by coordinates -/

section Rows

variable [CommRing K] {model : Regulator K} (sound : model.Sound)

@[simp]
theorem coord_startAt (initial : Vec K) (states : Mat K) (stage : ℕ) :
    (startAt initial states stage).coord = startCoord initial states stage := by
  cases stage with
  | zero => rfl
  | succ stage => exact Mat.coord_rowAt _ _

/-- A row of a trajectory is as long as the state. -/
theorem size_rowAt_of_shape {matrix : Mat K} {stage : ℕ}
    (shape : matrix.shape = (model.stages, model.state)) (below : stage < model.stages) :
    (matrix.rowAt stage).size = model.state := by
  obtain ⟨rows, cols⟩ := Prod.mk.inj shape
  have inside : stage < matrix.rows := rows.symm ▸ below
  exact (Mat.size_rowAt inside).trans cols

/-- A product with the inputs of a stage reads its block of the decision. -/
theorem linear_inputsOf {matrix : Mat K} (cols : matrix.cols = model.input) (decision : Vec K)
    (stage : ℕ) :
    matrix.linear (model.inputsOf decision stage).coord =
      matrix.linear (model.stageCoord decision stage) := by
  funext row
  rw [Mat.linear_apply, Mat.linear_apply]
  refine Finset.sum_congr rfl fun col inside => ?_
  unfold inputsOf stageCoord
  rw [Vec.coord_block, if_pos (cols ▸ Finset.mem_range.mp inside)]

include sound

theorem coord_rateOf {decision start : Vec K} {stage : ℕ}
    (long : decision.size = model.dimensions.decisionSize) (below : stage < model.stages)
    (size : start.size = model.state) :
    (model.rateOf decision stage start).coord =
      model.dynamics.linear start.coord +
        model.inputMap.linear (model.stageCoord decision stage) := by
  have source : model.inputMap.cols = (decision.block (stage * model.width) model.input).size :=
    (size_inputsOf long below).symm
  have target : (model.dynamics.times start).size = model.inputMap.rows := by
    rw [Mat.size_times, sound.inputMap]
    rfl
  have inputs := linear_inputsOf (rfl : model.inputMap.cols = model.input) decision stage
  unfold inputsOf at inputs
  unfold rateOf
  rw [Mat.coord_timesAdd 1 1 source target, inputs,
    Mat.coord_times (sound.dynamics.trans size.symm), one_smul, one_smul, add_comm]

theorem coord_costateRateOf {finish ahead : Vec K} (finishSize : finish.size = model.state)
    (aheadSize : ahead.size = model.state) :
    (model.costateRateOf finish ahead).coord =
      model.stateWeight.linear finish.coord + model.dynamics.transposeLinear ahead.coord := by
  obtain ⟨rows, cols⟩ := Prod.mk.inj sound.stateWeight
  have target : (model.stateWeight.times finish).size = model.dynamics.cols := by
    rw [Mat.size_times, rows, sound.dynamics]
  unfold costateRateOf
  rw [Mat.coord_transposeTimesAdd aheadSize.symm target,
    Mat.coord_times (cols.trans finishSize.symm), add_comm]

theorem coord_stateDefectOf {decision start reached : Vec K} (span : K) {stage : ℕ}
    (long : decision.size = model.dimensions.decisionSize) (below : stage < model.stages)
    (startSize : start.size = model.state) (reachedSize : reached.size = model.state) :
    (model.stateDefectOf decision span stage start reached).coord =
      reached.coord - start.coord - span • (model.dynamics.linear start.coord +
        model.inputMap.linear (model.stageCoord decision stage)) := by
  have rateSize := size_rateOf sound decision stage start
  have changeSize := Vec.size_moved_of_size (a := -1) startSize reachedSize
  unfold stateDefectOf
  rw [Vec.coord_moved (-span) (rateSize.trans changeSize.symm),
    Vec.coord_moved (-1) (startSize.trans reachedSize.symm),
    coord_rateOf sound long below startSize]
  module

theorem coord_rebuiltStateOf {decision start target : Vec K} (span : K) {stage : ℕ}
    (long : decision.size = model.dimensions.decisionSize) (below : stage < model.stages)
    (startSize : start.size = model.state) (targetSize : target.size = model.state) :
    (model.rebuiltStateOf decision span stage start target).coord =
      target.coord + start.coord + span • (model.dynamics.linear start.coord +
        model.inputMap.linear (model.stageCoord decision stage)) := by
  have rateSize := size_rateOf sound decision stage start
  have heldSize := Vec.size_moved_of_size (a := 1) startSize targetSize
  unfold rebuiltStateOf
  rw [Vec.coord_moved span (rateSize.trans heldSize.symm),
    Vec.coord_moved 1 (startSize.trans targetSize.symm), coord_rateOf sound long below startSize]
  module

theorem coord_terminalDefectOf {finish costate : Vec K} (finishSize : finish.size = model.state)
    (costateSize : costate.size = model.state) :
    (model.terminalDefectOf finish costate).coord =
      costate.coord - model.terminalWeight.linear finish.coord := by
  obtain ⟨rows, cols⟩ := Prod.mk.inj sound.terminalWeight
  unfold terminalDefectOf
  rw [Mat.coord_timesAdd (-1) 1 (cols.trans finishSize.symm) (costateSize.trans rows.symm)]
  module

theorem coord_rebuiltTerminalOf {finish target : Vec K} (finishSize : finish.size = model.state)
    (targetSize : target.size = model.state) :
    (model.rebuiltTerminalOf finish target).coord =
      target.coord + model.terminalWeight.linear finish.coord := by
  obtain ⟨rows, cols⟩ := Prod.mk.inj sound.terminalWeight
  unfold rebuiltTerminalOf
  rw [Mat.coord_timesAdd 1 1 (cols.trans finishSize.symm) (targetSize.trans rows.symm)]
  module

theorem coord_costateDefectOf (span : K) {finish ahead costate : Vec K}
    (finishSize : finish.size = model.state) (aheadSize : ahead.size = model.state)
    (costateSize : costate.size = model.state) :
    (model.costateDefectOf span finish ahead costate).coord =
      costate.coord - ahead.coord - span • (model.stateWeight.linear finish.coord +
        model.dynamics.transposeLinear ahead.coord) := by
  have rateSize := size_costateRateOf sound finish ahead
  have changeSize := Vec.size_moved_of_size (a := -1) aheadSize costateSize
  unfold costateDefectOf
  rw [Vec.coord_moved (-span) (rateSize.trans changeSize.symm),
    Vec.coord_moved (-1) (aheadSize.trans costateSize.symm),
    coord_costateRateOf sound finishSize aheadSize]
  module

theorem coord_rebuiltCostateOf (span : K) {finish ahead target : Vec K}
    (finishSize : finish.size = model.state) (aheadSize : ahead.size = model.state)
    (targetSize : target.size = model.state) :
    (model.rebuiltCostateOf span finish ahead target).coord =
      target.coord + ahead.coord + span • (model.stateWeight.linear finish.coord +
        model.dynamics.transposeLinear ahead.coord) := by
  have rateSize := size_costateRateOf sound finish ahead
  have heldSize := Vec.size_moved_of_size (a := 1) aheadSize targetSize
  unfold rebuiltCostateOf
  rw [Vec.coord_moved span (rateSize.trans heldSize.symm),
    Vec.coord_moved 1 (aheadSize.trans targetSize.symm),
    coord_costateRateOf sound finishSize aheadSize]
  module

end Rows

/-! ### Solving for the row -/

section Solving

variable [CommRing K] {model : Regulator K} (sound : model.Sound)

/-- Prescribed differences, solved for the value. -/
theorem eq_add_add_iff {value target start change : ℕ → K} :
    value = target + start + change ↔ target = value - start - change := by
  constructor
  · rintro rfl
    module
  · rintro rfl
    module

include sound

theorem eq_rebuiltStateOf_iff {decision start reached target : Vec K} (span : K) {stage : ℕ}
    (long : decision.size = model.dimensions.decisionSize) (below : stage < model.stages)
    (startSize : start.size = model.state) (reachedSize : reached.size = model.state)
    (targetSize : target.size = model.state) :
    reached = model.rebuiltStateOf decision span stage start target ↔
      target = model.stateDefectOf decision span stage start reached := by
  have rebuiltSize := size_rebuiltStateOf sound decision span stage startSize targetSize
  have defectSize := size_stateDefectOf sound decision span stage startSize reachedSize
  rw [← Vec.coord_inj (reachedSize.trans rebuiltSize.symm),
    ← Vec.coord_inj (targetSize.trans defectSize.symm),
    coord_rebuiltStateOf sound span long below startSize targetSize,
    coord_stateDefectOf sound span long below startSize reachedSize]
  exact eq_add_add_iff

theorem eq_rebuiltTerminalOf_iff {finish costate target : Vec K}
    (finishSize : finish.size = model.state) (costateSize : costate.size = model.state)
    (targetSize : target.size = model.state) :
    costate = model.rebuiltTerminalOf finish target ↔
      target = model.terminalDefectOf finish costate := by
  have rebuiltSize := size_rebuiltTerminalOf sound finish targetSize
  have defectSize := size_terminalDefectOf sound finish costateSize
  rw [← Vec.coord_inj (costateSize.trans rebuiltSize.symm),
    ← Vec.coord_inj (targetSize.trans defectSize.symm),
    coord_rebuiltTerminalOf sound finishSize targetSize,
    coord_terminalDefectOf sound finishSize costateSize]
  rw [eq_sub_iff_add_eq, eq_comm]

theorem eq_rebuiltCostateOf_iff (span : K) {finish ahead costate target : Vec K}
    (finishSize : finish.size = model.state) (aheadSize : ahead.size = model.state)
    (costateSize : costate.size = model.state) (targetSize : target.size = model.state) :
    costate = model.rebuiltCostateOf span finish ahead target ↔
      target = model.costateDefectOf span finish ahead costate := by
  have rebuiltSize := size_rebuiltCostateOf sound span finish aheadSize targetSize
  have defectSize := size_costateDefectOf sound span finish aheadSize costateSize
  rw [← Vec.coord_inj (costateSize.trans rebuiltSize.symm),
    ← Vec.coord_inj (targetSize.trans defectSize.symm),
    coord_rebuiltCostateOf sound span finishSize aheadSize targetSize,
    coord_costateDefectOf sound span finishSize aheadSize costateSize]
  exact eq_add_add_iff

/-- **Rebuilt trajectories are those with the prescribed defects.** -/
theorem rebuiltRows_iff_defectRows {span : K} {initial decision : Vec K}
    {targets trajectories : Trajectories K} (initialSize : initial.size = model.state)
    (long : decision.size = model.dimensions.decisionSize)
    (targetsFit : targets.Fits model.dimensions) (fits : trajectories.Fits model.dimensions) :
    model.RebuiltRows span initial decision targets trajectories ↔
      model.DefectRows span initial decision trajectories targets := by
  have stateSize : ∀ stage, stage < model.stages →
      (trajectories.state.rowAt stage).size = model.state :=
    fun stage below => size_rowAt_of_shape fits.state below
  have costateSize : ∀ stage, stage < model.stages →
      (trajectories.costate.rowAt stage).size = model.state :=
    fun stage below => size_rowAt_of_shape fits.costate below
  have last : model.stages - 1 < model.stages := Nat.sub_lt sound.stages Nat.one_pos
  have state : ∀ stage, stage < model.stages →
      (trajectories.state.rowAt stage = model.rebuiltStateOf decision span stage
          (startAt initial trajectories.state stage) (targets.state.rowAt stage) ↔
        targets.state.rowAt stage = model.stateDefectOf decision span stage
          (startAt initial trajectories.state stage) (trajectories.state.rowAt stage)) :=
    fun stage below => eq_rebuiltStateOf_iff sound span long below
      (size_startAt initialSize fits.state below) (stateSize stage below)
      (size_rowAt_of_shape targetsFit.state below)
  have terminal := eq_rebuiltTerminalOf_iff sound (stateSize _ last) (costateSize _ last)
    (size_rowAt_of_shape targetsFit.costate last)
  have costate : ∀ stage, stage < model.stages - 1 →
      (trajectories.costate.rowAt stage = model.rebuiltCostateOf span
          (trajectories.state.rowAt stage) (trajectories.costate.rowAt (stage + 1))
          (targets.costate.rowAt stage) ↔
        targets.costate.rowAt stage = model.costateDefectOf span
          (trajectories.state.rowAt stage) (trajectories.costate.rowAt (stage + 1))
          (trajectories.costate.rowAt stage)) :=
    fun stage below => eq_rebuiltCostateOf_iff sound span (stateSize stage (by omega))
      (costateSize (stage + 1) (by omega)) (costateSize stage (by omega))
      (size_rowAt_of_shape targetsFit.costate (by omega))
  constructor
  · intro rows
    exact
      { fits := targetsFit
        state := fun stage below => (state stage below).mp (rows.state stage below)
        terminal := terminal.mp rows.terminal
        costate := fun stage below => (costate stage below).mp (rows.costate stage below) }
  · intro rows
    exact
      { fits := fits
        state := fun stage below => (state stage below).mpr (rows.state stage below)
        terminal := terminal.mpr rows.terminal
        costate := fun stage below => (costate stage below).mpr (rows.costate stage below) }

/-- The rows of the defects, by coordinates. -/
theorem DefectRows.equations {span : K} {initial decision : Vec K}
    {trajectories defects : Trajectories K}
    (rows : model.DefectRows span initial decision trajectories defects)
    (initialSize : initial.size = model.state)
    (long : decision.size = model.dimensions.decisionSize)
    (fits : trajectories.Fits model.dimensions) :
    model.DefectEquations span initial decision trajectories defects := by
  have stateSize : ∀ stage, stage < model.stages →
      (trajectories.state.rowAt stage).size = model.state :=
    fun stage below => size_rowAt_of_shape fits.state below
  have costateSize : ∀ stage, stage < model.stages →
      (trajectories.costate.rowAt stage).size = model.state :=
    fun stage below => size_rowAt_of_shape fits.costate below
  have last : model.stages - 1 < model.stages := Nat.sub_lt sound.stages Nat.one_pos
  refine ⟨fun stage below => ?_, ?_, fun stage below => ?_⟩
  · have row := congrArg Vec.coord (rows.state stage below)
    rw [coord_stateDefectOf sound span long below (size_startAt initialSize fits.state below)
      (stateSize stage below)] at row
    simpa only [Mat.coord_rowAt, coord_startAt] using row
  · have row := congrArg Vec.coord rows.terminal
    rw [coord_terminalDefectOf sound (stateSize _ last) (costateSize _ last)] at row
    simpa only [Mat.coord_rowAt] using row
  · have row := congrArg Vec.coord (rows.costate stage below)
    rw [coord_costateDefectOf sound span (stateSize stage (by omega))
      (costateSize (stage + 1) (by omega)) (costateSize stage (by omega))] at row
    simpa only [Mat.coord_rowAt] using row

end Solving

/-! ### A cart over the rationals -/

/-- A stand-in for the functions of analysis: one over `1 - x` is one at zero and falls towards zero
on the left of it, and the square root is exact on squares. -/
instance rationalFunctions : ScalarFunctions ℚ where
  exp x := 1 / (1 - x)
  sqrt x := (Nat.sqrt x.num.toNat : ℚ) / (Nat.sqrt x.den : ℚ)
  isFinite _ := true

/-- A cart with position and speed, pushed by one force, over two stages. -/
def freeCart : Regulator ℚ where
  dynamics := Mat.ofFn 2 2 fun i j => if i = 0 ∧ j = 1 then 1 else 0
  inputMap := Mat.ofFn 2 1 fun i _ => if i = 1 then 1 else 0
  stateWeight := Mat.ofFn 2 2 fun i j => if i = j then 1 else 0
  inputWeight := Mat.ofFn 1 1 fun _ _ => 1 / 2
  terminalWeight := Mat.ofFn 2 2 fun i j => if i = j then 3 else 0
  constraint := none
  horizon := { settings := { finalLength := 1, growthRate := 2, origin := 0 } }
  stages := 2
  scratch := Scratch.zeros 2

/-- The cart whose force is to be one. -/
def cart : Regulator ℚ :=
  { freeCart with
    constraint := some { matrix := Mat.ofFn 1 1 fun _ _ => 1, target := #[1] } }

theorem accepted_cart : Accepted cart := by
  have free : build freeCart.toMatrices 2 freeCart.horizon.settings = .ok freeCart := rfl
  have bound : freeCart.constrain { matrix := Mat.ofFn 1 1 fun _ _ => 1, target := #[1] } =
      .ok cart := rfl
  exact .constrained (.built free) bound

/-- A sample of the cart. -/
def cartSample : Sample ℚ where
  time := 1 / 2
  state := #[1, -1]
  decision := #[2, -1, 1 / 3, 4]

/-- Trajectories of the cart. -/
def cartTrajectories : Trajectories ℚ where
  state := Mat.ofFn 2 2 fun i j => i + 2 * j
  costate := Mat.ofFn 2 2 fun i j => 3 - i * j

theorem fits_cartSample : cartSample.Fits cart.dimensions :=
  ⟨rfl, rfl⟩

theorem fits_cartTrajectories : cartTrajectories.Fits cart.dimensions :=
  ⟨rfl, rfl⟩

/-! ### The evaluations -/

section Evaluations

variable [Field K] [LinearOrder K] [ScalarFunctions K] {model : Regulator K}

/-- The defects of rebuilt trajectories are the targets. -/
theorem evaluations_defects_rebuild (sound : model.Sound) {sample : Sample K}
    {targets : Trajectories K} (sampleFits : sample.Fits model.dimensions)
    (fits : targets.Fits model.dimensions) :
    model.evaluations.defects sample (model.evaluations.rebuild sample targets) = targets := by
  have rebuilt := evaluations_rebuild sound sampleFits fits
  have defects := evaluations_defects sound sampleFits rebuilt.fits
  refine defects.unique ?_
  exact (rebuiltRows_iff_defectRows sound sampleFits.state sampleFits.decision fits
    rebuilt.fits).mp rebuilt

/-- Trajectories rebuilt from defects are those that had them. -/
theorem evaluations_rebuild_defects (sound : model.Sound) {sample : Sample K}
    {trajectories : Trajectories K} (sampleFits : sample.Fits model.dimensions)
    (fits : trajectories.Fits model.dimensions) :
    model.evaluations.rebuild sample (model.evaluations.defects sample trajectories) =
      trajectories := by
  have defects := evaluations_defects sound sampleFits fits
  have rebuilt := evaluations_rebuild sound sampleFits defects.fits
  refine rebuilt.unique ?_
  exact (rebuiltRows_iff_defectRows sound sampleFits.state sampleFits.decision defects.fits
    fits).mpr defects

/-- **`defects` and `rebuild` are inverse to each other.** At any sample, on any model that was
accepted and in any storage that fits, the defects of a pair of trajectories are those of the
discretised equations, and rebuilding from them gives the pair back; and the trajectories rebuilt
from a pair of targets have these targets for defects. -/
theorem defects_rebuild_inverse (accepted : Accepted model) {sample : Sample K}
    {pair first second : Trajectories K} (sampleFits : sample.Fits model.dimensions)
    (fits : pair.Fits model.dimensions) (firstFits : first.Fits model.dimensions)
    (secondFits : second.Fits model.dimensions) :
    (∃ (defects : Trajectories K) (next last : Regulator K),
      model.defects sample pair first = .ok (next, defects) ∧
      defects.Fits model.dimensions ∧
      model.DefectEquations (model.horizon.length sample.time / (model.stages : K)) sample.state
        sample.decision pair defects ∧
      next.rebuild sample defects second = .ok (last, pair)) ∧
    ∃ (rebuilt : Trajectories K) (next last : Regulator K),
      model.rebuild sample pair first = .ok (next, rebuilt) ∧
      rebuilt.Fits model.dimensions ∧
      next.defects sample rebuilt second = .ok (last, pair) := by
  have sound := accepted.sound
  have total := evaluates sound
  have defects := evaluations_defects sound sampleFits fits
  have rebuilt := evaluations_rebuild sound sampleFits fits
  constructor
  · obtain ⟨next, ranDefects, storing⟩ :=
      total.defects model sample pair first sound.storing_self sampleFits fits firstFits
    obtain ⟨last, ranRebuild, _⟩ :=
      total.rebuild next sample _ second storing sampleFits defects.fits secondFits
    rw [evaluations_rebuild_defects sound sampleFits fits] at ranRebuild
    exact ⟨_, next, last, ranDefects, defects.fits,
      defects.equations sound sampleFits.state sampleFits.decision fits, ranRebuild⟩
  · obtain ⟨next, ranRebuild, storing⟩ :=
      total.rebuild model sample pair first sound.storing_self sampleFits fits firstFits
    obtain ⟨last, ranDefects, _⟩ :=
      total.defects next sample _ second storing sampleFits rebuilt.fits secondFits
    rw [evaluations_defects_rebuild sound sampleFits fits] at ranDefects
    exact ⟨_, next, last, ranRebuild, rebuilt.fits, ranDefects⟩

/-- The cart has defects, and rebuilding from them gives its trajectories back. -/
theorem defects_rebuild_inverse_cart :
    Accepted cart ∧ ∃ (defects : Trajectories ℚ) (next last : Regulator ℚ),
      cart.defects cartSample cartTrajectories (Trajectories.zeros cart.dimensions) =
        .ok (next, defects) ∧
      next.rebuild cartSample defects (Trajectories.zeros cart.dimensions) =
        .ok (last, cartTrajectories) := by
  obtain ⟨defects, next, last, ran, _, _, undone⟩ :=
    (defects_rebuild_inverse accepted_cart fits_cartSample fits_cartTrajectories
      (Trajectories.fits_zeros _) (Trajectories.fits_zeros _)).1
  exact ⟨accepted_cart, defects, next, last, ran, undone⟩

end Evaluations

end RecedingHorizon.Regulator
