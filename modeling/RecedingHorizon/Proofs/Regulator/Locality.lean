/-
**The sources of a row.**

The sweeps of the regulator are causal: a state is rebuilt from what comes before it and a costate
from what comes after it. The defects and the stationarity residual of a stage belong to that stage
and its neighbours. So two runs agree in a row wherever their arguments agree in its sources,
whatever else the arguments are and whatever the storage holds.

* `Arguments` is what a run is given;
* `Arguments.RebuildLocal`, `Arguments.DefectsLocal` and `Arguments.StationarityLocal` say of the
  values of two runs which rows and blocks have which sources;
* `rows_local` is the statement for every two runs. It uses no law of arithmetic: over floating-point
  numbers the rows agree to the last bit.
-/

import RecedingHorizon.Proofs.Regulator.Inverse

set_option linter.unusedSectionVars false

namespace RecedingHorizon.Regulator

universe u

variable {K : Type u}

/-! ### What a run is given -/

/-- What a run of an evaluation along trajectories is given: the model in some storage, a sample and
a pair of the right shapes, and storage for a pair or a residual. -/
structure Arguments (model : Regulator K) where
  stored : Regulator K
  sample : Sample K
  pair : Trajectories K
  out : Trajectories K
  outResidual : Vec K
  storing : model.Storing stored
  sampleFits : sample.Fits model.dimensions
  pairFits : pair.Fits model.dimensions
  outFits : out.Fits model.dimensions
  outResidualFits : outResidual.size = model.dimensions.decisionSize

section Values

variable [Zero K] [One K] [Add K] [Mul K] {model rest : Regulator K}

/-! ### The values of a stage -/

/-- The rate of a stage reads the inputs of the stage. -/
theorem rateOf_agree (matrices : rest.toMatrices = model.toMatrices) {controls decision : Vec K}
    {row stage : Nat} (inputs : rest.inputsOf controls row = model.inputsOf decision stage)
    (start : Vec K) : rest.rateOf controls row start = model.rateOf decision stage start := by
  unfold inputsOf at inputs
  unfold rateOf
  rw [matrices, inputs]

/-- The inputs of a stage lie in its block. -/
theorem inputsOf_eq_block (model : Regulator K) (decision : Vec K) (stage : Nat) :
    model.inputsOf decision stage =
      (decision.block (stage * model.width) model.width).block 0 model.input := by
  have within : 0 + model.input ≤ model.width := by
    rw [width_eq]
    omega
  exact (Vec.block_block within).symm

/-- So do the multipliers. -/
theorem multipliersOf_eq_block (model : Regulator K) (decision : Vec K) (stage : Nat) :
    model.multipliersOf decision stage =
      (decision.block (stage * model.width) model.width).block model.input model.multipliers :=
  (Vec.block_block (width_eq model).ge).symm

/-- The block of the residual reads the block of the decision. -/
theorem blockOf_agree [Neg K] {decision controls : Vec K} {stage : Nat}
    (same : decision.block (stage * model.width) model.width =
      controls.block (stage * model.width) model.width) (costate : Vec K) :
    model.blockOf decision stage costate = model.blockOf controls stage costate := by
  have inputs : model.inputsOf decision stage = model.inputsOf controls stage := by
    rw [inputsOf_eq_block, same, ← inputsOf_eq_block]
  have multipliers : model.multipliersOf decision stage = model.multipliersOf controls stage := by
    rw [multipliersOf_eq_block, same, ← multipliersOf_eq_block]
  unfold blockOf gradientOf
  rw [inputs, multipliers]

end Values

namespace Arguments

section Sources

variable {model : Regulator K} (one other : model.Arguments)

/-! ### Sources -/

/-- The two have the time, the initial state, and the inputs and the targets of the states up to a
stage in common. -/
structure SameCourse (stage : Nat) : Prop where
  time : one.sample.time = other.sample.time
  state : one.sample.state = other.sample.state
  inputs : ∀ row, row ≤ stage →
    model.inputsOf one.sample.decision row = model.inputsOf other.sample.decision row
  targets : ∀ row, row ≤ stage → one.pair.state.rowAt row = other.pair.state.rowAt row

/-- **The sources of rebuilt trajectories.** -/
structure RebuildLocal (first second : Trajectories K) : Prop where
  /-- The states up to a stage have their course up to it for a source. -/
  state : ∀ stage, stage < model.stages → one.SameCourse other stage →
    ∀ row, row ≤ stage → first.state.rowAt row = second.state.rowAt row
  /-- The costate of a stage has the time, and the states and the targets of the costates from the
  stage on. -/
  costate : ∀ stage, stage < model.stages → one.sample.time = other.sample.time →
    (∀ row, stage ≤ row → row < model.stages →
      first.state.rowAt row = second.state.rowAt row ∧
        one.pair.costate.rowAt row = other.pair.costate.rowAt row) →
    first.costate.rowAt stage = second.costate.rowAt stage

/-- **The sources of defects.** -/
structure DefectsLocal (first second : Trajectories K) : Prop where
  /-- The defect of a state has the time, the inputs of the stage, and the states that the stage
  starts and ends at. -/
  state : ∀ stage, stage < model.stages → one.sample.time = other.sample.time →
    model.inputsOf one.sample.decision stage = model.inputsOf other.sample.decision stage →
    startAt one.sample.state one.pair.state stage =
      startAt other.sample.state other.pair.state stage →
    one.pair.state.rowAt stage = other.pair.state.rowAt stage →
    first.state.rowAt stage = second.state.rowAt stage
  /-- The defect of a costate has the time, the state and the costate of the stage, and the costate
  of the next stage, if there is one. -/
  costate : ∀ stage, stage < model.stages → one.sample.time = other.sample.time →
    one.pair.state.rowAt stage = other.pair.state.rowAt stage →
    one.pair.costate.rowAt stage = other.pair.costate.rowAt stage →
    (stage + 1 < model.stages →
      one.pair.costate.rowAt (stage + 1) = other.pair.costate.rowAt (stage + 1)) →
    first.costate.rowAt stage = second.costate.rowAt stage

/-- **The sources of a stationarity residual**: a block has the block of the decision, and the
costate of the stage. -/
def StationarityLocal (first second : Vec K) : Prop :=
  ∀ stage, stage < model.stages →
    one.sample.decision.block (stage * model.width) model.width =
      other.sample.decision.block (stage * model.width) model.width →
    one.pair.costate.rowAt stage = other.pair.costate.rowAt stage →
    first.block (stage * model.width) model.width = second.block (stage * model.width) model.width

end Sources

variable [Zero K] [One K] [Add K] [Mul K] [Neg K] [Sub K] [Div K] [BEq K] [NatCast K]
  [LE K] [DecidableLE K] [LT K] [DecidableLT K] [ScalarFunctions K] {model : Regulator K}
  (sound : model.Sound) (one other : model.Arguments)
include sound

/-! ### Evaluations -/

theorem rebuildLocal : one.RebuildLocal other
    (model.evaluations.rebuild one.sample one.pair)
    (model.evaluations.rebuild other.sample other.pair) := by
  have first := evaluations_rebuild sound one.sampleFits one.pairFits
  have second := evaluations_rebuild sound other.sampleFits other.pairFits
  constructor
  · intro stage below same row upTo
    rw [same.time] at first
    exact second.states_agree 0 (stage + 1) first below below same.state
      (fun row before => rateOf_agree rfl (same.inputs row (Nat.le_of_lt_succ before)))
      (fun row before => same.targets row (Nat.le_of_lt_succ before)) row
      (Nat.lt_succ_of_le upTo)
  · intro stage below time same
    rw [time] at first
    exact second.costates_agree 0 stage first rfl rfl
      (fun row from_ within => (same row from_ within).1)
      (fun row from_ within => (same row from_ within).2) stage le_rfl below

theorem defectsLocal : one.DefectsLocal other
    (model.evaluations.defects one.sample one.pair)
    (model.evaluations.defects other.sample other.pair) := by
  have first := evaluations_defects sound one.sampleFits one.pairFits
  have second := evaluations_defects sound other.sampleFits other.pairFits
  constructor
  · intro stage below time inputs starts reached
    rw [first.state stage below, second.state stage below, time, starts, reached]
    unfold stateDefectOf
    rw [rateOf_agree rfl inputs]
  · intro stage below time state costate ahead
    by_cases last : stage = model.stages - 1
    · subst last
      rw [first.terminal, second.terminal, state, costate]
    · rw [first.costate stage (by omega), second.costate stage (by omega), time, state, costate,
        ahead (by omega)]

theorem stationarityLocal : one.StationarityLocal other
    (model.evaluations.stationarity one.sample one.pair)
    (model.evaluations.stationarity other.sample other.pair) := by
  have first := evaluations_stationarity sound one.sampleFits one.pairFits
  have second := evaluations_stationarity sound other.sampleFits other.pairFits
  intro stage below block costate
  rw [first.block stage below, second.block stage below, costate, blockOf_agree block]

end Arguments

/-! ### Runs -/

section Runs

variable [Zero K] [One K] [Add K] [Mul K] [Neg K] [Sub K] [Div K] [BEq K] [NatCast K]
  [LE K] [DecidableLE K] [LT K] [DecidableLT K] [ScalarFunctions K] {model : Regulator K}

/-- **Every row has its own sources.** Any two runs of an evaluation of a model that was accepted
succeed, and they agree in every row, or block, in whose sources their arguments agree: whatever the
other rows, blocks and multipliers are, and whatever the storage held. -/
theorem rows_local (accepted : Accepted model) (one other : model.Arguments) :
    (∃ (next last : Regulator K) (first second : Trajectories K),
      one.stored.rebuild one.sample one.pair one.out = .ok (next, first) ∧
      other.stored.rebuild other.sample other.pair other.out = .ok (last, second) ∧
      one.RebuildLocal other first second) ∧
    (∃ (next last : Regulator K) (first second : Trajectories K),
      one.stored.defects one.sample one.pair one.out = .ok (next, first) ∧
      other.stored.defects other.sample other.pair other.out = .ok (last, second) ∧
      one.DefectsLocal other first second) ∧
    ∃ (next last : Regulator K) (first second : Vec K),
      one.stored.stationarity one.sample one.pair one.outResidual = .ok (next, first) ∧
      other.stored.stationarity other.sample other.pair other.outResidual = .ok (last, second) ∧
      one.StationarityLocal other first second := by
  have sound := accepted.sound
  have total := evaluates sound
  refine ⟨?_, ?_, ?_⟩
  · have run := fun given : model.Arguments => total.rebuild given.stored given.sample given.pair
      given.out given.storing given.sampleFits given.pairFits given.outFits
    obtain ⟨next, ran, _⟩ := run one
    obtain ⟨last, ranOther, _⟩ := run other
    exact ⟨next, last, _, _, ran, ranOther, one.rebuildLocal sound other⟩
  · have run := fun given : model.Arguments => total.defects given.stored given.sample given.pair
      given.out given.storing given.sampleFits given.pairFits given.outFits
    obtain ⟨next, ran, _⟩ := run one
    obtain ⟨last, ranOther, _⟩ := run other
    exact ⟨next, last, _, _, ran, ranOther, one.defectsLocal sound other⟩
  · have run := fun given : model.Arguments => total.stationarity given.stored given.sample
      given.pair given.outResidual given.storing given.sampleFits given.pairFits
      given.outResidualFits
    obtain ⟨next, ran, _⟩ := run one
    obtain ⟨last, ranOther, _⟩ := run other
    exact ⟨next, last, _, _, ran, ranOther, one.stationarityLocal sound other⟩

end Runs

/-! ### Two runs of the cart -/

section Cart

/-- The cart as it was built, at its sample. -/
def cartArguments : cart.Arguments where
  stored := cart
  sample := cartSample
  pair := cartTrajectories
  out := Trajectories.zeros cart.dimensions
  outResidual := Vec.zeros 4
  storing := accepted_cart.sound.storing_self
  sampleFits := fits_cartSample
  pairFits := fits_cartTrajectories
  outFits := Trajectories.fits_zeros _
  outResidualFits := rfl

/-- The cart after another evaluation, with the same push on the first stage: the multipliers, the
push on the second stage, the costates and the storage for the result are others. -/
def otherCartArguments : cart.Arguments where
  stored := { cart with scratch := { Scratch.zeros 2 with start := #[5, 6], ahead := #[7, 8] } }
  sample := { cartSample with decision := #[2, 0, 9, 1] }
  pair := { cartTrajectories with costate := Mat.zeros 2 2 }
  out := cartTrajectories
  outResidual := #[1, 2, 3, 4]
  storing := ⟨_, ⟨rfl, rfl, rfl, rfl, rfl⟩, rfl⟩
  sampleFits := ⟨rfl, rfl⟩
  pairFits := ⟨rfl, rfl⟩
  outFits := fits_cartTrajectories
  outResidualFits := rfl

/-- Up to the first stage the two have one course. -/
theorem sameCourse_cart : cartArguments.SameCourse otherCartArguments 0 where
  time := rfl
  state := rfl
  inputs := by
    intro row within
    obtain rfl : row = 0 := Nat.le_zero.mp within
    rfl
  targets _ _ := rfl

/-- **The cart reaches the same first state in both runs**, and starts its first stage with the same
defect. -/
theorem rows_local_cart :
    Accepted cart ∧
    (∃ (next last : Regulator ℚ) (first second : Trajectories ℚ),
      cartArguments.stored.rebuild cartSample cartTrajectories cartArguments.out =
        .ok (next, first) ∧
      otherCartArguments.stored.rebuild otherCartArguments.sample otherCartArguments.pair
        otherCartArguments.out = .ok (last, second) ∧
      first.state.rowAt 0 = second.state.rowAt 0) ∧
    ∃ (next last : Regulator ℚ) (first second : Trajectories ℚ),
      cartArguments.stored.defects cartSample cartTrajectories cartArguments.out =
        .ok (next, first) ∧
      otherCartArguments.stored.defects otherCartArguments.sample otherCartArguments.pair
        otherCartArguments.out = .ok (last, second) ∧
      first.state.rowAt 0 = second.state.rowAt 0 := by
  have course := sameCourse_cart
  obtain ⟨⟨next, last, first, second, ran, ranOther, rebuilt⟩,
    ⟨after, done, third, fourth, ranDefects, ranOtherDefects, defects⟩, _⟩ :=
    rows_local accepted_cart cartArguments otherCartArguments
  refine ⟨accepted_cart, ⟨next, last, first, second, ran, ranOther, ?_⟩,
    after, done, third, fourth, ranDefects, ranOtherDefects, ?_⟩
  · exact rebuilt.state 0 Nat.two_pos course 0 le_rfl
  · exact defects.state 0 Nat.two_pos course.time (course.inputs 0 le_rfl) course.state
      (course.targets 0 le_rfl)

end Cart

end RecedingHorizon.Regulator
