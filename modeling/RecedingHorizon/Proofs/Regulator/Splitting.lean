/-
**Prediction continues what shooting began.**

Shooting takes one Euler step per stage, and so does the prediction: from where a stage starts, with
the block of the stage in front, it finds where the stage ends. The stages from any one on are a
problem of their own, over their part of the horizon, and shooting from where they start finds the
last rows of both trajectories.

* `Regulator.lastStages` is the problem of the stages from `first` on, and `build_lastStages` says
  that the constructor accepts it;
* `Regulator.sampleFrom` is the sample of these stages;
* `shooting_splits` says both of every sample, in exact arithmetic.
-/

import RecedingHorizon.Proofs.Regulator.Locality
import RecedingHorizon.Proofs.Regulator.Shooting

set_option linter.unusedSectionVars false

namespace RecedingHorizon

universe u

variable {K : Type u}

/-! ### A part of the horizon -/

namespace Horizon

/-- The settings with a multiple of the final length. -/
def Settings.stretch [Mul K] (factor : K) (settings : Settings K) : Settings K :=
  { settings with finalLength := settings.finalLength * factor }

/-- The same horizon, with a multiple of the final length. -/
def stretch [Mul K] (factor : K) (horizon : Horizon K) : Horizon K where
  settings := horizon.settings.stretch factor

/-- **The length at any time is stretched like the final length.** -/
theorem length_stretch [Field K] [LinearOrder K] [ScalarFunctions K] (factor : K)
    (horizon : Horizon K) (time : K) :
    (horizon.stretch factor).length time = horizon.length time * factor := by
  unfold length
  simp only [ite_mul, zero_mul]
  rw [mul_right_comm]
  rfl

theorem validate_stretch [Field K] [LinearOrder K] [IsStrictOrderedRing K] [ScalarFunctions K]
    {factor : K} (positive : 0 < factor) {settings : Settings K}
    (finite : ScalarFunctions.isFinite (settings.finalLength * factor) = true)
    (valid : settings.validate = .ok ()) : (settings.stretch factor).validate = .ok () := by
  obtain ⟨⟨_, long⟩, rate, origin⟩ := Settings.validate_eq_ok_iff.mp valid
  exact Settings.validate_eq_ok_iff.mpr ⟨⟨finite, mul_pos long positive⟩, rate, origin⟩

end Horizon

namespace Regulator

/-! ### The last stages -/

/-- The part of the horizon that the stages from `first` on make up. -/
def share [NatCast K] [Div K] (model : Regulator K) (first : ℕ) : K :=
  ((model.stages - first : ℕ) : K) / (model.stages : K)

/-- **The problem of the stages from `first` on**: the same matrices and constraint, over their part
of the horizon. -/
def lastStages [NatCast K] [Mul K] [Div K] (model : Regulator K) (first : ℕ) : Regulator K :=
  { model with
    horizon := model.horizon.stretch (model.share first)
    stages := model.stages - first }

/-- The sample of the stages from `first` on: the state that they start at, and their blocks of the
decision. -/
def sampleFrom (model : Regulator K) (sample : Sample K) (states : Mat K) (first : ℕ) :
    Sample K where
  time := sample.time
  state := startAt sample.state states first
  decision := sample.decision.block (first * model.width) ((model.stages - first) * model.width)

section Shapes

variable [Zero K] [One K] [Add K] [Mul K] [Div K] [NatCast K] {model : Regulator K} {first : ℕ}

/-- Without the first stages, the data still fit together. -/
theorem Sound.lastStages (sound : model.Sound) (inside : first < model.stages) :
    (model.lastStages first).Sound :=
  { sound with stages := Nat.sub_pos_of_lt inside }

theorem fits_sampleFrom {sample : Sample K} {states : Mat K}
    (fits : sample.Fits model.dimensions) (shape : states.shape = (model.stages, model.state))
    (inside : first < model.stages) :
    (model.sampleFrom sample states first).Fits (model.lastStages first).dimensions := by
  have start : (startAt sample.state states first).size = model.state :=
    size_startAt fits.state shape inside
  refine ⟨start, ?_⟩
  have whole : first * model.width + (model.stages - first) * model.width =
      sample.decision.size := by
    rw [← Nat.add_mul, Nat.add_sub_cancel' inside.le]
    exact fits.decision.symm
  exact Vec.size_block_of_le whole.le

/-- The inputs of the last stages are those of the decision. -/
theorem inputsOf_sampleFrom {sample : Sample K} {states : Mat K} {row : ℕ}
    (inside : row < model.stages - first) :
    (model.lastStages first).inputsOf (model.sampleFrom sample states first).decision row =
      model.inputsOf sample.decision (row + first) := by
  have block : (row + 1) * model.width ≤ (model.stages - first) * model.width :=
    Nat.mul_le_mul_right _ inside
  have within : row * model.width + model.input ≤ (model.stages - first) * model.width := by
    have wide := width_eq model
    rw [Nat.succ_mul] at block
    omega
  have place : first * model.width + row * model.width = (row + first) * model.width := by
    rw [← Nat.add_mul, Nat.add_comm]
  show ((sample.decision.block _ _).block (row * model.width) model.input) =
    sample.decision.block ((row + first) * model.width) model.input
  rw [Vec.block_block within, place]

end Shapes

/-! ### Prediction and shooting -/

section Exact

variable [Field K] [LinearOrder K] [IsStrictOrderedRing K] [ScalarFunctions K]
  {model : Regulator K} {first : ℕ}

theorem share_pos (inside : first < model.stages) : 0 < model.share (K := K) first := by
  have rest : (0 : K) < ((model.stages - first : ℕ) : K) :=
    Nat.cast_pos.mpr (Nat.sub_pos_of_lt inside)
  have all : (0 : K) < (model.stages : K) := Nat.cast_pos.mpr (by omega)
  exact div_pos rest all

/-- **A stage of the last ones has the span of a stage.** -/
theorem stageSpan_lastStages (inside : first < model.stages) (time : K) :
    (model.lastStages first).stageSpan time = model.stageSpan time := by
  have rest : ((model.stages - first : ℕ) : K) ≠ 0 :=
    Nat.cast_ne_zero.mpr (Nat.sub_pos_of_lt inside).ne'
  show (model.horizon.stretch (model.share first)).length time /
    ((model.stages - first : ℕ) : K) = model.horizon.length time / (model.stages : K)
  rw [Horizon.length_stretch]
  unfold share
  rw [← mul_div_assoc, div_right_comm, mul_div_cancel_right₀ _ rest]

/-- **The constructor accepts the last stages** of a model that it accepted, as long as the part of
the final length is finite. -/
theorem build_lastStages {matrices : Matrices K} {stages : ℕ} {settings : Horizon.Settings K}
    (made : build matrices stages settings = .ok model) (inside : first < model.stages)
    (finite : ScalarFunctions.isFinite (settings.finalLength * model.share first) = true) :
    build matrices (model.stages - first) (settings.stretch (model.share first)) =
      .ok (model.lastStages first) := by
  have positive : 0 < model.share (K := K) first := share_pos inside
  obtain ⟨square, inputs, weights, inputWeight, _, valid, equal⟩ := build_eq_ok_iff.mp made
  refine build_eq_ok_iff.mpr ⟨square, inputs, weights, inputWeight,
    (Nat.sub_pos_of_lt inside).ne', Horizon.validate_stretch positive finite valid, ?_⟩
  subst equal
  rfl

section Rows

variable (sound : model.Sound) {sample : Sample K} (fits : sample.Fits model.dimensions)
include sound fits

/-- **From where a stage starts, the prediction finds where it ends.** -/
theorem predict_startAt {used : Regulator K} (storing : model.Storing used) {given : Sample K}
    {out : Vec K} (givenFits : given.Fits model.dimensions) (room : out.size = model.state)
    {stage : ℕ} (below : stage < model.stages)
    (start : given.state = startAt sample.state (model.shot sample).state stage)
    (block : given.decision.block 0 model.width =
      sample.decision.block (stage * model.width) model.width) :
    ∃ after, used.predict given (model.stageSpan sample.time) out =
      .ok (after, (model.shot sample).state.rowAt stage) := by
  obtain ⟨after, ran, _⟩ := (evaluates sound).predict used given (model.stageSpan sample.time) out
    storing givenFits room
  have inputs : model.inputsOf given.decision 0 = model.inputsOf sample.decision stage := by
    rw [inputsOf_eq_block, inputsOf_eq_block, Nat.zero_mul, block]
  have size : given.state.size = model.state := givenFits.state
  have target : (Trajectories.zeros model.dimensions).state.rowAt stage =
      (Vec.zeros model.state : Vec K) := Mat.rowAt_zeros below
  have reached : (model.shot sample).state.rowAt stage =
      Vec.moved (model.stageSpan sample.time) (model.rateOf given.decision 0 given.state)
        given.state := by
    rw [(rebuiltRows_shot sound fits).state stage below, ← start, target]
    unfold rebuiltStateOf
    rw [Vec.moved_one_onto_zeros size, rateOf_agree rfl inputs]
  refine ⟨after, ?_⟩
  rw [reached, ← evaluations_predict sound givenFits]
  exact ran

/-- **Shooting over the last stages finds the last rows.** -/
theorem rows_shot_lastStages (inside : first < model.stages) {stage : ℕ}
    (below : stage < model.stages - first) :
    let tail := (model.lastStages first).shot
      (model.sampleFrom sample (model.shot sample).state first)
    tail.state.rowAt stage = (model.shot sample).state.rowAt (stage + first) ∧
      tail.costate.rowAt stage = (model.shot sample).costate.rowAt (stage + first) := by
  intro tail
  have shape : (model.shot sample).state.shape = (model.stages, model.state) :=
    (fits_shot sound fits).state
  have whole := rebuiltRows_shot sound fits
  have part := rebuiltRows_shot (sound.lastStages inside) (fits_sampleFrom fits shape inside)
  rw [stageSpan_lastStages inside] at part
  have stages : model.stages - first + first = model.stages := Nat.sub_add_cancel inside.le
  -- the targets of both are zero
  have goal : ∀ row, row < model.stages - first →
      (Mat.zeros (model.stages - first) model.state : Mat K).rowAt row =
        (Mat.zeros model.stages model.state : Mat K).rowAt (row + first) := by
    intro row within
    rw [Mat.rowAt_zeros within, Mat.rowAt_zeros (by omega)]
  have states := whole.states_agree first (model.stages - first) part stages.le le_rfl rfl
    (fun row within => rateOf_agree rfl (inputsOf_sampleFrom within)) goal
  have costates := whole.costates_agree first 0 part rfl stages
    (fun row _ within => states row within) (fun row (_ : 0 ≤ row) => goal row)
  exact ⟨states stage below, costates stage (Nat.zero_le stage) below⟩

end Rows

/-- What storage holds shows neither in the span of a stage nor in what shooting over the last
stages finds. -/
theorem shoot_lastStages (sound : model.Sound) (inside : first < model.stages) {rest : Regulator K}
    (storing : (model.lastStages first).Storing rest) (time : K) {sample : Sample K}
    (fits : sample.Fits (model.lastStages first).dimensions) :
    rest.stageSpan time = model.stageSpan time ∧
      ∃ after, rest.shoot sample = .ok (after, (model.lastStages first).shot sample) := by
  have restSound := (sound.lastStages inside).of_storing storing
  obtain ⟨scratch, _, rfl⟩ := storing
  obtain ⟨after, ran, _⟩ := shoot_value restSound fits
  exact ⟨stageSpan_lastStages inside time, after, ran⟩

/-- **Prediction and shooting agree.** Shooting succeeds at every sample of every model that was
accepted. One prediction over the span of a stage, from the row before it (from the state of the
sample, for the first stage), along any decision that has the block of the stage in front, gives the
row of the stage. And shooting over the stages from any one on, from where that one starts, gives
the rows of these stages in both trajectories. -/
theorem shooting_splits (accepted : Accepted model) {sample : Sample K}
    (fits : sample.Fits model.dimensions) :
    ∃ (next : Regulator K) (pair : Trajectories K), model.shoot sample = .ok (next, pair) ∧
      (∀ stage, stage < model.stages → ∀ (used : Regulator K) (time : K) (decision out : Vec K),
        model.Storing used → decision.size = model.dimensions.decisionSize →
        out.size = model.state →
        decision.block 0 model.width =
          sample.decision.block (stage * model.width) model.width →
        ∃ after, used.predict
          { time, state := startAt sample.state pair.state stage, decision }
          (model.stageSpan sample.time) out = .ok (after, pair.state.rowAt stage)) ∧
      ∀ first, first < model.stages → ∀ rest, (model.lastStages first).Storing rest →
        rest.stageSpan sample.time = model.stageSpan sample.time ∧
        ∃ (after : Regulator K) (tail : Trajectories K),
          rest.shoot (model.sampleFrom sample pair.state first) = .ok (after, tail) ∧
          tail.Fits (model.lastStages first).dimensions ∧
          ∀ stage, stage < model.stages - first →
            tail.state.rowAt stage = pair.state.rowAt (stage + first) ∧
            tail.costate.rowAt stage = pair.costate.rowAt (stage + first) := by
  have sound := accepted.sound
  have shape : (model.shot sample).state.shape = (model.stages, model.state) :=
    (fits_shot sound fits).state
  obtain ⟨next, ran, _⟩ := shoot_value sound fits
  refine ⟨next, _, ran, ?_, ?_⟩
  · intro stage below used time decision out storing long room block
    exact predict_startAt sound fits storing ⟨size_startAt fits.state shape below, long⟩ room below
      rfl block
  · intro first inside rest storing
    have fitsRest := fits_sampleFrom fits shape inside
    obtain ⟨span, after, ranRest⟩ := shoot_lastStages sound inside storing sample.time fitsRest
    exact ⟨span, after, _, ranRest, fits_shot (sound.lastStages inside) fitsRest,
      fun stage below => rows_shot_lastStages sound fits inside below⟩

end Exact

/-! ### The second stage of the cart -/

/-- A decision of the cart that starts with the block of its second stage. -/
def secondDecision : Vec ℚ :=
  #[1 / 3, 4, 0, 0]

/-- The second state of the cart is predicted from the first one, and the second stage alone has the
rows of the second stage. -/
theorem shooting_splits_cart :
    Accepted cart ∧ cartSample.Fits cart.dimensions ∧
    ∃ (next after last : Regulator ℚ) (pair tail : Trajectories ℚ),
      cart.shoot cartSample = .ok (next, pair) ∧
      cart.predict { time := 0, state := pair.state.rowAt 0, decision := secondDecision }
        (cart.stageSpan (1 / 2)) (Vec.zeros 2) = .ok (after, pair.state.rowAt 1) ∧
      (cart.lastStages 1).shoot (cart.sampleFrom cartSample pair.state 1) = .ok (last, tail) ∧
      tail.state.rowAt 0 = pair.state.rowAt 1 ∧ tail.costate.rowAt 0 = pair.costate.rowAt 1 := by
  obtain ⟨next, pair, ran, predicts, splits⟩ := shooting_splits accepted_cart fits_cartSample
  obtain ⟨after, predicted⟩ := predicts 1 (Nat.lt_succ_self 1) cart 0 secondDecision (Vec.zeros 2)
    accepted_cart.sound.storing_self rfl (Vec.size_zeros 2) rfl
  obtain ⟨_, last, tail, ranRest, _, rows⟩ := splits 1 (Nat.lt_succ_self 1) (cart.lastStages 1)
    (accepted_cart.sound.lastStages (Nat.lt_succ_self 1)).storing_self
  exact ⟨accepted_cart, fits_cartSample, next, after, last, pair, tail, ran, predicted, ranRest,
    rows 0 Nat.one_pos⟩

end Regulator

end RecedingHorizon
