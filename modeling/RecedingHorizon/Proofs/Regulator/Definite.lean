/-
**Well-posed regulators.**

A positive weight on the inputs, weights on the states that are not negative, and independent
constraints make the operator injective. The energy with a direction and its mirror image, whose
multipliers have the other sign, is that of the inputs and of the motion alone: if it is zero, there
are no inputs. The energy with the gradient of the multipliers then leaves nothing of these either.
An injective operator on a space of finite dimension has an inverse.

* `decisionOf` puts a decision together from the inputs and the multipliers of its stages;
* `WellPosed` says what is asked of the weights and of the constraint;
* `energy_mirrored` and `energy_lifted` are the two energies, `eq_zeros_of_energy` what follows;
* `existsUnique_operator`: the operator takes exactly one direction to a given vector.
-/

import Mathlib.LinearAlgebra.FiniteDimensional.Lemmas
import RecedingHorizon.Proofs.Dense.Definite
import RecedingHorizon.Proofs.Regulator.Energy

set_option linter.unusedSectionVars false

namespace RecedingHorizon.Regulator

universe u

variable {K : Type u}

/-! ### Decisions from their blocks -/

section Blocks

variable [CommRing K]

/-- The decision with the given inputs and multipliers on every stage. -/
def decisionOf (model : Regulator K) (inputs multipliers : ℕ → ℕ → K) : Vec K :=
  Vec.ofCoord model.dimensions.decisionSize fun position =>
    let index := position % model.width
    if index < model.input then inputs (position / model.width) index
    else multipliers (position / model.width) (index - model.input)

variable {model : Regulator K} {inputs multipliers : ℕ → ℕ → K} {stage : ℕ}
  (below : stage < model.stages)
include below

/-- An entry of the block of a stage. -/
theorem coord_decisionOf {index : ℕ} (inside : index < model.width) :
    (model.decisionOf inputs multipliers).coord (stage * model.width + index) =
      if index < model.input then inputs stage index
      else multipliers stage (index - model.input) := by
  have room : stage * model.width + index < model.dimensions.decisionSize :=
    Nat.lt_of_lt_of_le (Nat.add_lt_add_left inside _) (block_le_decisionSize below)
  have row : (stage * model.width + index) / model.width = stage := by
    rw [Nat.mul_comm, Nat.mul_add_div (by omega), Nat.div_eq_of_lt inside, Nat.add_zero]
  have place : (stage * model.width + index) % model.width = index := by
    rw [Nat.mul_comm, Nat.mul_add_mod, Nat.mod_eq_of_lt inside]
  unfold decisionOf
  rw [Vec.coord_ofCoord, if_pos room]
  simp only [row, place]

theorem coord_inputsOf_decisionOf :
    (model.inputsOf (model.decisionOf inputs multipliers) stage).coord =
      fun index => if index < model.input then inputs stage index else 0 := by
  funext index
  unfold inputsOf
  rw [Vec.coord_block]
  by_cases inside : index < model.input
  · rw [if_pos inside, if_pos inside, coord_decisionOf below (by rw [width_eq]; omega),
      if_pos inside]
  · rw [if_neg inside, if_neg inside]

theorem coord_multipliersOf_decisionOf :
    (model.multipliersOf (model.decisionOf inputs multipliers) stage).coord =
      fun row => if row < model.multipliers then multipliers stage row else 0 := by
  funext row
  unfold multipliersOf
  rw [Vec.coord_block]
  by_cases inside : row < model.multipliers
  · rw [if_pos inside, if_pos inside, Nat.add_assoc,
      coord_decisionOf below (by rw [width_eq]; omega),
      if_neg (by omega), Nat.add_sub_cancel_left]
  · rw [if_neg inside, if_neg inside]

/-- The block of a stage: the inputs, and behind them the multipliers. -/
theorem block_eq_append {decision : Vec K} (long : decision.size = model.dimensions.decisionSize) :
    decision.block (stage * model.width) model.width =
      model.inputsOf decision stage ++ model.multipliersOf decision stage := by
  have inside := block_le_decisionSize below
  rw [width_eq, ← Nat.add_assoc, ← width_eq] at inside
  unfold inputsOf multipliersOf
  rw [Vec.block_append (long.symm ▸ inside), ← width_eq]

omit below in
/-- A decision without inputs and multipliers is zero. -/
theorem eq_zeros_of_blocks {decision : Vec K}
    (long : decision.size = model.dimensions.decisionSize)
    (inputs : ∀ stage, stage < model.stages → (model.inputsOf decision stage).coord = 0)
    (multipliers : ∀ stage, stage < model.stages →
      (model.multipliersOf decision stage).coord = 0) :
    decision = Vec.zeros model.dimensions.decisionSize := by
  have room : (Vec.zeros model.dimensions.decisionSize : Vec K).size =
      model.dimensions.decisionSize := Vec.size_zeros _
  refine Vec.ext_block model.stages long room fun stage below => ?_
  have sameInputs : model.inputsOf decision stage =
      model.inputsOf (Vec.zeros model.dimensions.decisionSize) stage := by
    refine Vec.ext_coord ((size_inputsOf long below).trans (size_inputsOf room below).symm) ?_
    rw [inputs stage below]
    exact (Vec.coord_block_zeros _ _ _).symm
  have sameMultipliers : model.multipliersOf decision stage =
      model.multipliersOf (Vec.zeros model.dimensions.decisionSize) stage := by
    refine Vec.ext_coord
      ((size_multipliersOf long below).trans (size_multipliersOf room below).symm) ?_
    rw [multipliers stage below]
    exact (Vec.coord_block_zeros _ _ _).symm
  show decision.block (stage * model.width) model.width =
    (Vec.zeros model.dimensions.decisionSize).block (stage * model.width) model.width
  rw [block_eq_append below long, block_eq_append below room, sameInputs, sameMultipliers]

end Blocks

/-! ### Well-posed models -/

section WellPosed

variable [Field K] [LinearOrder K] [IsStrictOrderedRing K]

/-- **Well-posed models.** The weight of the inputs is positive, those of the states are not
negative, and no row of the constraint depends on the others. -/
structure WellPosed (model : Regulator K) : Prop where
  inputWeight : model.inputWeight.PositiveDefinite
  stateWeight : model.stateWeight.PositiveSemidefinite
  terminalWeight : model.terminalWeight.PositiveSemidefinite
  constraint : ∀ constraint, model.constraint = some constraint → constraint.matrix.FullRowRank

variable {model : Regulator K}

/-- Without a constraint there are no rows. -/
theorem WellPosed.constraintMatrix (posed : model.WellPosed) :
    model.constraintMatrix.FullRowRank := by
  unfold Regulator.constraintMatrix
  cases given : model.constraint with
  | some constraint => exact posed.constraint constraint given
  | none =>
    have empty : IsEmpty (Fin (Mat.zeros 0 model.input : Mat K).rows) := Fin.isEmpty
    exact linearIndependent_empty_type

end WellPosed

/-! ### Directions without energy -/

section Energy

variable [Field K] {model : Regulator K} {span : K}

/-- The direction with the same inputs, and with multipliers of the other sign. -/
def mirrored (model : Regulator K) (direction : Vec K) : Vec K :=
  model.decisionOf (fun stage => (model.inputsOf direction stage).coord)
    fun stage => -(model.multipliersOf direction stage).coord

/-- The direction whose inputs are the gradient `Eᵀ s` of the multipliers. -/
def lifted (model : Regulator K) (direction : Vec K) : Vec K :=
  model.decisionOf
    (fun stage =>
      model.constraintMatrix.transposeLinear (model.multipliersOf direction stage).coord) 0

/-- The motion belongs to the inputs. -/
theorem driven_congr {first second : Vec K}
    (same : ∀ stage, stage < model.stages →
      (model.inputsOf first stage).coord = (model.inputsOf second stage).coord) {stage : ℕ}
    (within : stage ≤ model.stages) :
    model.driven span first stage = model.driven span second stage := by
  induction stage with
  | zero => rfl
  | succ stage hypothesis =>
    rw [driven, driven, hypothesis (Nat.le_of_succ_le within), same stage within]

theorem driven_eq_zero {direction : Vec K}
    (still : ∀ stage, stage < model.stages → (model.inputsOf direction stage).coord = 0) {stage : ℕ}
    (within : stage ≤ model.stages) : model.driven span direction stage = 0 := by
  induction stage with
  | zero => rfl
  | succ stage hypothesis =>
    rw [driven, hypothesis (Nat.le_of_succ_le within), still stage within]
    simp

theorem coord_inputsOf_mirrored (direction : Vec K) {stage : ℕ} (below : stage < model.stages) :
    (model.inputsOf (model.mirrored direction) stage).coord =
      (model.inputsOf direction stage).coord := by
  unfold mirrored
  rw [coord_inputsOf_decisionOf below]
  funext index
  unfold inputsOf
  rw [Vec.coord_block]
  split <;> rfl

theorem coord_multipliersOf_mirrored (direction : Vec K) {stage : ℕ}
    (below : stage < model.stages) :
    (model.multipliersOf (model.mirrored direction) stage).coord =
      -(model.multipliersOf direction stage).coord := by
  unfold mirrored
  rw [coord_multipliersOf_decisionOf below]
  funext row
  unfold multipliersOf
  rw [Pi.neg_apply, Vec.coord_block]
  split
  · rfl
  · exact neg_zero.symm

/-- **The energy with the mirror image**: the multipliers cancel. -/
theorem energy_mirrored (direction : Vec K) :
    model.energy span (model.mirrored direction) direction =
      ∑ stage ∈ Finset.range model.stages, model.inputWeight.form
          (model.inputsOf direction stage).coord (model.inputsOf direction stage).coord +
        span ^ 2 * ∑ stage ∈ Finset.Ico 1 model.stages, model.stateWeight.form
          (model.driven span direction stage) (model.driven span direction stage) +
        span * model.terminalWeight.form (model.driven span direction model.stages)
          (model.driven span direction model.stages) := by
  have motion : ∀ stage, stage ≤ model.stages →
      model.driven span (model.mirrored direction) stage = model.driven span direction stage :=
    fun stage within => driven_congr (fun _ => coord_inputsOf_mirrored direction) within
  have stages : ∀ stage ∈ Finset.range model.stages,
      model.stageEnergy (model.mirrored direction) direction stage =
        model.inputWeight.form (model.inputsOf direction stage).coord
          (model.inputsOf direction stage).coord := by
    intro stage inside
    have below := Finset.mem_range.mp inside
    unfold stageEnergy
    rw [coord_inputsOf_mirrored direction below, coord_multipliersOf_mirrored direction below,
      Mat.neg_form]
    ring
  have states : ∀ stage ∈ Finset.Ico 1 model.stages,
      model.stateWeight.form (model.driven span (model.mirrored direction) stage)
          (model.driven span direction stage) =
        model.stateWeight.form (model.driven span direction stage)
          (model.driven span direction stage) := by
    intro stage inside
    rw [motion stage (Finset.mem_Ico.mp inside).2.le]
  unfold energy
  rw [Finset.sum_congr rfl stages, Finset.sum_congr rfl states, motion _ le_rfl]

/-- **The energy with the gradient of the multipliers**, for a direction without inputs. -/
theorem energy_lifted {direction : Vec K}
    (still : ∀ stage, stage < model.stages → (model.inputsOf direction stage).coord = 0) :
    model.energy span (model.lifted direction) direction =
      ∑ stage ∈ Finset.range model.stages, Vec.pairing model.constraintMatrix.cols
        (model.constraintMatrix.transposeLinear (model.multipliersOf direction stage).coord)
        (model.inputsOf (model.lifted direction) stage).coord := by
  have stages : ∀ stage ∈ Finset.range model.stages,
      model.stageEnergy (model.lifted direction) direction stage =
        Vec.pairing model.constraintMatrix.cols
          (model.constraintMatrix.transposeLinear (model.multipliersOf direction stage).coord)
          (model.inputsOf (model.lifted direction) stage).coord := by
    intro stage inside
    unfold stageEnergy
    rw [still stage (Finset.mem_range.mp inside), Mat.form_zero, Mat.form_zero, zero_add, add_zero,
      Mat.pairing_transposeLinear]
  have states : ∀ stage ∈ Finset.Ico 1 model.stages,
      model.stateWeight.form (model.driven span (model.lifted direction) stage)
        (model.driven span direction stage) = 0 := by
    intro stage inside
    rw [driven_eq_zero still (Finset.mem_Ico.mp inside).2.le, Mat.form_zero]
  unfold energy
  rw [Finset.sum_congr rfl stages, Finset.sum_eq_zero states, driven_eq_zero still le_rfl,
    Mat.form_zero, mul_zero, mul_zero, add_zero, add_zero]

end Energy

/-! ### The operator is injective -/

section Injective

variable [Field K] [LinearOrder K] [IsStrictOrderedRing K] {model : Regulator K}
  (sound : model.Sound) (posed : model.WellPosed) {span : K} (nonneg : 0 ≤ span)
  {direction : Vec K}
include sound posed nonneg

/-- A direction without energy against its mirror image has no inputs. -/
theorem inputs_eq_zero (zero : model.energy span (model.mirrored direction) direction = 0)
    {stage : ℕ} (below : stage < model.stages) : (model.inputsOf direction stage).coord = 0 := by
  have inputs : ∀ stage ∈ Finset.range model.stages, 0 ≤ model.inputWeight.form
      (model.inputsOf direction stage).coord (model.inputsOf direction stage).coord :=
    fun _ _ => posed.inputWeight.semidefinite _
  have states : 0 ≤ span ^ 2 * ∑ stage ∈ Finset.Ico 1 model.stages, model.stateWeight.form
      (model.driven span direction stage) (model.driven span direction stage) :=
    mul_nonneg (sq_nonneg span) (Finset.sum_nonneg fun _ _ => posed.stateWeight _)
  have terminal : 0 ≤ span * model.terminalWeight.form (model.driven span direction model.stages)
      (model.driven span direction model.stages) :=
    mul_nonneg nonneg (posed.terminalWeight _)
  rw [energy_mirrored] at zero
  have least := Finset.single_le_sum inputs (Finset.mem_range.mpr below)
  funext index
  by_cases inside : index < model.input
  · have rows : model.inputWeight.rows = model.input := congrArg Prod.fst sound.inputWeight
    exact posed.inputWeight.eq_zero (by linarith) (rows ▸ inside)
  · unfold inputsOf
    rw [Vec.coord_block, if_neg inside]
    rfl

omit nonneg in
/-- A direction without inputs and without energy against the gradient of its multipliers has no
multipliers. -/
theorem multipliers_eq_zero
    (still : ∀ stage, stage < model.stages → (model.inputsOf direction stage).coord = 0)
    (zero : model.energy span (model.lifted direction) direction = 0) {stage : ℕ}
    (below : stage < model.stages) : (model.multipliersOf direction stage).coord = 0 := by
  obtain ⟨rows, cols⟩ := Prod.mk.inj (shape_constraintMatrix sound)
  have squares : ∀ stage ∈ Finset.range model.stages,
      Vec.pairing model.constraintMatrix.cols
        (model.constraintMatrix.transposeLinear (model.multipliersOf direction stage).coord)
        (model.inputsOf (model.lifted direction) stage).coord =
      Vec.pairing model.constraintMatrix.cols
        (model.constraintMatrix.transposeLinear (model.multipliersOf direction stage).coord)
        (model.constraintMatrix.transposeLinear (model.multipliersOf direction stage).coord) := by
    intro stage inside
    refine Vec.pairing_congr (fun _ _ => rfl) fun index within => ?_
    unfold lifted
    rw [coord_inputsOf_decisionOf (Finset.mem_range.mp inside)]
    exact if_pos (cols ▸ within)
  rw [energy_lifted still, Finset.sum_congr rfl squares, Finset.sum_eq_zero_iff_of_nonneg
    fun _ _ => Vec.pairing_self_nonneg _ _] at zero
  have gradient : model.constraintMatrix.transposeLinear
      (model.multipliersOf direction stage).coord = 0 := by
    funext index
    by_cases inside : index < model.constraintMatrix.cols
    · exact Vec.eq_zero_of_pairing_self (zero stage (Finset.mem_range.mpr below)) inside
    · rw [Mat.transposeLinear_of_le (Nat.not_lt.mp inside)]
      rfl
  funext row
  by_cases inside : row < model.multipliers
  · exact posed.constraintMatrix.eq_zero gradient (rows ▸ inside)
  · unfold multipliersOf
    rw [Vec.coord_block, if_neg inside]
    rfl

/-- **A direction without energy is zero.** -/
theorem eq_zeros_of_energy (long : direction.size = model.dimensions.decisionSize)
    (zero : ∀ other, model.energy span other direction = 0) :
    direction = Vec.zeros model.dimensions.decisionSize := by
  have still : ∀ stage, stage < model.stages → (model.inputsOf direction stage).coord = 0 :=
    fun _ below => inputs_eq_zero sound posed nonneg (zero _) below
  exact eq_zeros_of_blocks long still fun _ below =>
    multipliers_eq_zero sound posed still (zero _) below

end Injective

/-! ### The operator has an inverse -/

section Inverse

variable [Field K] [LinearOrder K] [ScalarFunctions K] {model : Regulator K} (sound : model.Sound)
include sound

/-- The operator is as long as the decision. -/
theorem operator_of_le (time : K) {direction : Vec K}
    (long : direction.size = model.dimensions.decisionSize) {index : ℕ}
    (beyond : model.dimensions.decisionSize ≤ index) : model.operator time direction index = 0 := by
  have size : ∀ {decision : Vec K}, decision.size = model.dimensions.decisionSize →
      (model.shotResidual (model.atRest time decision)).size = model.dimensions.decisionSize :=
    fun given => (evaluates sound).size_stationarity _ _ (fits_atRest time given)
      (fits_shot sound (fits_atRest time given))
  unfold operator
  rw [Pi.sub_apply, Vec.coord_of_le ((size long).trans_le beyond),
    Vec.coord_of_le ((size (Vec.size_zeros _)).trans_le beyond), sub_zero]

omit [LinearOrder K] [ScalarFunctions K] sound in
/-- The kernel on vectors given by their entries. -/
theorem moved_ofFn {length : ℕ} (factor : K) (x y : Fin length → K) :
    Vec.moved factor (Array.ofFn x) (Array.ofFn y) = Array.ofFn (factor • x + y) := by
  apply Array.ext
  · rw [Vec.size_moved, Array.size_ofFn, Array.size_ofFn, Array.size_ofFn, min_self]
  · intro index _ _
    simp only [Vec.moved, Array.getElem_zipWith, Array.getElem_ofFn]
    rfl

/-- The operator as a linear map of the entries of a direction. -/
def operatorMap (time : K) : (Fin model.dimensions.decisionSize → K) →ₗ[K]
    (Fin model.dimensions.decisionSize → K) where
  toFun x index := model.operator time (Array.ofFn x) index
  map_add' x y := by
    have sum : Array.ofFn (x + y) = Vec.moved 1 (Array.ofFn y) (Array.ofFn x) := by
      rw [moved_ofFn, one_smul, add_comm]
    funext index
    rw [sum, operator_moved sound 1 time Array.size_ofFn Array.size_ofFn, one_smul]
    rfl
  map_smul' factor x := by
    have multiple : Array.ofFn (factor • x) =
        Vec.moved (factor - 1) (Array.ofFn x) (Array.ofFn x) := by
      rw [moved_ofFn, sub_smul, one_smul, sub_add_cancel]
    funext index
    rw [multiple, operator_moved sound _ time Array.size_ofFn Array.size_ofFn]
    show model.operator time (Array.ofFn x) index +
      (factor - 1) * model.operator time (Array.ofFn x) index = _
    rw [RingHom.id_apply, Pi.smul_apply, smul_eq_mul]
    ring

variable [IsStrictOrderedRing K] (posed : model.WellPosed) {time : K}
  (nonneg : 0 ≤ model.stageSpan time)
include posed nonneg

/-- **The operator takes nothing but zero to zero.** -/
theorem eq_zeros_of_operator {direction : Vec K}
    (long : direction.size = model.dimensions.decisionSize)
    (zero : model.operator time direction = 0) :
    direction = Vec.zeros model.dimensions.decisionSize := by
  refine eq_zeros_of_energy sound posed nonneg long fun other => ?_
  rw [← pairing_operator sound time other long, zero, Vec.pairing_zero]

/-- Directions with one product are one direction. -/
theorem eq_of_operator {first second : Vec K}
    (firstLong : first.size = model.dimensions.decisionSize)
    (secondLong : second.size = model.dimensions.decisionSize)
    (same : model.operator time first = model.operator time second) : first = second := by
  have size : second.size = first.size := secondLong.trans firstLong.symm
  have vanishes : model.operator time (Vec.moved (-1) second first) = 0 := by
    rw [operator_moved sound _ time firstLong secondLong, same, neg_one_smul, add_neg_cancel]
  have zeros := eq_zeros_of_operator sound posed nonneg
    (Vec.size_moved_of_size secondLong firstLong) vanishes
  refine Vec.ext_coord size.symm ?_
  have difference := congrArg Vec.coord zeros
  rw [Vec.coord_moved _ size, Vec.coord_zeros, neg_one_smul] at difference
  exact (neg_add_eq_zero.mp difference).symm

theorem injective_operatorMap : Function.Injective (operatorMap sound time) := by
  intro x y same
  have products : model.operator time (Array.ofFn x) = model.operator time (Array.ofFn y) := by
    funext index
    by_cases inside : index < model.dimensions.decisionSize
    · exact congrFun same ⟨index, inside⟩
    · rw [operator_of_le sound time Array.size_ofFn (Nat.not_lt.mp inside),
        operator_of_le sound time Array.size_ofFn (Nat.not_lt.mp inside)]
  have arrays := eq_of_operator sound posed nonneg Array.size_ofFn Array.size_ofFn products
  funext index
  have entry := congrArg (fun vector : Vec K => vector[(index : ℕ)]?) arrays
  simpa using entry

/-- **The operator takes exactly one direction to a given vector.** -/
theorem existsUnique_operator {target : Vec K}
    (size : target.size = model.dimensions.decisionSize) :
    ∃! direction : Vec K, direction.size = model.dimensions.decisionSize ∧
      model.operator time direction = target.coord := by
  obtain ⟨x, reached⟩ := LinearMap.injective_iff_surjective.mp
    (injective_operatorMap sound posed nonneg) fun index => target.coord index
  have product : model.operator time (Array.ofFn x) = target.coord := by
    funext index
    by_cases inside : index < model.dimensions.decisionSize
    · exact congrFun reached ⟨index, inside⟩
    · rw [operator_of_le sound time Array.size_ofFn (Nat.not_lt.mp inside),
        Vec.coord_of_le (size ▸ Nat.not_lt.mp inside)]
  refine ⟨Array.ofFn x, ⟨Array.size_ofFn, product⟩, ?_⟩
  rintro other ⟨long, value⟩
  exact eq_of_operator sound posed nonneg long Array.size_ofFn (value.trans product.symm)

end Inverse

end RecedingHorizon.Regulator
