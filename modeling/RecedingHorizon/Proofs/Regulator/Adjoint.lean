/-
**The costates as adjoints.**

The sweep back over the costates is the adjoint of the sweep over the states: paired with the
costates, what drives a motion adds up to the motion itself, weighed as the cost weighs it. This
is a summation by parts over the stages, with the index shift that a costate `Λ_i` belongs to the
state `x_{i+1}`.

* `Solves.pairing_costates` is the summation by parts, for any motion that starts at rest;
* `pairing_blockCoord` pairs the block of a stage with that of a direction, and
  `StationarityBlocks.pairing` the whole residual, stage by stage.
-/

import RecedingHorizon.Proofs.Dense.Forms
import RecedingHorizon.Proofs.Regulator.Shooting

set_option linter.unusedSectionVars false

namespace RecedingHorizon.Regulator

universe u

variable {K : Type u} [CommRing K]

/-! ### Summation by parts -/

section Costates

variable {model : Regulator K} (sound : model.Sound) {span : K} {initial decision : Vec K}
  {pair : Trajectories K} (solves : model.Solves span initial decision pair)
  {motion drive : ℕ → ℕ → K} (rest : motion 0 = 0)
  (moves : ∀ stage, stage < model.stages →
    motion (stage + 1) = motion stage + span • model.dynamics.linear (motion stage) + drive stage)
include sound solves rest moves

/-- The sum up to a stage: what the motion has gathered, and its pairing with the costate there. -/
theorem Solves.pairing_costates_upTo (stage : ℕ) (below : stage < model.stages) :
    ∑ row ∈ Finset.range (stage + 1),
        Vec.pairing model.state (drive row) (pair.costate.get row) =
      Vec.pairing model.state (motion (stage + 1)) (pair.costate.get stage) +
        span * ∑ row ∈ Finset.range stage,
          model.stateWeight.form (motion (row + 1)) (pair.state.get row) := by
  have weight : model.stateWeight.rows = model.state := congrArg Prod.fst sound.stateWeight
  induction stage with
  | zero =>
    rw [moves 0 below, rest]
    simp
  | succ stage hypothesis =>
    have transpose := Mat.pairing_transposeLinear model.dynamics
      (pair.costate.get (stage + 1)) (motion (stage + 1))
    rw [sound.dynamics, Vec.pairing_comm] at transpose
    have forward : Vec.pairing model.state (model.dynamics.linear (motion (stage + 1)))
        (pair.costate.get (stage + 1)) =
        model.dynamics.form (pair.costate.get (stage + 1)) (motion (stage + 1)) :=
      Vec.pairing_comm _ _ _
    have gathered : Vec.pairing model.state (motion (stage + 1))
        (model.stateWeight.linear (pair.state.get stage)) =
        model.stateWeight.form (motion (stage + 1)) (pair.state.get stage) := by
      rw [← weight, Mat.pairing_linear]
    rw [Finset.sum_range_succ, hypothesis (Nat.lt_of_succ_lt below), moves (stage + 1) below,
      solves.costate stage (by omega), Finset.sum_range_succ _ stage]
    simp only [Vec.add_pairing, Vec.smul_pairing, Vec.pairing_add, Vec.pairing_smul, transpose,
      forward, gathered]
    ring

/-- **Summation by parts.** Let a motion start at rest, and follow the dynamics with some drive.
Paired with the costates, the drives add up to the motion, paired with the weighted states. -/
theorem Solves.pairing_costates :
    ∑ stage ∈ Finset.range model.stages,
        Vec.pairing model.state (drive stage) (pair.costate.get stage) =
      model.terminalWeight.form (motion model.stages)
          (startCoord initial pair.state model.stages) +
        span * ∑ stage ∈ Finset.range model.stages,
          model.stateWeight.form (motion stage) (startCoord initial pair.state stage) := by
  have weight : model.terminalWeight.rows = model.state := congrArg Prod.fst sound.terminalWeight
  obtain ⟨last, next⟩ := Nat.exists_eq_add_one.mpr sound.stages
  have sum := solves.pairing_costates_upTo sound rest moves last (by omega)
  have terminal := solves.terminal
  have place : model.stages - 1 = last := by omega
  rw [place] at terminal
  rw [terminal, ← weight, Mat.pairing_linear] at sum
  -- the motion is at rest on the first stage, which therefore has no share in the sum
  have shifted : ∑ stage ∈ Finset.range (last + 1),
      model.stateWeight.form (motion stage) (startCoord initial pair.state stage) =
      ∑ stage ∈ Finset.range last,
        model.stateWeight.form (motion (stage + 1)) (pair.state.get stage) := by
    rw [Finset.sum_range_succ' _ last, rest, Mat.zero_form, add_zero]
    rfl
  rw [next, shifted, ← weight]
  exact sum

end Costates

/-! ### Blocks -/

section Blocks

variable {model : Regulator K} (sound : model.Sound)
include sound

/-- The multipliers, from the block of a stage. -/
def multiplierCoord (model : Regulator K) (block : ℕ → K) : ℕ → K :=
  fun row => block (model.input + row)

omit sound in
/-- The block of a stage, with the constraint as a matrix that may have no rows. -/
theorem blockCoord_eq (block costate : ℕ → K) {index : ℕ} (inside : index < model.width) :
    model.blockCoord block costate index =
      if index < model.input then
        (model.inputWeight.linear block + model.inputMap.transposeLinear costate +
          model.constraintMatrix.transposeLinear (model.multiplierCoord block)) index
      else
        (model.constraintMatrix.linear block - model.constraintTarget.coord)
          (index - model.input) := by
  unfold blockCoord constraintMatrix constraintTarget
  cases given : model.constraint with
  | some constraint => rfl
  | none =>
    have above : index < model.input := by
      rwa [width_eq, multipliers_of_none given, Nat.add_zero] at inside
    simp [above, Mat.transposeLinear_apply, Mat.zeros]

theorem shape_constraintMatrix :
    model.constraintMatrix.shape = (model.multipliers, model.input) := by
  unfold constraintMatrix
  cases given : model.constraint with
  | none =>
    rw [multipliers_of_none given]
    rfl
  | some constraint =>
    rw [multipliers_of_some given, ← (sound.constraint constraint given).1]
    rfl

/-- **The block of a stage, paired with the block of a direction**: the gradient with the inputs,
and the residual of the constraint with the multipliers. -/
theorem pairing_blockCoord (direction block costate : ℕ → K) :
    Vec.pairing model.width direction (model.blockCoord block costate) =
      model.inputWeight.form direction block +
        Vec.pairing model.state (model.inputMap.linear direction) costate +
        model.constraintMatrix.form (model.multiplierCoord block) direction +
        Vec.pairing model.multipliers (model.multiplierCoord direction)
          (model.constraintMatrix.linear block - model.constraintTarget.coord) := by
  have weight : model.inputWeight.rows = model.input := congrArg Prod.fst sound.inputWeight
  have gradient : Vec.pairing model.input direction
      (model.inputWeight.linear block + model.inputMap.transposeLinear costate) =
      model.inputWeight.form direction block +
        Vec.pairing model.state (model.inputMap.linear direction) costate := by
    have transpose := Mat.pairing_transposeLinear model.inputMap costate direction
    have forward := Mat.pairing_linear model.inputMap costate direction
    rw [sound.inputMap] at forward
    rw [Vec.pairing_add, ← weight, Mat.pairing_linear, weight, Vec.pairing_comm _ _ costate,
      forward, ← transpose, Vec.pairing_comm]
    rfl
  obtain ⟨_, cols⟩ := Prod.mk.inj (shape_constraintMatrix sound)
  have multipliers := Mat.pairing_transposeLinear model.constraintMatrix
    (model.multiplierCoord block) direction
  rw [cols, Vec.pairing_comm] at multipliers
  have upper : ∀ index, index < model.input → model.blockCoord block costate index =
      (model.inputWeight.linear block + model.inputMap.transposeLinear costate +
        model.constraintMatrix.transposeLinear (model.multiplierCoord block)) index := by
    intro index inside
    rw [blockCoord_eq _ _ (by rw [width_eq]; omega), if_pos inside]
  have lower : ∀ row, row < model.multipliers →
      model.blockCoord block costate (model.input + row) =
        (model.constraintMatrix.linear block - model.constraintTarget.coord) row := by
    intro row inside
    rw [blockCoord_eq _ _ (by rw [width_eq]; omega), if_neg (by omega), Nat.add_sub_cancel_left]
  rw [width_eq, Vec.pairing_length_add, Vec.pairing_congr (fun _ _ => rfl) upper,
    Vec.pairing_congr (fun _ _ => rfl) lower, Vec.pairing_add, gradient, multipliers]
  rfl

/-! ### The whole residual -/

omit sound in
theorem coord_inputsOf (decision : Vec K) (stage : ℕ) {index : ℕ} (inside : index < model.input) :
    (model.inputsOf decision stage).coord index = model.stageCoord decision stage index := by
  unfold inputsOf stageCoord
  rw [Vec.coord_block, if_pos inside]

omit sound in
theorem coord_multipliersOf (decision : Vec K) (stage : ℕ) {row : ℕ}
    (inside : row < model.multipliers) :
    (model.multipliersOf decision stage).coord row =
      model.multiplierCoord (model.stageCoord decision stage) row := by
  unfold multipliersOf multiplierCoord stageCoord
  rw [Vec.coord_block, if_pos inside, Nat.add_assoc]

/-- **The residual, paired with a direction**, stage by stage. -/
theorem StationarityBlocks.pairing {decision residual : Vec K} {costates : Mat K}
    (blocks : model.StationarityBlocks decision costates residual)
    (long : decision.size = model.dimensions.decisionSize)
    (shape : costates.shape = (model.stages, model.state)) (direction : Vec K) :
    Vec.pairing model.dimensions.decisionSize direction.coord residual.coord =
      ∑ stage ∈ Finset.range model.stages,
        (model.inputWeight.form (model.inputsOf direction stage).coord
            (model.inputsOf decision stage).coord +
          Vec.pairing model.state (model.inputMap.linear (model.inputsOf direction stage).coord)
            (costates.get stage) +
          model.constraintMatrix.form (model.multipliersOf decision stage).coord
            (model.inputsOf direction stage).coord +
          Vec.pairing model.multipliers (model.multipliersOf direction stage).coord
            (model.constraintMatrix.linear (model.inputsOf decision stage).coord -
              model.constraintTarget.coord)) := by
  obtain ⟨weightRows, weightCols⟩ := Prod.mk.inj sound.inputWeight
  obtain ⟨rows, cols⟩ := Prod.mk.inj (shape_constraintMatrix sound)
  show Vec.pairing (model.stages * model.width) _ _ = _
  rw [Vec.pairing_length_mul]
  refine Finset.sum_congr rfl fun stage inside => ?_
  have below := Finset.mem_range.mp inside
  rw [Vec.pairing_congr (fun _ _ => rfl) fun _ within => blocks.coord sound long shape below within,
    linear_inputsOf rfl, linear_inputsOf cols,
    Mat.form_congr (fun _ below => coord_inputsOf direction stage (weightRows ▸ below))
      fun _ below => coord_inputsOf decision stage (weightCols ▸ below),
    Mat.form_congr (fun _ below => coord_multipliersOf decision stage (rows ▸ below))
      fun _ below => coord_inputsOf direction stage (cols ▸ below),
    Vec.pairing_congr (fun _ below => coord_multipliersOf direction stage below) fun _ _ => rfl]
  exact pairing_blockCoord sound _ _ _

end Blocks

/-! ### Symmetric weights -/

/-- The weights of the cost are symmetric. -/
structure Symmetric (model : Regulator K) : Prop where
  stateWeight : model.stateWeight.Symmetric
  inputWeight : model.inputWeight.Symmetric
  terminalWeight : model.terminalWeight.Symmetric

end RecedingHorizon.Regulator
