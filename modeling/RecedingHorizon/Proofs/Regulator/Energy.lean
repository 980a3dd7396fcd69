/-
**The energy of the operator.**

Paired with a direction, the operator is a bilinear form in two directions. It is the second
derivative of the cost, divided by the span of a stage: each direction drives a motion from rest,
and the form weighs the two motions and the two directions against each other,

  `∑ (vᵀ R v' + vᵀ Eᵀ s' + sᵀ E v') + Δτ² ∑ zᵀ Q z' + Δτ z_Nᵀ S z'_N`.

* `driven` is the motion `z_{i+1} = z_i + Δτ A z_i + B v_i`, and `startCoord_shot_atRest` finds it
  in the trajectories that shooting gives;
* `energy` is the form. `pairing_operator` is the identity, and `energy_comm` the symmetry.
-/

import RecedingHorizon.Proofs.Regulator.Adjoint
import RecedingHorizon.Proofs.Regulator.Operator

set_option linter.unusedSectionVars false

namespace RecedingHorizon.Regulator

universe u

variable {K : Type u}

/-! ### The form -/

section Form

variable [CommRing K]

/-- **The motion from rest** that the inputs of a direction drive. -/
def driven (model : Regulator K) (span : K) (direction : Vec K) : ℕ → ℕ → K
  | 0 => 0
  | stage + 1 => driven model span direction stage +
      span • model.dynamics.linear (driven model span direction stage) +
      model.inputMap.linear (model.inputsOf direction stage).coord

/-- What two directions have to do with each other on a stage. -/
def stageEnergy (model : Regulator K) (first second : Vec K) (stage : ℕ) : K :=
  model.inputWeight.form (model.inputsOf first stage).coord (model.inputsOf second stage).coord +
    model.constraintMatrix.form (model.multipliersOf second stage).coord
      (model.inputsOf first stage).coord +
    model.constraintMatrix.form (model.multipliersOf first stage).coord
      (model.inputsOf second stage).coord

/-- **The energy** of two directions, with that of the motions that they drive. -/
def energy (model : Regulator K) (span : K) (first second : Vec K) : K :=
  ∑ stage ∈ Finset.range model.stages, model.stageEnergy first second stage +
    span ^ 2 * ∑ stage ∈ Finset.Ico 1 model.stages,
      model.stateWeight.form (model.driven span first stage) (model.driven span second stage) +
    span * model.terminalWeight.form (model.driven span first model.stages)
      (model.driven span second model.stages)

/-- **The energy is symmetric**, if the weights are. -/
theorem energy_comm {model : Regulator K} (symmetric : model.Symmetric) (span : K)
    (first second : Vec K) : model.energy span first second = model.energy span second first := by
  have stages : ∀ stage ∈ Finset.range model.stages,
      model.stageEnergy first second stage = model.stageEnergy second first stage := by
    intro stage _
    unfold stageEnergy
    rw [symmetric.inputWeight.form_comm]
    exact add_right_comm _ _ _
  have states : ∀ stage ∈ Finset.Ico 1 model.stages,
      model.stateWeight.form (model.driven span first stage) (model.driven span second stage) =
        model.stateWeight.form (model.driven span second stage) (model.driven span first stage) :=
    fun _ _ => symmetric.stateWeight.form_comm _ _
  unfold energy
  rw [Finset.sum_congr rfl stages, Finset.sum_congr rfl states,
    symmetric.terminalWeight.form_comm]

end Form

/-! ### Shooting from the state zero -/

section Shooting

variable [Field K] [LinearOrder K] [ScalarFunctions K] {model : Regulator K} (sound : model.Sound)
include sound

/-- The states that shooting finds from rest are the motion that the decision drives, times the
span. -/
theorem startCoord_shot_atRest (time : K) {decision : Vec K}
    (long : decision.size = model.dimensions.decisionSize) {stage : ℕ}
    (within : stage ≤ model.stages) :
    startCoord (Vec.zeros model.state) (model.shot (model.atRest time decision)).state stage =
      model.stageSpan time • model.driven (model.stageSpan time) decision stage := by
  have solves := solves_shot sound (fits_atRest time long)
  induction stage with
  | zero => simp [startCoord, driven]
  | succ stage hypothesis =>
    have step := solves.state stage within
    have state : startCoord (model.atRest time decision).state
        (model.shot (model.atRest time decision)).state stage =
        model.stageSpan time • model.driven (model.stageSpan time) decision stage :=
      hypothesis (Nat.le_of_succ_le within)
    rw [state, ← linear_inputsOf rfl, map_smul] at step
    refine step.trans ?_
    rw [driven]
    simp only [atRest]
    module

/-- From rest, without a decision, all costates are zero. -/
theorem costate_shot_zeros (time : K) {stage : ℕ} (below : stage < model.stages) :
    (model.shot (model.atRest time (Vec.zeros model.dimensions.decisionSize))).costate.get stage =
      0 := by
  have fits : (model.atRest time (Vec.zeros model.dimensions.decisionSize)).Fits
      model.dimensions := fits_atRest time (Vec.size_zeros _)
  -- nothing is the combination of no parts
  have zeros : ∀ length, (Vec.zeros length : Vec K).coord =
      ∑ k : Fin 0, (![] : Fin 0 → K) k • ((![] : Fin 0 → Vec K) k).coord :=
    fun length => Vec.coord_zeros length
  exact (shot_combine sound time fits (fun k => k.elim0) (zeros _) (zeros _) stage below).2

end Shooting

/-! ### The identity -/

section Identity

variable [Field K] [LinearOrder K] [ScalarFunctions K] {model : Regulator K} (sound : model.Sound)
include sound

/-- What drives the first motion, paired with the costates of the second direction. -/
theorem pairing_costates_atRest (time : K) (first : Vec K) {second : Vec K}
    (long : second.size = model.dimensions.decisionSize) :
    let span := model.stageSpan time
    let costates := (model.shot (model.atRest time second)).costate
    ∑ stage ∈ Finset.range model.stages, Vec.pairing model.state
        (model.inputMap.linear (model.inputsOf first stage).coord) (costates.get stage) =
      span ^ 2 * ∑ stage ∈ Finset.Ico 1 model.stages,
          model.stateWeight.form (model.driven span first stage) (model.driven span second stage) +
        span * model.terminalWeight.form (model.driven span first model.stages)
          (model.driven span second model.stages) := by
  intro span costates
  have motions : ∀ stage ∈ Finset.range model.stages,
      model.stateWeight.form (model.driven span first stage)
          (startCoord (Vec.zeros model.state) (model.shot (model.atRest time second)).state stage) =
        span * model.stateWeight.form (model.driven span first stage)
          (model.driven span second stage) := by
    intro stage inside
    rw [startCoord_shot_atRest sound time long (Finset.mem_range.mp inside).le,
      Mat.form_smul]
  have solves : model.Solves span (Vec.zeros model.state) second
      (model.shot (model.atRest time second)) := solves_shot sound (fits_atRest time long)
  refine (solves.pairing_costates sound (rfl : model.driven span first 0 = 0)
    fun _ _ => rfl).trans ?_
  rw [Finset.sum_congr rfl motions, startCoord_shot_atRest sound time long le_rfl, Mat.form_smul,
    ← Finset.mul_sum, Finset.range_eq_Ico,
    Finset.sum_eq_sum_Ico_succ_bot sound.stages]
  -- the motions are at rest on the first stage
  simp only [driven, Mat.zero_form, zero_add]
  ring

/-- The residual from rest, paired with a direction. -/
theorem pairing_shotResidual_atRest (time : K) (direction : Vec K) {decision : Vec K}
    (long : decision.size = model.dimensions.decisionSize) :
    Vec.pairing model.dimensions.decisionSize direction.coord
        (model.shotResidual (model.atRest time decision)).coord =
      ∑ stage ∈ Finset.range model.stages,
        (model.stageEnergy direction decision stage +
          Vec.pairing model.state (model.inputMap.linear (model.inputsOf direction stage).coord)
            ((model.shot (model.atRest time decision)).costate.get stage) -
          Vec.pairing model.multipliers (model.multipliersOf direction stage).coord
            model.constraintTarget.coord) := by
  have fits := fits_atRest (K := K) time long
  have shotFits := fits_shot sound fits
  have rows : model.constraintMatrix.rows = model.multipliers :=
    congrArg Prod.fst (shape_constraintMatrix sound)
  refine ((evaluations_stationarity sound fits shotFits).pairing sound long shotFits.costate
    direction).trans (Finset.sum_congr rfl fun stage _ => ?_)
  unfold stageEnergy
  rw [Vec.pairing_sub, ← rows, Mat.pairing_linear]
  simp only [atRest]
  ring

/-- **The energy identity**: the operator, paired with a direction, is the energy. -/
theorem pairing_operator (time : K) (first : Vec K) {second : Vec K}
    (long : second.size = model.dimensions.decisionSize) :
    Vec.pairing model.dimensions.decisionSize first.coord (model.operator time second) =
      model.energy (model.stageSpan time) first second := by
  -- without a decision there is nothing but the target of the constraint
  have zero : Vec.pairing model.dimensions.decisionSize first.coord (model.shotResidual
      (model.atRest time (Vec.zeros model.dimensions.decisionSize))).coord =
      ∑ stage ∈ Finset.range model.stages, -Vec.pairing model.multipliers
        (model.multipliersOf first stage).coord model.constraintTarget.coord := by
    refine (pairing_shotResidual_atRest sound time first (Vec.size_zeros _)).trans
      (Finset.sum_congr rfl fun stage inside => ?_)
    have still : model.stageEnergy first (Vec.zeros model.dimensions.decisionSize) stage = 0 := by
      simp [stageEnergy, inputsOf, multipliersOf]
    rw [still, costate_shot_zeros sound time (Finset.mem_range.mp inside), Vec.pairing_zero,
      add_zero, zero_sub]
  unfold operator energy
  rw [Vec.pairing_sub, zero, pairing_shotResidual_atRest sound time first long,
    ← Finset.sum_sub_distrib, add_assoc, ← pairing_costates_atRest sound time first long,
    ← Finset.sum_add_distrib]
  refine Finset.sum_congr rfl fun stage _ => ?_
  ring

end Identity

end RecedingHorizon.Regulator
