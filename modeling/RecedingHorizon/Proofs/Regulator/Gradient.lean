/-
**The residual is the gradient of the cost.**

The discretised problem has the cost

  `½ x_Nᵀ S x_N + Δτ ∑ (½ x_iᵀ Q x_i + ½ u_iᵀ R u_i + ρ_iᵀ (E u_i - e))`

along the states that shooting finds. It is quadratic in the decision, and its linear part at a
decision is the stationarity residual there, times `Δτ`: the costates carry the derivatives of the
cost by the states back to the inputs.

* `cost` is the cost along given states, and `stageCost` that of a stage;
* `stageCost_add` expands the cost of a stage, and `pairing_shotResidual` gathers the linear parts
  of all stages in the residual;
* `cost_increment` is the expansion of the cost.
-/

import Mathlib.Algebra.Order.Field.Basic
import RecedingHorizon.Proofs.Regulator.Adjoint

set_option linter.unusedSectionVars false

namespace RecedingHorizon.Regulator

universe u

variable {K : Type u}

/-! ### The cost -/

section Cost

variable [Field K]

/-- The cost of a stage, `½ xᵀ Q x + ½ uᵀ R u + ρᵀ (E u - e)`. -/
def stageCost (model : Regulator K) (target : Vec K) (start input multiplier : ℕ → K) : K :=
  1 / 2 * model.stateWeight.form start start + 1 / 2 * model.inputWeight.form input input +
    Vec.pairing model.multipliers multiplier (model.constraintMatrix.linear input - target.coord)

/-- The derivative of the cost of a stage at `x`, `u` and `ρ` in the direction of `z`, `v` and
`σ`. -/
def stageSlope (model : Regulator K) (target : Vec K) (x z u v ρ σ : ℕ → K) : K :=
  model.stateWeight.form z x + (model.inputWeight.form v u + model.constraintMatrix.form ρ v +
    Vec.pairing model.multipliers σ (model.constraintMatrix.linear u - target.coord))

/-- **The cost of a decision** from a state, along a trajectory `x_1, …, x_N`, if the inputs are to
satisfy `E u = e` for the target `e`. -/
def cost (model : Regulator K) (target : Vec K) (span : K) (initial decision : Vec K)
    (states : Mat K) : K :=
  1 / 2 * model.terminalWeight.form (startCoord initial states model.stages)
      (startCoord initial states model.stages) +
    span * ∑ stage ∈ Finset.range model.stages,
      model.stageCost target (startCoord initial states stage)
        (model.inputsOf decision stage).coord (model.multipliersOf decision stage).coord

end Cost

/-! ### Expansion -/

section Expansion

variable [Field K] [LinearOrder K] [IsStrictOrderedRing K] {model : Regulator K}

theorem half_form_add {matrix : Mat K} (symmetric : matrix.Symmetric) (x z : ℕ → K) :
    1 / 2 * matrix.form (z + x) (z + x) =
      1 / 2 * matrix.form x x + matrix.form z x + 1 / 2 * matrix.form z z := by
  rw [add_comm z x, symmetric.form_add_add]
  ring

/-- **The cost of a stage expands** into the cost before, its derivative, and the cost of the
increment alone under a constraint with target zero. -/
theorem stageCost_add (sound : model.Sound) (symmetric : model.Symmetric) (target : Vec K)
    (x z u v ρ σ : ℕ → K) :
    model.stageCost target (z + x) (v + u) (σ + ρ) =
      model.stageCost target x u ρ + model.stageSlope target x z u v ρ σ +
        model.stageCost (Vec.zeros model.multipliers) z v σ := by
  have rows : model.constraintMatrix.rows = model.multipliers :=
    congrArg Prod.fst (shape_constraintMatrix sound)
  have multipliers : Vec.pairing model.multipliers ρ (model.constraintMatrix.linear v) =
      model.constraintMatrix.form ρ v := by
    rw [← rows, Mat.pairing_linear]
  unfold stageCost stageSlope
  rw [half_form_add symmetric.stateWeight, half_form_add symmetric.inputWeight]
  simp only [map_add, Vec.pairing_add, Vec.pairing_sub, Vec.add_pairing, multipliers,
    Vec.coord_zeros, Vec.pairing_zero]
  ring

end Expansion

/-! ### The linear part -/

section Gradient

variable [Field K] [LinearOrder K] [ScalarFunctions K] {model : Regulator K} (sound : model.Sound)
  {sample : Sample K} (fits : sample.Fits model.dimensions) {increment : Vec K}
  (long : increment.size = model.dimensions.decisionSize)
include sound fits long

/-- **The residual gathers the linear parts of all stages**, that of the end included. -/
theorem pairing_shotResidual :
    let span := model.stageSpan sample.time
    let motion := startCoord (Vec.zeros model.state)
      (model.shot (model.atRest sample.time increment)).state
    let path := startCoord sample.state (model.shot sample).state
    span * Vec.pairing model.dimensions.decisionSize (model.shotResidual sample).coord
        increment.coord =
      model.terminalWeight.form (motion model.stages) (path model.stages) +
        span * ∑ stage ∈ Finset.range model.stages,
          model.stageSlope model.constraintTarget (path stage) (motion stage)
            (model.inputsOf sample.decision stage).coord (model.inputsOf increment stage).coord
            (model.multipliersOf sample.decision stage).coord
            (model.multipliersOf increment stage).coord := by
  intro span motion path
  have shotFits := fits_shot sound fits
  have still := solves_shot sound (fits_atRest sample.time long)
  have rest : motion 0 = 0 := Vec.coord_zeros _
  have moves : ∀ stage, stage < model.stages → motion (stage + 1) =
      motion stage + span • model.dynamics.linear (motion stage) +
        span • model.inputMap.linear (model.inputsOf increment stage).coord := by
    intro stage below
    rw [linear_inputsOf rfl, add_assoc, ← smul_add]
    exact still.state stage below
  have driven := (solves_shot sound fits).pairing_costates sound rest moves
  have residual := (evaluations_stationarity sound fits shotFits).pairing sound fits.decision
    shotFits.costate increment
  simp only [Vec.smul_pairing, ← Finset.mul_sum] at driven
  rw [Vec.pairing_comm]
  refine (congrArg (span * ·) residual).trans ?_
  simp only [stageSlope, Finset.sum_add_distrib, mul_add]
  rw [driven]
  ring

end Gradient

/-! ### The whole cost -/

section Whole

variable [Field K] [LinearOrder K] [IsStrictOrderedRing K] [ScalarFunctions K]
  {model : Regulator K}

/-- The cost of a moved decision, in terms of the trajectories that shooting finds. -/
theorem cost_shot_moved (sound : model.Sound) (symmetric : model.Symmetric) {sample : Sample K}
    (fits : sample.Fits model.dimensions) {increment : Vec K}
    (long : increment.size = model.dimensions.decisionSize) :
    let span := model.stageSpan sample.time
    let moved := Vec.moved 1 increment sample.decision
    model.cost model.constraintTarget span sample.state moved
        (model.shot { sample with decision := moved }).state =
      model.cost model.constraintTarget span sample.state sample.decision
          (model.shot sample).state +
        span * Vec.pairing model.dimensions.decisionSize (model.shotResidual sample).coord
          increment.coord +
        model.cost (Vec.zeros model.multipliers) span (Vec.zeros model.state) increment
          (model.shot (model.atRest sample.time increment)).state := by
  intro span moved
  have same : increment.size = sample.decision.size := long.trans fits.decision.symm
  -- states, inputs and multipliers are those before, plus those of the increment
  have starts := fun stage (within : stage ≤ model.stages) =>
    startCoord_shot_moved sound 1 fits long within
  have inputs : ∀ stage, (model.inputsOf moved stage).coord =
      (model.inputsOf increment stage).coord + (model.inputsOf sample.decision stage).coord :=
    fun stage => (Vec.coord_block_moved 1 same _ _).trans (by rw [one_smul]; rfl)
  have multipliers : ∀ stage, (model.multipliersOf moved stage).coord =
      (model.multipliersOf increment stage).coord +
        (model.multipliersOf sample.decision stage).coord :=
    fun stage => (Vec.coord_block_moved 1 same _ _).trans (by rw [one_smul]; rfl)
  simp only [one_smul] at starts
  let path := startCoord sample.state (model.shot sample).state
  let motion := startCoord (Vec.zeros model.state)
    (model.shot (model.atRest sample.time increment)).state
  have stages : ∀ stage ∈ Finset.range model.stages, model.stageCost model.constraintTarget
      (startCoord sample.state (model.shot { sample with decision := moved }).state stage)
      (model.inputsOf moved stage).coord (model.multipliersOf moved stage).coord =
      model.stageCost model.constraintTarget (motion stage + path stage)
        ((model.inputsOf increment stage).coord + (model.inputsOf sample.decision stage).coord)
        ((model.multipliersOf increment stage).coord +
          (model.multipliersOf sample.decision stage).coord) :=
    fun stage inside => by
      rw [starts stage (Finset.mem_range.mp inside).le, inputs, multipliers]
  unfold cost
  rw [starts _ le_rfl, half_form_add symmetric.terminalWeight, Finset.sum_congr rfl stages]
  simp only [stageCost_add sound symmetric, Finset.sum_add_distrib]
  rw [mul_add, mul_add, pairing_shotResidual sound fits long]
  ring

/-- **The cost of a moved decision.** Let the weights be symmetric. On any model that was accepted,
the cost of a moved decision is the cost before, plus `Δτ` times the stationarity residual paired
with the increment, plus the cost of the increment from the state zero under a constraint with
target zero. Each of the costs is taken along the states that shooting finds, and the residual is
evaluated along the trajectories that it finds at the decision before. -/
theorem cost_increment (accepted : Accepted model) (symmetric : model.Symmetric)
    {sample : Sample K} (fits : sample.Fits model.dimensions) {increment out : Vec K}
    (long : increment.size = model.dimensions.decisionSize)
    (room : out.size = model.dimensions.decisionSize) :
    ∃ (first second third : Regulator K) (base moved still : Trajectories K) (residual : Vec K),
      model.shootResidual sample out = .ok (first, base, residual) ∧
      model.shoot { sample with decision := Vec.moved 1 increment sample.decision } =
        .ok (second, moved) ∧
      model.shoot { sample with state := Vec.zeros model.state, decision := increment } =
        .ok (third, still) ∧
      let span := model.horizon.length sample.time / (model.stages : K)
      model.cost model.constraintTarget span sample.state
          (Vec.moved 1 increment sample.decision) moved.state -
          model.cost model.constraintTarget span sample.state sample.decision base.state =
        span * Vec.pairing model.dimensions.decisionSize residual.coord increment.coord +
          model.cost (Vec.zeros model.multipliers) span (Vec.zeros model.state) increment
            still.state := by
  have sound := accepted.sound
  have movedFits : Sample.Fits
      { sample with decision := Vec.moved 1 increment sample.decision } model.dimensions :=
    ⟨fits.state, Vec.size_moved_of_size long fits.decision⟩
  obtain ⟨first, ranFirst⟩ := shootResidual_value sound fits room
  obtain ⟨second, ranSecond, _⟩ := shoot_value sound movedFits
  obtain ⟨third, ranThird, _⟩ := shoot_value sound (fits_atRest sample.time long)
  refine ⟨first, second, third, _, _, _, _, ranFirst, ranSecond, ranThird, ?_⟩
  rw [sub_eq_iff_eq_add', ← add_assoc]
  exact cost_shot_moved sound symmetric fits long

end Whole

/-- The weights of the cart are symmetric. -/
theorem symmetric_cart : cart.Symmetric where
  stateWeight := ⟨rfl, fun row col => by
    show (Mat.ofFn 2 2 _).get row col = (Mat.ofFn 2 2 _).get col row
    rw [Mat.get_ofFn, Mat.get_ofFn]
    simp [and_comm, eq_comm]⟩
  inputWeight := ⟨rfl, fun row col => by
    show (Mat.ofFn 1 1 _).get row col = (Mat.ofFn 1 1 _).get col row
    rw [Mat.get_ofFn, Mat.get_ofFn]
    simp [and_comm]⟩
  terminalWeight := ⟨rfl, fun row col => by
    show (Mat.ofFn 2 2 _).get row col = (Mat.ofFn 2 2 _).get col row
    rw [Mat.get_ofFn, Mat.get_ofFn]
    simp [and_comm, eq_comm]⟩

/-- The cost of the cart changes with the force. -/
theorem cost_increment_cart :
    cart.Symmetric ∧ ∃ (first : Regulator ℚ) (base moved still : Trajectories ℚ)
      (residual : Vec ℚ),
      cart.shootResidual cartSample (Vec.zeros 4) = .ok (first, base, residual) ∧
      let span := cart.horizon.length cartSample.time / (cart.stages : ℚ)
      cart.cost cart.constraintTarget span cartSample.state
          (Vec.moved 1 #[1, 0, -1, 2] cartSample.decision) moved.state -
          cart.cost cart.constraintTarget span cartSample.state cartSample.decision base.state =
        span * Vec.pairing cart.dimensions.decisionSize residual.coord
            (Vec.coord #[1, 0, -1, 2]) +
          cart.cost (Vec.zeros cart.multipliers) span (Vec.zeros cart.state) #[1, 0, -1, 2]
            still.state := by
  obtain ⟨first, _, _, base, moved, still, residual, ran, _, _, expansion⟩ :=
    cost_increment accepted_cart symmetric_cart fits_cartSample
      (rfl : (#[1, 0, -1, 2] : Vec ℚ).size = cart.dimensions.decisionSize)
      (rfl : (Vec.zeros 4 : Vec ℚ).size = cart.dimensions.decisionSize)
  exact ⟨symmetric_cart, first, base, moved, still, residual, ran, expansion⟩

end RecedingHorizon.Regulator
