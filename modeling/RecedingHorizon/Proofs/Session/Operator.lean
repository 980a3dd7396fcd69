/-
**The products of a step over a regulator.**

The products of a step are taken by finite differences, along trajectories that are rebuilt for
every direction. Over a regulator they are those of one linear operator, which belongs to the
problem and to the time one increment ahead, and which is a symmetric form if the weights are
symmetric.

* `Preparation.gives_operator`: a vector of the right length is the product with a direction, if its
  coordinates are those of the operator;
* `product_closed_form`: the products from two runs of shooting, at any point and for any prior
  direction, and their linearity;
* `product_energy`: the products, paired with a direction.
-/

import RecedingHorizon.Proofs.Regulator.Gradient
import RecedingHorizon.Proofs.Regulator.Energy
import RecedingHorizon.Proofs.Session.Equation
import RecedingHorizon.Proofs.Session.Settings

set_option linter.unusedSectionVars false

namespace RecedingHorizon.Session

open Tracking Regulator

universe u

/-! ### The operator gives the products -/

section Products

variable {K : Type u} [Field K] [LinearOrder K] [ScalarFunctions K]

section Preparation

variable {sample : Sample K} {trajectories : Trajectories K} {prior : Vec K}
  (preparation : Preparation (σ := Regulator K) (ε := Horizon.Invalid K) Regulator.Sound sample
    trajectories prior)

theorem Preparation.sound : preparation.engine.problem.Sound :=
  (preparation.employs.intact functional.lawful).problem

theorem Preparation.dimensions :
    preparation.engine.dimensions = preparation.engine.problem.dimensions :=
  (preparation.employs.intact functional.lawful).dimensions.symm

/-- **The product with a direction**, by coordinates. -/
theorem Preparation.exists_product {direction : Vec K}
    (long : direction.size = preparation.engine.problem.dimensions.decisionSize) :
    ∃ product : Vec K, preparation.Gives evaluations direction product ∧
      product.size = preparation.engine.problem.dimensions.decisionSize ∧
      product.coord = preparation.engine.problem.operator
        (sample.time + preparation.engine.settings.increment) direction := by
  obtain ⟨⟨sampleFits, fits, _⟩, _⟩ := preparation.value functional
  rw [preparation.dimensions] at sampleFits fits
  have positive : preparation.engine.settings.increment ≠ 0 :=
    ne_of_gt (preparation.employs.tuned functional.lawful).increment_pos
  exact ⟨_, preparation.gives functional (long.trans (by rw [preparation.dimensions])),
    size_product preparation.sound preparation.engine.settings sampleFits fits long,
    coord_product preparation.sound positive sampleFits fits long⟩

/-- A vector of the right length is the product, if it has the coordinates of the operator. -/
theorem Preparation.gives_operator {direction product : Vec K}
    (long : direction.size = preparation.engine.problem.dimensions.decisionSize)
    (size : product.size = preparation.engine.problem.dimensions.decisionSize)
    (coord : product.coord = preparation.engine.problem.operator
      (sample.time + preparation.engine.settings.increment) direction) :
    preparation.Gives evaluations direction product := by
  obtain ⟨value, gives, valueSize, valueCoord⟩ := preparation.exists_product long
  exact Vec.ext_coord (valueSize.trans size.symm) (valueCoord.trans coord.symm) ▸ gives

end Preparation

/-- **The products over a regulator in closed form.** Let a step be prepared, at any point and for
any prior direction, and write `F(d)` for the stationarity residual that two calls find, one to
shoot from the state zero under the decision `d`, one increment ahead, and one to evaluate. The
product with a direction `d` is `F(d) - F(0)`. So it is the product with that direction of any other
step over the same problem that is prepared for the same time, wherever and for whatever prior
direction; and the products are linear in the direction. -/
theorem product_closed_form {sample : Sample K} {trajectories : Trajectories K} {prior : Vec K}
    (preparation : Preparation (σ := Regulator K) (ε := Horizon.Invalid K) Regulator.Sound sample
      trajectories prior) {direction : Vec K}
    (long : direction.size = preparation.engine.problem.dimensions.decisionSize) :
    let model := preparation.engine.problem
    let size := model.dimensions.decisionSize
    let time := sample.time + preparation.engine.settings.increment
    ∃ product : Vec K, preparation.Gives evaluations direction product ∧ product.size = size ∧
      (∀ out : Vec K, out.size = size →
        ∃ (first second : Regulator K) (pair still : Trajectories K) (residual rest : Vec K),
          model.shootResidual { time, state := Vec.zeros model.state, decision := direction } out =
            .ok (first, pair, residual) ∧
          model.shootResidual
              { time, state := Vec.zeros model.state, decision := Vec.zeros size } out =
            .ok (second, still, rest) ∧
          product.coord = residual.coord - rest.coord) ∧
      (∀ {other : Sample K} {others : Trajectories K} {guess : Vec K}
        (second : Preparation (σ := Regulator K) (ε := Horizon.Invalid K) Regulator.Sound other
          others guess),
        second.engine.problem.evaluations = model.evaluations →
        other.time + second.engine.settings.increment = time →
        second.Gives evaluations direction product) ∧
      ∀ (another : Vec K) (factor : K), another.size = size →
        ∃ secondProduct : Vec K, preparation.Gives evaluations another secondProduct ∧
          preparation.Gives evaluations (Vec.moved factor another direction)
            (Vec.moved factor secondProduct product) := by
  intro model size time
  have sound := preparation.sound
  obtain ⟨product, gives, productSize, coord⟩ := preparation.exists_product long
  refine ⟨product, gives, productSize, fun out room => ?_, fun second same sameTime => ?_,
    fun another factor anotherLong => ?_⟩
  · obtain ⟨first, ran⟩ := shootResidual_value sound (fits_atRest time long) room
    obtain ⟨second, ranRest⟩ :=
      shootResidual_value sound (fits_atRest time (Vec.size_zeros _)) room
    exact ⟨first, second, _, _, _, _, ran, ranRest, coord⟩
  · have sizes : second.engine.problem.dimensions.decisionSize = size :=
      congrArg (fun evaluations : Evaluations K => evaluations.dimensions.decisionSize) same
    refine second.gives_operator (long.trans sizes.symm) (productSize.trans sizes.symm) ?_
    rw [sameTime, operator_congr same]
    exact coord
  · obtain ⟨secondProduct, secondGives, secondSize, secondCoord⟩ :=
      preparation.exists_product anotherLong
    refine ⟨secondProduct, secondGives, preparation.gives_operator
      (Vec.size_moved_of_size anotherLong long) (Vec.size_moved_of_size secondSize productSize) ?_⟩
    rw [Vec.coord_moved _ (secondSize.trans productSize.symm),
      operator_moved sound factor _ long anotherLong, coord, secondCoord, add_comm]

/-- **The energy of the products.** The product with a direction, paired with another direction, is
the energy of the two: that of their blocks on every stage, and that of the motions which they drive
from rest. So the products are self-adjoint if the weights are symmetric. -/
theorem product_energy {sample : Sample K} {trajectories : Trajectories K} {prior : Vec K}
    (preparation : Preparation (σ := Regulator K) (ε := Horizon.Invalid K) Regulator.Sound sample
      trajectories prior) {first second : Vec K}
    (firstLong : first.size = preparation.engine.problem.dimensions.decisionSize)
    (secondLong : second.size = preparation.engine.problem.dimensions.decisionSize) :
    let model := preparation.engine.problem
    let size := model.dimensions.decisionSize
    let span := model.horizon.length (sample.time + preparation.engine.settings.increment) /
      (model.stages : K)
    ∃ product secondProduct : Vec K, preparation.Gives evaluations first product ∧
      preparation.Gives evaluations second secondProduct ∧
      Vec.pairing size first.coord secondProduct.coord = model.energy span first second ∧
      (model.Symmetric → Vec.pairing size first.coord secondProduct.coord =
        Vec.pairing size product.coord second.coord) := by
  intro model size span
  have sound := preparation.sound
  obtain ⟨product, gives, _, coord⟩ := preparation.exists_product firstLong
  obtain ⟨secondProduct, secondGives, _, secondCoord⟩ := preparation.exists_product secondLong
  have energy : Vec.pairing size first.coord secondProduct.coord =
      model.energy span first second := by
    rw [secondCoord]
    exact pairing_operator sound _ first secondLong
  refine ⟨product, secondProduct, gives, secondGives, energy, fun symmetric => ?_⟩
  rw [energy, energy_comm symmetric, Vec.pairing_comm, coord]
  exact (pairing_operator sound _ second firstLong).symm

end Products

/-! ### The products of the cart -/

section Cart

/-- Two steps of the cart, from two points, have the same product with a direction. -/
theorem product_closed_form_cart :
    ∃ (preparation : Preparation (ε := Horizon.Invalid ℚ) Regulator.Sound cartSample
        cartTrajectories #[1, 2, -1, 3])
      (second : Preparation (ε := Horizon.Invalid ℚ) Regulator.Sound cartSample
        cartTrajectories (Vec.zeros 4)) (product secondProduct : Vec ℚ),
      preparation.engine = cartEngine ∧ second.engine = cartEngine ∧
      preparation.Gives evaluations #[0, 1, -2, 5] product ∧
      second.Gives evaluations #[0, 1, -2, 5] product ∧
      preparation.Gives evaluations #[3, 0, 1, 1] secondProduct ∧
      preparation.Gives evaluations (Vec.moved 7 #[3, 0, 1, 1] #[0, 1, -2, 5])
        (Vec.moved 7 secondProduct product) := by
  obtain ⟨preparation, engine⟩ := exists_cartPreparation #[1, 2, -1, 3] (by decide +kernel)
  obtain ⟨second, secondEngine⟩ := exists_cartPreparation (Vec.zeros 4) (by decide +kernel)
  have long : preparation.engine.problem.dimensions.decisionSize = 4 := by rw [engine]; rfl
  have directionLong : (#[0, 1, -2, 5] : Vec ℚ).size =
      preparation.engine.problem.dimensions.decisionSize := long.symm
  obtain ⟨product, gives, _, _, alike, linear⟩ := product_closed_form preparation directionLong
  obtain ⟨secondProduct, secondGives, both⟩ :=
    linear #[3, 0, 1, 1] 7 long.symm
  exact ⟨preparation, second, product, secondProduct, engine, secondEngine, gives,
    alike second (by rw [engine, secondEngine]) (by rw [engine, secondEngine]), secondGives, both⟩

/-- The products of the cart are self-adjoint. -/
theorem product_energy_cart :
    ∃ (preparation : Preparation (ε := Horizon.Invalid ℚ) Regulator.Sound cartSample
        cartTrajectories #[1, 2, -1, 3]) (product secondProduct : Vec ℚ),
      preparation.engine = cartEngine ∧
      preparation.Gives evaluations #[0, 1, -2, 5] product ∧
      preparation.Gives evaluations #[3, 0, 1, 1] secondProduct ∧
      Vec.pairing 4 (Vec.coord #[0, 1, -2, 5]) secondProduct.coord =
        Vec.pairing 4 product.coord (Vec.coord #[3, 0, 1, 1]) := by
  obtain ⟨preparation, engine⟩ := exists_cartPreparation #[1, 2, -1, 3] (by decide +kernel)
  have long : preparation.engine.problem.dimensions.decisionSize = 4 := by rw [engine]; rfl
  have symmetric : preparation.engine.problem.Symmetric := by
    rw [engine]
    exact symmetric_cart
  have firstLong : (#[0, 1, -2, 5] : Vec ℚ).size =
      preparation.engine.problem.dimensions.decisionSize := long.symm
  have secondLong : (#[3, 0, 1, 1] : Vec ℚ).size =
      preparation.engine.problem.dimensions.decisionSize := long.symm
  obtain ⟨product, secondProduct, gives, secondGives, _, adjoint⟩ :=
    product_energy preparation firstLong secondLong
  refine ⟨preparation, product, secondProduct, engine, gives, secondGives, ?_⟩
  rw [← long]
  exact adjoint symmetric

end Cart

end RecedingHorizon.Session
