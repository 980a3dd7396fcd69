/-
**What holds of every problem that rebuilds exactly.**

A problem may be nonlinear and depend on the time, the base point may be far from the trajectories
of the system, and between the preparation of a step and its use the engine may be asked for any
norms and products. As long as the evaluations of the problem are functions of their arguments and
`rebuild` is the inverse of `defects`, two things are exact:

* `advance_decays_defects`: an advance by one increment multiplies the defects by `1 - h ζ`,
  whatever the direction;
* `product_vanishes`: the product with the direction zero is zero, so that a prior direction zero
  leaves `(F - F') / h - ζ F` for the right-hand side.
-/

import RecedingHorizon.Proofs.Regulator.Inverse
import RecedingHorizon.Proofs.Tracking.Rebuilding
import RecedingHorizon.Proofs.Session.Advance
import RecedingHorizon.Proofs.Session.Observation

set_option linter.unusedSectionVars false

namespace RecedingHorizon.Session

open Tracking Regulator

universe u

/-! ### Functional problems -/

section Functional

variable {σ K ε : Type u} [Problem σ K ε] [Field K] [LinearOrder K] [ScalarFunctions K]
  {values : σ → Evaluations K} {states : σ → Prop}
  (functional : Problem.Functional values states) {sample : Sample K}
  {trajectories : Trajectories K} {prior : Vec K}
  (preparation : Preparation (ε := ε) states sample trajectories prior)
include functional

/-- **An advance by one increment stabilises the trajectories**, over every functional problem whose
rebuilt trajectories have the defects that were prescribed. Let a step be prepared anywhere and for
any prior direction, let the engine then be asked for norms and products in any number and with any
arguments, and let the step be advanced by along any direction, for one increment. The decision
moves by the increment times the direction, and the defects that the trajectories then have, at the
sample predicted one increment ahead and under the new decision, are `1 - h ζ` times those at the
base point. -/
theorem advance_decays_defects (prescribes : (values preparation.engine.problem).Prescribes)
    {direction : Vec K} (long : direction.size = preparation.engine.dimensions.decisionSize) :
    let evaluations := values preparation.engine.problem
    let settings := preparation.engine.settings
    ∃ (decision : Vec K) (pair : Trajectories K),
      decision.size = sample.decision.size ∧
      decision.coord = sample.decision.coord + settings.increment • direction.coord ∧
      evaluations.defects
          { time := sample.time + settings.increment
            state := evaluations.predict sample settings.increment
            decision } pair =
        (evaluations.defects sample trajectories).scale
          (1 - settings.increment * settings.gain) ∧
      preparation.Observed fun later => ∀ workspace : String, ∃ answer : Answer σ K ε,
        later.step (.advance preparation.name preparation.target workspace sample.decision
          direction trajectories settings.increment) = .ok answer ∧
        answer.reply = .advanced (.ok ()) decision pair := by
  intro evaluations settings
  obtain ⟨⟨sampleFits, fits, _⟩, _⟩ := preparation.value functional
  have total := preparation.total functional
  have positive : settings.increment ≠ 0 :=
    ne_of_gt (preparation.employs.tuned functional.lawful).increment_pos
  have same : direction.size = sample.decision.size := long.trans sampleFits.decision.symm
  have reaches := preparation.reaches functional long settings.increment
  exact ⟨_, _, Vec.size_moved_of_size same rfl, (Vec.coord_moved _ same).trans (add_comm _ _),
    total.defects_advanced (preparation.ready functional).dimensions sampleFits fits prescribes
      positive long,
    (preparation.observed functional).mono fun later stands workspace =>
      reaches.advance later preparation.target workspace stands⟩

/-- The product with the direction zero. -/
theorem Preparation.gives_zeros (restores : (values preparation.engine.problem).Restores) :
    preparation.Gives values (Vec.zeros preparation.engine.dimensions.decisionSize)
      (Vec.zeros preparation.engine.dimensions.decisionSize) := by
  obtain ⟨⟨sampleFits, fits, _⟩, _⟩ := preparation.value functional
  have total := preparation.total functional
  have gives :=
    preparation.gives functional (Vec.size_zeros preparation.engine.dimensions.decisionSize)
  simp only at gives
  rwa [total.product_zeros (preparation.ready functional).dimensions sampleFits fits restores]
    at gives

/-- **The product with the direction zero is zero**, over every functional problem that rebuilds
trajectories from their own defects. Let a step be prepared anywhere and for any prior direction,
and let the engine then be asked for norms and products in any number and with any arguments. The
product with the direction zero, under the decision that the step was prepared for, is zero. So if
the prior direction is zero, the right-hand side is `(F - F') / h - ζ F`, where `F` is the
stationarity residual at the base point, and `F'` that at the sample predicted one increment ahead,
along the trajectories with decayed defects. -/
theorem product_vanishes (restores : (values preparation.engine.problem).Restores) :
    let evaluations := values preparation.engine.problem
    let settings := preparation.engine.settings
    let size := preparation.engine.dimensions.decisionSize
    let ahead : Sample K :=
      { time := sample.time + settings.increment
        state := evaluations.predict sample settings.increment
        decision := sample.decision }
    let decayed := (evaluations.defects sample trajectories).scale
      (1 - settings.increment * settings.gain)
    let residual := (evaluations.stationarity sample trajectories).coord
    let reached := (evaluations.stationarity ahead (evaluations.rebuild ahead decayed)).coord
    (preparation.Observed fun later => ∀ out : Vec K, out.size = size →
      ∃ answer : Answer σ K ε,
        later.step (.multiply preparation.name preparation.target sample.decision (Vec.zeros size)
          out) = .ok answer ∧
        answer.reply = .multiplied (.ok ()) (Vec.zeros size)) ∧
    (prior = Vec.zeros size → preparation.rightHandSide.size = size ∧
      preparation.rightHandSide.coord =
        (1 / settings.increment) • (residual - reached) - settings.gain • residual) := by
  intro evaluations settings size ahead decayed residual reached
  obtain ⟨⟨sampleFits, fits, priorLong⟩, _, rightHandSide, _⟩ := preparation.value functional
  have total := preparation.total functional
  have dimensions := (preparation.ready functional).dimensions
  have gives := preparation.gives_zeros functional restores
  refine ⟨(preparation.observed functional).mono fun later stands out room =>
    gives.product later preparation.target out stands room, fun none => ?_⟩
  rw [rightHandSide]
  refine ⟨(total.size_rightHandSide dimensions settings sampleFits fits priorLong).1.trans ?_,
    total.coord_rightHandSide_zeros dimensions sampleFits fits restores none⟩
  exact (total.fits_prepared dimensions settings sampleFits fits).residual

end Functional

/-! ### Regulators -/

section Regulators

variable {K : Type u} [Field K] [LinearOrder K] [ScalarFunctions K] {model : Regulator K}

/-- Over a regulator, rebuilt trajectories have the prescribed defects. -/
theorem prescribes_of_sound (sound : model.Sound) : model.evaluations.Prescribes :=
  fun _ _ sampleFits fits => evaluations_defects_rebuild sound sampleFits fits

/-- A regulator rebuilds trajectories from their own defects. -/
theorem restores_of_sound (sound : model.Sound) : model.evaluations.Restores :=
  fun _ _ sampleFits fits => evaluations_rebuild_defects sound sampleFits fits

end Regulators

/-! ### The cart, observed -/

section Cart

/-- Three calls on an engine over the cart: a norm, and two products with a step, the first of which
is refused. -/
def cartLooks (name source : String) : List (Command (Regulator ℚ) ℚ) :=
  [.measure name cartSample cartTrajectories,
    .multiply name source #[1] (Vec.zeros 4) (Vec.zeros 4),
    .multiply name source #[0, 0, 1, 1] #[1, 2, 3, 4] (Vec.zeros 4)]

theorem observes_cartLooks (name source : String) :
    ∀ call ∈ cartLooks name source, call.Observes ∧ call.evaluates = some name := by
  intro call member
  simp only [cartLooks, List.mem_cons, List.not_mem_nil, or_false] at member
  rcases member with rfl | rfl | rfl <;> exact ⟨trivial, rfl⟩

/-- The cart is observed, and then advanced by one increment. -/
theorem advance_decays_defects_cart :
    ∃ (preparation : Preparation (ε := Horizon.Invalid ℚ) Regulator.Sound cartSample
        cartTrajectories #[1, 2, -1, 3]) (later : Session (Regulator ℚ) ℚ)
      (answers : List (Answer (Regulator ℚ) ℚ (Horizon.Invalid ℚ)))
      (answer : Answer (Regulator ℚ) ℚ (Horizon.Invalid ℚ)) (decision : Vec ℚ)
      (pair : Trajectories ℚ),
      preparation.engine = cartEngine ∧ cart.evaluations.Prescribes ∧
      preparation.answer.session.run (cartLooks preparation.name preparation.target) =
        .ok (later, answers) ∧
      later.step (.advance preparation.name preparation.target "workspace" cartSample.decision
        #[0, 1, -2, 5] cartTrajectories (1 / 10)) = .ok answer ∧
      answer.reply = .advanced (.ok ()) decision pair ∧
      cart.evaluations.defects
          { time := cartSample.time + 1 / 10
            state := cart.evaluations.predict cartSample (1 / 10)
            decision } pair =
        (cart.evaluations.defects cartSample cartTrajectories).scale (1 - 1 / 10 * 3) := by
  obtain ⟨preparation, engine⟩ := exists_cartPreparation #[1, 2, -1, 3] (by decide +kernel)
  have prescribes := prescribes_of_sound accepted_cart.sound
  have long : (#[0, 1, -2, 5] : Vec ℚ).size = preparation.engine.dimensions.decisionSize := by
    rw [engine]
    rfl
  obtain ⟨decision, pair, _, _, defects, observed⟩ := advance_decays_defects functional preparation
    (by rw [engine]; exact prescribes) long
  rw [engine] at defects observed
  obtain ⟨later, answers, ran, advances⟩ :=
    observed.after_own (observes_cartLooks preparation.name preparation.target)
  obtain ⟨answer, stepped, replied⟩ := advances "workspace"
  exact ⟨preparation, later, answers, answer, decision, pair, engine, prescribes, ran, stepped,
    replied, defects⟩

/-- The cart is observed after it has been prepared for the prior direction zero. -/
theorem product_vanishes_cart :
    ∃ (preparation : Preparation (ε := Horizon.Invalid ℚ) Regulator.Sound cartSample
        cartTrajectories (Vec.zeros 4)) (later : Session (Regulator ℚ) ℚ)
      (answers : List (Answer (Regulator ℚ) ℚ (Horizon.Invalid ℚ)))
      (answer : Answer (Regulator ℚ) ℚ (Horizon.Invalid ℚ)),
      preparation.engine = cartEngine ∧ cart.evaluations.Restores ∧
      preparation.answer.session.run (cartLooks preparation.name preparation.target) =
        .ok (later, answers) ∧
      later.step (.multiply preparation.name preparation.target cartSample.decision (Vec.zeros 4)
        #[1, 2, 3, 4]) = .ok answer ∧
      answer.reply = .multiplied (.ok ()) (Vec.zeros 4) ∧
      preparation.rightHandSide.size = 4 := by
  obtain ⟨preparation, engine⟩ := exists_cartPreparation (Vec.zeros 4) (by decide +kernel)
  have restores := restores_of_sound accepted_cart.sound
  have size : preparation.engine.dimensions.decisionSize = 4 := by
    rw [engine]
    rfl
  obtain ⟨observed, solves⟩ := product_vanishes functional preparation
    (by rw [engine]; exact restores)
  rw [size] at observed solves
  obtain ⟨later, answers, ran, multiplies⟩ :=
    observed.after_own (observes_cartLooks preparation.name preparation.target)
  obtain ⟨answer, stepped, replied⟩ := multiplies #[1, 2, 3, 4] rfl
  exact ⟨preparation, later, answers, answer, engine, restores, ran, stepped, replied,
    (solves rfl).1⟩

end Cart

end RecedingHorizon.Session
