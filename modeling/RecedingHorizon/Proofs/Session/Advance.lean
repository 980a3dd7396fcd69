/-
**Where an advance leads.**

A step can be advanced by for any time, longer or shorter than the increment, or backwards. The
advance goes from the base point of the step, to a decision and to trajectories that the step, the
direction and the time determine. Over a regulator the residuals at what is reached are known in
closed form.

* `Preparation.Reaches`: where an advance leads, whenever it is asked for before the engine moves
  on, and `Preparation.reaches` says where;
* `advance_residuals`: the residuals after an advance over a regulator, for any time.
-/

import RecedingHorizon.Proofs.Regulator.Advance
import RecedingHorizon.Proofs.Session.Operator

set_option linter.unusedSectionVars false

namespace RecedingHorizon.Session

open Tracking

universe u

/-! ### Advances that are accepted -/

namespace Preparation

variable {σ K ε : Type u} [Problem σ K ε] [Field K] [LT K] [DecidableLT K] [LE K] [DecidableLE K]
  [ScalarFunctions K] {values : σ → Evaluations K} {states : σ → Prop} {sample : Sample K}
  {trajectories : Trajectories K} {prior : Vec K}
  (preparation : Preparation (ε := ε) states sample trajectories prior)

/-- **Where an advance leads**, along a direction and for a time. The step stands in the session
that the preparation leaves, and wherever it stands, an advance from its base point is accepted and
leads to this decision and to these trajectories. -/
structure Reaches (values : σ → Evaluations K) (direction : Vec K) (elapsed : K)
    (decision : Vec K) (pair : Trajectories K) : Prop where
  stands : preparation.Stands values preparation.answer.session preparation.target
  advance : ∀ (later : Session σ K) (source workspace : String),
    preparation.Stands values later source →
    ∃ answer : Answer σ K ε, later.step (.advance preparation.name source workspace sample.decision
      direction trajectories elapsed) = .ok answer ∧
      answer.reply = .advanced (.ok ()) decision pair

/-- What the advances by the step lead to. -/
theorem reaches (functional : Problem.Functional values states) {direction : Vec K}
    (directionLong : direction.size = preparation.engine.dimensions.decisionSize) (elapsed : K) :
    let engine := preparation.engine
    let buffers := (values engine.problem).prepared engine.settings sample trajectories
    let reached := (values engine.problem).advanced engine.settings buffers sample.decision
      direction trajectories elapsed
    preparation.Reaches values direction elapsed reached.1 reached.2 := by
  intro engine buffers reached
  obtain ⟨⟨sampleFits, fits, _⟩, made, _, stands⟩ := preparation.value functional
  refine ⟨stands, fun later source workspace standing => ?_⟩
  obtain ⟨worker, found, ready, settings, dimensions, current, stepFits⟩ :=
    standing.ready functional
  have total := preparation.total functional
  have admitted : worker.admitAdvance (ε := ε) preparation.step sample.decision direction
      trajectories = .ok () := by
    rw [Engine.admitAdvance_eq_ok_iff, dimensions]
    exact ⟨current, sampleFits.decision, directionLong, fits⟩
  obtain ⟨next, _, ran⟩ := Engine.advance_value total ready elapsed admitted stepFits
  simp only [Session.step, found, standing.step]
  rw [ran]
  refine ⟨_, rfl, ?_⟩
  rw [settings, made]
  rfl

end Preparation

/-! ### Residuals -/

section Residuals

open Regulator

variable {K : Type u} [Field K] [LinearOrder K] [ScalarFunctions K]

/-- **The residuals after an advance, whatever its time.** Let a step be prepared over a regulator,
at any point and for a prior direction `p`, and let it be advanced by along a direction `D`, for a
time that is the increment `h` times a ratio `θ`. Write `F` and `R` for the stationarity residual
and the defects at the base point, `F'` and `R'` for those of the same decision and trajectories at
the sample that the model predicts one increment ahead, and `r` for what the correction `D - p`
leaves of the right-hand side. At that sample, the decision and the trajectories that are reached
have the residuals

  `(1 - θ) F' + θ ((1 - h ζ) F - h r)` and `(1 - θ) R' + θ (1 - h ζ) R`. -/
theorem advance_residuals {sample : Sample K} {trajectories : Trajectories K} {prior : Vec K}
    (preparation : Preparation (σ := Regulator K) (ε := Horizon.Invalid K) Regulator.Sound sample
      trajectories prior) {direction : Vec K}
    (long : direction.size = preparation.engine.problem.dimensions.decisionSize) (elapsed : K) :
    let values := preparation.engine.problem.evaluations
    let settings := preparation.engine.settings
    let ratio := elapsed / settings.increment
    let decay := 1 - settings.increment * settings.gain
    let ahead := fun decision : Vec K =>
      { time := sample.time + settings.increment
        state := values.predict sample settings.increment
        decision : Sample K }
    let residual := (values.stationarity sample trajectories).coord
    let residualAhead := (values.stationarity (ahead sample.decision) trajectories).coord
    let defects := values.defects sample trajectories
    let defectsAhead := values.defects (ahead sample.decision) trajectories
    ∃ (product decision : Vec K) (pair : Trajectories K),
      preparation.Gives evaluations (Vec.moved (-1) prior direction) product ∧
      preparation.Reaches evaluations direction elapsed decision pair ∧
      decision.size = sample.decision.size ∧
      decision.coord = sample.decision.coord + elapsed • direction.coord ∧
      (values.stationarity (ahead decision) pair).coord = (1 - ratio) • residualAhead +
        ratio • (decay • residual -
          settings.increment • (preparation.rightHandSide.coord - product.coord)) ∧
      ∀ stage,
        (values.defects (ahead decision) pair).state.get stage =
          (1 - ratio) • defectsAhead.state.get stage + ratio • decay • defects.state.get stage ∧
        (values.defects (ahead decision) pair).costate.get stage =
          (1 - ratio) • defectsAhead.costate.get stage +
            ratio • decay • defects.costate.get stage := by
  intro values settings ratio decay ahead residual residualAhead defects defectsAhead
  obtain ⟨⟨sampleFits, fits, priorLong⟩, _, rightHandSide, _⟩ := preparation.value functional
  rw [preparation.dimensions] at sampleFits fits priorLong
  have positive : settings.increment ≠ 0 :=
    ne_of_gt (preparation.employs.tuned functional.lawful).increment_pos
  have correctionLong := Vec.size_moved_of_size (a := -1) priorLong long
  have same : direction.size = sample.decision.size := long.trans sampleFits.decision.symm
  obtain ⟨state, costate, stationarity⟩ :=
    advanced_residuals preparation.sound sampleFits fits positive priorLong long elapsed
  rw [← rightHandSide] at stationarity
  refine ⟨_, _, _, preparation.gives functional (correctionLong.trans ?_),
    preparation.reaches functional (long.trans ?_) elapsed, Vec.size_moved_of_size same rfl,
    (Vec.coord_moved _ same).trans (add_comm _ _), stationarity,
    fun stage => ⟨state stage, costate stage⟩⟩
  · rw [preparation.dimensions]
  · rw [preparation.dimensions]

end Residuals

/-! ### An advance of the cart -/

section Cart

open Regulator

/-- The cart is advanced backwards, by twice its increment. -/
theorem advance_residuals_cart :
    let ahead := fun decision : Vec ℚ =>
      { time := cartSample.time + 1 / 10
        state := cart.evaluations.predict cartSample (1 / 10)
        decision : Sample ℚ }
    ∃ (preparation : Preparation (ε := Horizon.Invalid ℚ) Regulator.Sound cartSample
        cartTrajectories #[1, 2, -1, 3]) (product decision : Vec ℚ) (pair : Trajectories ℚ),
      preparation.engine = cartEngine ∧
      preparation.Gives evaluations (Vec.moved (-1) #[1, 2, -1, 3] #[0, 1, -2, 5]) product ∧
      preparation.Reaches evaluations #[0, 1, -2, 5] (-1 / 5) decision pair ∧
      (cart.evaluations.stationarity (ahead decision) pair).coord =
        (1 - -1 / 5 / (1 / 10) : ℚ) •
            (cart.evaluations.stationarity (ahead cartSample.decision) cartTrajectories).coord +
          (-1 / 5 / (1 / 10) : ℚ) • ((1 - 1 / 10 * 3 : ℚ) •
              (cart.evaluations.stationarity cartSample cartTrajectories).coord -
            (1 / 10 : ℚ) • (preparation.rightHandSide.coord - product.coord)) := by
  intro ahead
  obtain ⟨preparation, engine⟩ := exists_cartPreparation #[1, 2, -1, 3] (by decide +kernel)
  have long : preparation.engine.problem.dimensions.decisionSize = 4 := by rw [engine]; rfl
  have directionLong : (#[0, 1, -2, 5] : Vec ℚ).size =
      preparation.engine.problem.dimensions.decisionSize := long.symm
  obtain ⟨product, decision, pair, gives, reaches, _, _, stationarity, _⟩ :=
    advance_residuals preparation directionLong (-1 / 5)
  rw [engine] at stationarity
  exact ⟨preparation, product, decision, pair, engine, gives, reaches, stationarity⟩

end Cart

end RecedingHorizon.Session
