/-
**The equation that a step solves.**

A solver looks for the direction in which the decision moves, as a correction to a prior direction.
It is given the right-hand side by the preparation of a step, and the operator by the products with
the step. `rightHandSide_add_product` says that the two calls are about one equation, over any
functional problem and in every session: the prior direction enters the right-hand side as the
product that the operator later gives for it, with the opposite sign, and in no other way.

* `Preparation` is a preparation that succeeds on an engine at work;
* `Preparation.Gives`: the product of its step with a direction, whenever it is asked for before the
  engine moves on;
* `Preparation.value` is what the preparation returns, `Preparation.gives` what the products are.
-/

import RecedingHorizon.Proofs.Session.Soundness

set_option linter.unusedSectionVars false

namespace RecedingHorizon.Session

open Tracking

universe u

variable {σ K ε : Type u} [Problem σ K ε]

section Preparations

variable [Field K] [LT K] [DecidableLT K] [LE K] [DecidableLE K] [ScalarFunctions K]

/-- An engine at work is ready to evaluate the functions of its problem. -/
theorem Employs.ready {values : σ → Evaluations K} {states : σ → Prop}
    (functional : Problem.Functional values states) {session : Session σ K} {name : String}
    {engine : Engine σ K} (employs : session.Employs (ε := ε) states name engine) :
    engine.Ready (values engine.problem)
      fun next => states next ∧ values next = values engine.problem := by
  have intact := employs.intact functional.lawful
  refine ⟨⟨intact.problem, rfl⟩, ?_, intact.scratch⟩
  rw [← intact.dimensions]
  exact functional.dimensions _ intact.problem

/-- **A preparation that succeeds**, at a sample, along trajectories and for a prior direction, on
an engine at work. -/
structure Preparation (states : σ → Prop) (sample : Sample K) (trajectories : Trajectories K)
    (prior : Vec K) where
  session : Session σ K
  name : String
  engine : Engine σ K
  employs : session.Employs states name engine
  workspace : String
  target : String
  out : Vec K
  answer : Answer σ K ε
  ran : session.step (.prepare name workspace target sample trajectories prior out) = .ok answer
  step : Prepared K
  rightHandSide : Vec K
  replied : answer.reply = .prepared (.ok step) rightHandSide

namespace Preparation

variable {values : σ → Evaluations K} {states : σ → Prop} {sample : Sample K}
  {trajectories : Trajectories K} {prior : Vec K}
  (preparation : Preparation (ε := ε) states sample trajectories prior)

/-- The problems that evaluate to the functions of the problem of the engine. -/
def Same (values : σ → Evaluations K) (next : σ) : Prop :=
  states next ∧ values next = values preparation.engine.problem

/-- **The step stands** in a session, under a name: its engine differs from the one that prepared it
in the next sequence number, and else in storage only. -/
structure Stands (values : σ → Evaluations K) (later : Session σ K) (source : String) : Prop where
  engine : ∃ worker, later.engines.get? preparation.name = some worker ∧
    Engine.Storing { preparation.engine with sequence := preparation.engine.sequence + 1 }
      (preparation.Same values) worker
  step : later.steps.get? source = some preparation.step

/-- **The product of the step with a direction.** The step stands in the session that the
preparation leaves, and wherever it stands, the product is accepted and is this one. -/
structure Gives (values : σ → Evaluations K) (direction product : Vec K) : Prop where
  stands : preparation.Stands values preparation.answer.session preparation.target
  product : ∀ (later : Session σ K) (source : String) (out : Vec K),
    preparation.Stands values later source →
    out.size = preparation.engine.dimensions.decisionSize →
    ∃ answer : Answer σ K ε,
      later.step (.multiply preparation.name source sample.decision direction out) = .ok answer ∧
        answer.reply = .multiplied (.ok ()) product

/-- A step has one product with a direction. -/
theorem Gives.unique {preparation : Preparation (ε := ε) states sample trajectories prior}
    {direction first second : Vec K} (one : preparation.Gives values direction first)
    (other : preparation.Gives values direction second) : first = second := by
  obtain ⟨answer, ran, replied⟩ := one.product _ _ _ one.stands (Vec.size_zeros _)
  obtain ⟨again, ranAgain, repliedAgain⟩ := other.product _ _ _ one.stands (Vec.size_zeros _)
  rw [ran] at ranAgain
  cases ranAgain
  rw [replied] at repliedAgain
  cases repliedAgain
  rfl

variable (functional : Problem.Functional values states)
include functional

theorem ready : preparation.engine.Ready (values preparation.engine.problem)
    (preparation.Same values) :=
  preparation.employs.ready functional

/-- The problem of the engine evaluates to its functions, and goes on to. -/
theorem total : Evaluates (values preparation.engine.problem) (preparation.Same values) :=
  functional.evaluates (preparation.employs.intact functional.lawful).problem

/-- What a preparation that succeeds was given, and what it returned. -/
theorem value :
    let engine := preparation.engine
    let buffers := (values engine.problem).prepared engine.settings sample trajectories
    (sample.Fits engine.dimensions ∧ trajectories.Fits engine.dimensions ∧
      prior.size = engine.dimensions.decisionSize) ∧
    preparation.step = { engine := engine.id, sequence := engine.sequence + 1, buffers } ∧
    preparation.rightHandSide =
      (values engine.problem).rightHandSide engine.settings buffers sample.decision prior ∧
    preparation.Stands values preparation.answer.session preparation.target := by
  intro engine buffers
  obtain ⟨holder, storage, outcome, found, stored, called, result, returned, after⟩ :=
    called_of_prepare preparation.ran preparation.replied
  rw [preparation.employs.found] at found
  cases found
  cases admitted : engine.admitPreparation (ε := ε) storage sample trajectories prior
      preparation.out with
  | error cause =>
    rw [Engine.prepare_of_error admitted] at called
    cases called
    cases result
  | ok _ =>
    obtain ⟨own, ⟨sampleFits, fits⟩, priorLong, _⟩ := Engine.admitPreparation_eq_ok_iff.mp admitted
    have storageFits := preparation.employs.workspace_fits functional.lawful stored own
    obtain ⟨next, storing, ran⟩ := Engine.prepare_value (preparation.total functional)
      (preparation.ready functional) admitted storageFits
    rw [called] at ran
    cases ran
    refine ⟨⟨sampleFits, fits, priorLong⟩, (Except.ok.inj result).symm, returned.symm, ?_⟩
    rw [after]
    exact ⟨⟨next, Registry.get?_put_self _ _ _, storing⟩, Registry.get?_put_self _ _ _⟩

variable {preparation} in
/-- The engine of a step that stands works as when it prepared the step, and accepts the step. -/
theorem Stands.ready {later : Session σ K} {source : String}
    (stands : preparation.Stands values later source) :
    ∃ worker, later.engines.get? preparation.name = some worker ∧
      worker.Ready (values preparation.engine.problem) (preparation.Same values) ∧
      worker.settings = preparation.engine.settings ∧
      worker.dimensions = preparation.engine.dimensions ∧
      (preparation.step.engine = worker.id ∧ preparation.step.sequence = worker.sequence) ∧
      preparation.step.buffers.Fits worker.dimensions := by
  obtain ⟨⟨sampleFits, fits, _⟩, made, _⟩ := preparation.value functional
  obtain ⟨worker, found, storing⟩ := stands.engine
  have total := preparation.total functional
  have ready := preparation.ready functional
  refine ⟨worker, found, (ready.withSequence _).of_storing storing, ?_⟩
  obtain ⟨_, _, _, _, rfl⟩ := storing
  rw [made]
  exact ⟨rfl, rfl, ⟨rfl, rfl⟩, total.fits_prepared ready.dimensions _ sampleFits fits⟩

/-- What the products of the step are. -/
theorem gives {direction : Vec K}
    (directionLong : direction.size = preparation.engine.dimensions.decisionSize) :
    let engine := preparation.engine
    let buffers := (values engine.problem).prepared engine.settings sample trajectories
    preparation.Gives values direction
      ((values engine.problem).product engine.settings buffers sample.decision direction) := by
  intro engine buffers
  obtain ⟨⟨sampleFits, _, _⟩, made, _, stands⟩ := preparation.value functional
  refine ⟨stands, fun later source out standing room => ?_⟩
  obtain ⟨worker, found, ready, settings, dimensions, current, stepFits⟩ :=
    standing.ready functional
  have total := preparation.total functional
  have admitted : worker.admitProduct (ε := ε) preparation.step sample.decision direction out =
      .ok () := by
    rw [Engine.admitProduct_eq_ok_iff, dimensions]
    exact ⟨current, sampleFits.decision, directionLong, room⟩
  obtain ⟨next, _, ran⟩ := Engine.multiply_value total ready admitted stepFits
  simp only [Session.step, found, standing.step]
  rw [ran]
  refine ⟨_, rfl, ?_⟩
  rw [settings, made]

end Preparation

/-- **The right-hand side and the operator belong to one equation.** Over a functional problem, let
a preparation succeed at a sample and along trajectories. Write `F` for the stationarity residual
there, and `F'` for that at the sample which the model predicts one increment ahead, along the
trajectories with the defects of the base sample, decayed. The right-hand side and the product for
the prior direction add up to `(1/h - ζ) F - F'/h`. So the sum is the same for every preparation at
the same point, whatever its prior direction. -/
theorem rightHandSide_add_product {values : σ → Evaluations K} {states : σ → Prop}
    (functional : Problem.Functional values states) {sample : Sample K}
    {trajectories : Trajectories K} {prior : Vec K}
    (preparation : Preparation (ε := ε) states sample trajectories prior) :
    let evaluations := values preparation.engine.problem
    let settings := preparation.engine.settings
    let shifted : Sample K :=
      { time := sample.time + settings.increment
        state := evaluations.predict sample settings.increment
        decision := sample.decision }
    let decayed := (evaluations.defects sample trajectories).scale
      (1 - settings.increment * settings.gain)
    let residual := evaluations.stationarity sample trajectories
    let reached := evaluations.stationarity shifted (evaluations.rebuild shifted decayed)
    ∃ product : Vec K, preparation.Gives values prior product ∧
      (preparation.rightHandSide.size = residual.size ∧ product.size = residual.size ∧
        reached.size = residual.size) ∧
      preparation.rightHandSide.coord + product.coord =
        (1 / settings.increment - settings.gain) • residual.coord -
          (1 / settings.increment) • reached.coord ∧
      ∀ {other : Vec K} (second : Preparation (ε := ε) states sample trajectories other),
        second.engine.settings = settings → values second.engine.problem = evaluations →
        ∃ secondProduct : Vec K, second.Gives values other secondProduct ∧
          preparation.rightHandSide.coord + product.coord =
            second.rightHandSide.coord + secondProduct.coord := by
  intro evaluations settings shifted decayed residual reached
  have equation : ∀ {direction : Vec K}
      (given : Preparation (ε := ε) states sample trajectories direction),
      given.engine.settings = settings → values given.engine.problem = evaluations →
      ∃ product : Vec K, given.Gives values direction product ∧
        (given.rightHandSide.size = residual.size ∧ product.size = residual.size ∧
          reached.size = residual.size) ∧
        given.rightHandSide.coord + product.coord =
          (1 / settings.increment - settings.gain) • residual.coord -
            (1 / settings.increment) • reached.coord := by
    intro direction given sameSettings sameValues
    obtain ⟨⟨sampleFits, fits, long⟩, _, rightHandSide, _⟩ := given.value functional
    have total := functional.evaluates (given.employs.intact functional.lawful).problem
    have same := (given.ready functional).dimensions
    have sum :=
      total.coord_rightHandSide_add_product same given.engine.settings sampleFits fits long
    have sizes := total.size_rightHandSide same given.engine.settings sampleFits fits long
    refine ⟨_, given.gives functional long, ?_, ?_⟩
    · rw [rightHandSide, sameSettings, sameValues]
      rw [sameSettings, sameValues] at sizes
      exact sizes
    · rw [rightHandSide, sum, sameSettings, sameValues]
      rfl
  obtain ⟨product, gives, sizes, sum⟩ := equation preparation rfl rfl
  refine ⟨product, gives, sizes, sum, fun second sameSettings sameValues => ?_⟩
  obtain ⟨secondProduct, secondGives, _, secondSum⟩ := equation second sameSettings sameValues
  exact ⟨secondProduct, secondGives, sum.trans secondSum.symm⟩

end Preparations

/-! ### The equation of the cart -/

section Cart

open Regulator

/-- The first cart prepares a step for a prior direction. -/
def cartPrepares (prior : Vec ℚ) : Bool :=
  match cartSession.step (ε := Horizon.Invalid ℚ) (.prepare "first" "workspace" "step" cartSample
      cartTrajectories prior (Vec.zeros 4)) with
  | .ok { reply := .prepared (.ok _) _, .. } => true
  | _ => false

/-- The preparation of the first cart. -/
theorem exists_cartPreparation (prior : Vec ℚ) (prepares : cartPrepares prior = true) :
    ∃ preparation : Preparation (ε := Horizon.Invalid ℚ) Regulator.Sound cartSample
        cartTrajectories prior, preparation.engine = cartEngine := by
  unfold cartPrepares at prepares
  split at prepares
  · rename_i step rightHandSide records ran
    exact ⟨{
      session := cartSession
      name := "first"
      engine := cartEngine
      employs := employs_cartEngine
      workspace := "workspace"
      target := "step"
      out := Vec.zeros 4
      answer := _
      ran := ran
      step := step
      rightHandSide := rightHandSide
      replied := rfl }, rfl⟩
  · cases prepares

/-- Two prior directions of the cart, one of them zero. -/
theorem rightHandSide_add_product_cart :
    ∃ (preparation : Preparation (ε := Horizon.Invalid ℚ) Regulator.Sound cartSample
        cartTrajectories #[1, 2, -1, 3])
      (second : Preparation (ε := Horizon.Invalid ℚ) Regulator.Sound cartSample
        cartTrajectories (Vec.zeros 4)) (product secondProduct : Vec ℚ),
      preparation.engine = cartEngine ∧ second.engine = cartEngine ∧
      preparation.Gives evaluations #[1, 2, -1, 3] product ∧
      second.Gives evaluations (Vec.zeros 4) secondProduct ∧
      preparation.rightHandSide.coord + product.coord =
        second.rightHandSide.coord + secondProduct.coord := by
  obtain ⟨preparation, engine⟩ := exists_cartPreparation #[1, 2, -1, 3]
    (by decide +kernel)
  obtain ⟨second, secondEngine⟩ := exists_cartPreparation (Vec.zeros 4)
    (by decide +kernel)
  obtain ⟨product, gives, _, _, agrees⟩ := rightHandSide_add_product functional preparation
  obtain ⟨secondProduct, secondGives, sum⟩ := agrees second (by rw [engine, secondEngine])
    (by rw [engine, secondEngine])
  exact ⟨preparation, second, product, secondProduct, engine, secondEngine, gives, secondGives, sum⟩

end Cart

end RecedingHorizon.Session
