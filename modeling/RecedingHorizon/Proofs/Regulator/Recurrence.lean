/-
**The residuals of the control loop.**

In exact arithmetic a turn of the control loop over a regulator multiplies the defects of both
equations by `1 - h ζ`, and the stationarity residual too, up to `h` times what the linear solver
left of its system:

  `F' = (1 - h ζ) F - h (b - A δ)`.

* `turn_defects`: the trajectories of the next sample are rebuilt from the decayed defects, and
  rebuilding is the inverse of the defects;
* `turn_stationarity`: the residual along rebuilt trajectories is affine, so that the changes along
  the prior direction, along the correction and with the decayed defects add up;
* `residual_recurrence`: both, turn after turn, for as many turns as there are.
-/

import Mathlib.Tactic.FieldSimp
import Mathlib.Tactic.NormNum
import RecedingHorizon.Proofs.Regulator.Affine
import RecedingHorizon.Proofs.Tracking.Loop
import RecedingHorizon.Proofs.Tracking.Equation

set_option linter.unusedSectionVars false

namespace RecedingHorizon.Regulator

open Tracking

universe u

variable {K : Type u} [Field K] [LinearOrder K] [ScalarFunctions K]

/-! ### Changes add up -/

/-- The stationarity residual at a decision, along the trajectories rebuilt from targets. -/
def rebuiltResidual (model : Regulator K) (time : K) (state decision : Vec K)
    (targets : Trajectories K) : Vec K :=
  model.evaluations.stationarity { time, state, decision }
    (model.evaluations.rebuild { time, state, decision } targets)

/-- **The changes of the residual add up**: that of the targets, and those of the decision in two
directions. -/
theorem rebuiltResidual_changes {model : Regulator K} (sound : model.Sound) (time : K)
    {state base first second both : Vec K} {targets others : Trajectories K}
    (size : state.size = model.state)
    (baseLong : base.size = model.dimensions.decisionSize)
    (firstLong : first.size = model.dimensions.decisionSize)
    (secondLong : second.size = model.dimensions.decisionSize)
    (bothLong : both.size = model.dimensions.decisionSize)
    (fits : targets.Fits model.dimensions) (othersFit : others.Fits model.dimensions)
    (sum : both.coord = first.coord + second.coord - base.coord) :
    (model.rebuiltResidual time state both others).coord =
      (model.rebuiltResidual time state base others).coord +
      ((model.rebuiltResidual time state first targets).coord -
        (model.rebuiltResidual time state base targets).coord) +
      ((model.rebuiltResidual time state second targets).coord -
        (model.rebuiltResidual time state base targets).coord) := by
  have one : ∑ k : Fin 4, (![-2, 1, 1, 1] : Fin 4 → K) k = 1 := by
    rw [Fin.sum_univ_four]
    show (-2 : K) + 1 + 1 + 1 = 1
    ring
  have longs : ∀ k : Fin 4,
      (![base, base, first, second] k).size = model.dimensions.decisionSize := by
    intro k
    fin_cases k
    · exact baseLong
    · exact baseLong
    · exact firstLong
    · exact secondLong
  have partsFit : ∀ k : Fin 4,
      (![targets, others, targets, targets] k).Fits model.dimensions := by
    intro k
    fin_cases k
    · exact fits
    · exact othersFit
    · exact fits
    · exact fits
  have decisions : both.coord = ∑ k : Fin 4, (![-2, 1, 1, 1] : Fin 4 → K) k •
      (![base, base, first, second] k).coord := by
    rw [Fin.sum_univ_four, sum]
    show _ = (-2 : K) • base.coord + (1 : K) • base.coord + (1 : K) • first.coord +
      (1 : K) • second.coord
    module
  have parts : Trajectories.Combines Finset.univ (![-2, 1, 1, 1] : Fin 4 → K)
      ![targets, others, targets, targets] others := by
    constructor
    · intro stage
      rw [Fin.sum_univ_four]
      show _ = (-2 : K) • targets.state.get stage + (1 : K) • others.state.get stage +
        (1 : K) • targets.state.get stage + (1 : K) • targets.state.get stage
      module
    · intro stage
      rw [Fin.sum_univ_four]
      show _ = (-2 : K) • targets.costate.get stage + (1 : K) • others.costate.get stage +
        (1 : K) • targets.costate.get stage + (1 : K) • targets.costate.get stage
      module
  have combined := evaluations_combine sound time one size (fun _ => size) bothLong longs othersFit
    partsFit (combine_const one state.coord).symm decisions parts
  rw [Fin.sum_univ_four] at combined
  refine combined.trans ?_
  show (-2 : K) • (model.rebuiltResidual time state base targets).coord +
    (1 : K) • (model.rebuiltResidual time state base others).coord +
    (1 : K) • (model.rebuiltResidual time state first targets).coord +
    (1 : K) • (model.rebuiltResidual time state second targets).coord = _
  module

/-! ### One turn -/

section Turn

variable {model : Regulator K} (sound : model.Sound) {settings : Tracking.Settings K}
  {sample : Sample K} {trajectories : Trajectories K} (sampleFits : sample.Fits model.dimensions)
  (fits : trajectories.Fits model.dimensions)

include sound sampleFits fits

/-- The trajectories that a turn rebuilds have the decayed defects. -/
theorem turn_defects {decision : Vec K} (long : decision.size = model.dimensions.decisionSize) :
    let buffers := model.evaluations.prepared settings sample trajectories
    model.evaluations.defects (buffers.shifted decision)
        (model.evaluations.decayed settings buffers decision) =
      (model.evaluations.defects sample trajectories).scale settings.decay := by
  intro buffers
  have preparedFits := (evaluates sound).fits_prepared rfl settings sampleFits fits
  exact evaluations_defects_rebuild sound (preparedFits.shifted long)
    (preparedFits.defects.scale settings.decay)

/-- The right-hand side, by coordinates. -/
theorem coord_rightHandSide {prior : Vec K}
    (priorLong : prior.size = model.dimensions.decisionSize) :
    let evaluations := model.evaluations
    let buffers := evaluations.prepared settings sample trajectories
    Vec.coord (evaluations.rightHandSide settings buffers sample.decision prior) =
      (1 / settings.increment) •
        (Vec.coord (evaluations.stationarity sample trajectories) -
          Vec.coord (evaluations.stationarity (buffers.shifted sample.decision)
            (evaluations.decayed settings buffers sample.decision))) -
      settings.gain • Vec.coord (evaluations.stationarity sample trajectories) -
      (1 / settings.increment) •
        Vec.coord (evaluations.response settings buffers sample.decision prior) :=
  (evaluates sound).coord_rightHandSide rfl settings sampleFits fits priorLong

/-- The response to a direction, by coordinates: the change of the residual along trajectories that
keep their defects. -/
theorem coord_response {direction : Vec K}
    (directionLong : direction.size = model.dimensions.decisionSize) :
    let buffers := model.evaluations.prepared settings sample trajectories
    (model.evaluations.response settings buffers sample.decision direction).coord =
      (model.rebuiltResidual buffers.shiftedTime buffers.shiftedState
        (Vec.moved settings.increment direction sample.decision) buffers.shiftedDefects).coord -
      (model.rebuiltResidual buffers.shiftedTime buffers.shiftedState sample.decision
        buffers.shiftedDefects).coord := by
  intro buffers
  have total := evaluates sound
  have buffersFit : buffers.Fits model.dimensions :=
    total.fits_prepared rfl settings sampleFits fits
  have long : sample.decision.size = model.dimensions.decisionSize := sampleFits.decision
  have movedFits := buffersFit.shifted
    (Vec.size_moved_of_size (a := settings.increment) directionLong long)
  have rebuiltFit := total.fits_rebuild _ _ movedFits buffersFit.shiftedDefects
  have reachedLong := total.size_stationarity _ _ movedFits rebuiltFit
  have kept : model.evaluations.rebuild (buffers.shifted sample.decision) buffers.shiftedDefects =
      trajectories := evaluations_rebuild_defects sound (buffersFit.shifted long) fits
  have before : buffers.shiftedResidual = model.rebuiltResidual buffers.shiftedTime
      buffers.shiftedState sample.decision buffers.shiftedDefects := by
    show model.evaluations.stationarity (buffers.shifted sample.decision) trajectories =
      model.evaluations.stationarity (buffers.shifted sample.decision)
        (model.evaluations.rebuild (buffers.shifted sample.decision) buffers.shiftedDefects)
    rw [kept]
  unfold Evaluations.response
  rw [Vec.coord_moved _ (buffersFit.shiftedResidual.trans reachedLong.symm), before, neg_one_smul,
    neg_add_eq_sub]
  rfl

/-- **The stationarity residual after a turn.** -/
theorem turn_stationarity (positive : settings.increment ≠ 0) {prior correction : Vec K}
    (priorLong : prior.size = model.dimensions.decisionSize)
    (correctionLong : correction.size = model.dimensions.decisionSize) :
    let evaluations := model.evaluations
    let buffers := evaluations.prepared settings sample trajectories
    let decision :=
      Vec.moved settings.increment (Vec.moved 1 prior correction) sample.decision
    Vec.coord (evaluations.stationarity (buffers.shifted decision)
        (evaluations.decayed settings buffers decision)) =
      settings.decay • Vec.coord (evaluations.stationarity sample trajectories) -
        settings.increment •
          (Vec.coord (evaluations.rightHandSide settings buffers sample.decision prior) -
            Vec.coord (evaluations.product settings buffers sample.decision correction)) := by
  intro evaluations buffers decision
  have total := evaluates sound
  have long : sample.decision.size = model.dimensions.decisionSize := sampleFits.decision
  have buffersFit : buffers.Fits model.dimensions :=
    total.fits_prepared rfl settings sampleFits fits
  -- the decisions moved along either direction, and along both
  have priorMoved := Vec.size_moved_of_size (a := settings.increment) priorLong long
  have correctionMoved := Vec.size_moved_of_size (a := settings.increment) correctionLong long
  have bothLong := Vec.size_moved_of_size (a := 1) priorLong correctionLong
  have decisionLong : decision.size = model.dimensions.decisionSize :=
    Vec.size_moved_of_size bothLong long
  have moves : decision.coord =
      (Vec.moved settings.increment prior sample.decision).coord +
        (Vec.moved settings.increment correction sample.decision).coord -
          sample.decision.coord := by
    rw [Vec.coord_moved _ (bothLong.trans long.symm),
      Vec.coord_moved _ (priorLong.trans correctionLong.symm),
      Vec.coord_moved _ (priorLong.trans long.symm),
      Vec.coord_moved _ (correctionLong.trans long.symm)]
    module
  have changes := rebuiltResidual_changes sound buffers.shiftedTime buffersFit.shiftedState long
    priorMoved correctionMoved decisionLong buffersFit.shiftedDefects
    (buffersFit.defects.scale settings.decay) moves
  rw [← coord_response sound sampleFits fits priorLong,
    ← coord_response sound sampleFits fits correctionLong] at changes
  rw [coord_rightHandSide sound sampleFits fits priorLong]
  unfold Evaluations.product
  rw [Vec.coord_scale]
  have probe : model.rebuiltResidual buffers.shiftedTime buffers.shiftedState sample.decision
      (buffers.defects.scale settings.decay) =
      evaluations.stationarity (buffers.shifted sample.decision)
        (evaluations.decayed settings buffers sample.decision) := rfl
  refine changes.trans ?_
  rw [probe]
  funext index
  simp only [Pi.add_apply, Pi.sub_apply, Pi.smul_apply, smul_eq_mul, Settings.decay]
  field_simp
  ring

end Turn

/-! ### The loop -/

/-- A loop over a regulator that was accepted, on an engine with valid settings. -/
structure Tracks (loop : Loop (Regulator K) K) : Prop where
  accepted : Accepted loop.engine.problem
  settings : loop.engine.settings.validate = .ok ()
  dimensions : loop.engine.dimensions = loop.engine.problem.dimensions
  fits : loop.Fits

theorem Tracks.ready {loop : Loop (Regulator K) K} (tracks : Tracks loop) :
    loop.Ready loop.engine.problem.evaluations loop.engine.problem.Storing where
  fits := tracks.fits
  engine :=
    { problem := tracks.accepted.sound.storing_self
      dimensions := tracks.dimensions
      scratch := tracks.fits.scratch }

/-- A new engine with fresh storage tracks its problem from any sample on. -/
theorem tracks_of_build {model : Regulator K} {settings : Tracking.Settings K} {id : ℕ}
    {engine : Engine (Regulator K) K} {sample : Sample K} {trajectories : Trajectories K}
    (accepted : Accepted model)
    (built : Engine.build (ε := Horizon.Invalid K) id model settings = .ok engine)
    (sampleFits : sample.Fits model.dimensions) (fits : trajectories.Fits model.dimensions) :
    Tracks { engine, workspace := engine.workspace, sample, trajectories } := by
  obtain ⟨valid, dimensions, reported, rfl⟩ := Engine.build_eq_ok_iff.mp built
  obtain ⟨rfl, _⟩ := reportedDimensions_eq_ok_iff.mp reported
  exact
    { accepted := accepted
      settings := valid
      dimensions := rfl
      fits := ⟨Tracking.Scratch.fits_zeros _, rfl, Buffers.fits_zeros _, sampleFits, fits⟩ }

/-- What one turn of the loop does to the residuals. -/
structure Recurs (model : Regulator K) (loop : Loop (Regulator K) K)
    (turned : Turned (Regulator K) K) : Prop where
  stationarity :
    Vec.coord (model.evaluations.stationarity turned.loop.sample turned.loop.trajectories) =
      loop.engine.settings.decay •
          Vec.coord (model.evaluations.stationarity loop.sample loop.trajectories) -
        loop.engine.settings.increment • (turned.rightHandSide.coord - turned.product.coord)
  defects : model.evaluations.defects turned.loop.sample turned.loop.trajectories =
    (model.evaluations.defects loop.sample loop.trajectories).scale loop.engine.settings.decay

/-- **One turn of the loop** obeys the recurrence. -/
theorem recurs_of_yields {model : Regulator K} (sound : model.Sound)
    {loop : Loop (Regulator K) K} (ready : loop.Ready model.evaluations model.Storing)
    (positive : loop.engine.settings.increment ≠ 0) {given : Turn K}
    (givenFits : given.Fits loop.engine.dimensions) {turned : Turned (Regulator K) K}
    (yields : loop.Yields model.evaluations given turned) : model.Recurs loop turned := by
  have total := evaluates sound
  have sampleFits := ready.fits.sample
  have fits := ready.fits.trajectories
  rw [ready.engine.dimensions] at sampleFits fits givenFits
  have bothLong := Vec.size_moved_of_size (a := 1) givenFits.prior givenFits.correction
  have movedLong := Vec.size_moved_of_size (a := loop.engine.settings.increment) bothLong
    sampleFits.decision
  have buffersFit := total.fits_prepared rfl loop.engine.settings sampleFits fits
  have reached := Evaluations.advanced_increment model.evaluations positive
    (model.evaluations.prepared loop.engine.settings loop.sample loop.trajectories)
    loop.sample.decision (Vec.moved 1 given.prior given.correction) fits
    (total.fits_decayed rfl loop.engine.settings buffersFit movedLong)
  constructor
  · rw [yields.sample, yields.trajectories, yields.rightHandSide, yields.product, reached]
    exact turn_stationarity sound sampleFits fits positive givenFits.prior givenFits.correction
  · rw [yields.sample, yields.trajectories, reached]
    exact turn_defects sound sampleFits fits movedLong

section Run

variable {loop : Loop (Regulator K) K} (tracks : Tracks loop) {turns : ℕ → Turn K} {count : ℕ}
  (given : ∀ k, k < count → (turns k).Fits loop.engine.dimensions)
include tracks

theorem Tracks.positive : loop.engine.settings.increment ≠ 0 := by
  obtain ⟨⟨_, positive⟩, _⟩ := Settings.validate_eq_ok_iff.mp tracks.settings
  exact ne_of_gt positive

include given

/-- A turn of the run succeeds, from wherever the turns before it have left the loop. -/
theorem after_value (k : ℕ) (upTo : k ≤ count) :
    (loop.after turns k).Ready loop.engine.problem.evaluations loop.engine.problem.Storing ∧
      (loop.after turns k).engine.settings = loop.engine.settings ∧
      (loop.after turns k).engine.dimensions = loop.engine.dimensions := by
  induction k with
  | zero => exact ⟨tracks.ready, rfl, rfl⟩
  | succ k hypothesis =>
    obtain ⟨ready, settings, dimensions⟩ := hypothesis (Nat.le_of_succ_le upTo)
    have givenFits := given k upTo
    rw [← dimensions] at givenFits
    obtain ⟨turned, ran, nextReady, yields⟩ :=
      Loop.turn_value (evaluates tracks.accepted.sound) ready givenFits
    have next : loop.after turns (k + 1) = turned.loop := by
      show ((loop.after turns k).turnOrStay (turns k)).loop = _
      unfold Loop.turnOrStay
      rw [ran]
    rw [next]
    exact ⟨nextReady, yields.settings.trans settings, yields.dimensions.trans dimensions⟩

/-- Every turn of the run succeeds and obeys the recurrence. -/
theorem turn_after (k : ℕ) (below : k < count) :
    (loop.after turns k).turn (turns k) =
        .ok (.ok ((loop.after turns k).turnOrStay (turns k))) ∧
      loop.engine.problem.Recurs (loop.after turns k)
        ((loop.after turns k).turnOrStay (turns k)) := by
  obtain ⟨ready, settings, dimensions⟩ := after_value tracks given k (Nat.le_of_lt below)
  have sound := tracks.accepted.sound
  have givenFits := given k below
  have positive := tracks.positive
  rw [← dimensions] at givenFits
  rw [← settings] at positive
  obtain ⟨turned, ran, _, yields⟩ := Loop.turn_value (evaluates sound) ready givenFits
  have value : (loop.after turns k).turnOrStay (turns k) = turned := by
    unfold Loop.turnOrStay
    rw [ran]
  rw [value]
  exact ⟨ran, recurs_of_yields sound ready positive givenFits yields⟩

omit tracks given in
/-- A sequence that is multiplied by one factor again and again. -/
theorem eq_pow_smul_of_step (values : ℕ → ℕ → K) (factor : K)
    (step : ∀ k, k < count → values (k + 1) = factor • values k) :
    values count = factor ^ count • values 0 := by
  induction count with
  | zero => rw [pow_zero, one_smul]
  | succ count hypothesis =>
    rw [step count (Nat.lt_succ_self count),
      hypothesis fun k below => step k (Nat.lt_succ_of_lt below), smul_smul, pow_succ']

/-- **The residuals of the control loop.** The loop over a regulator, started anywhere, carries out
its turns, whatever directions it is given. Every turn multiplies the defects of the state and of
the costate equation by the decay `1 - h ζ`, and takes the stationarity residual `F` to
`(1 - h ζ) F - h (b - A δ)`. If the corrections solve their systems, all residuals decay at one
rate. -/
theorem residual_recurrence :
    ∃ (loops : ℕ → Loop (Regulator K) K) (turned : ℕ → Turned (Regulator K) K)
      (residual : ℕ → Vec K) (defects : ℕ → Trajectories K),
      loops 0 = loop ∧
      (∀ k, k < count →
        (loops k).turn (turns k) = .ok (.ok (turned k)) ∧ (turned k).loop = loops (k + 1)) ∧
      (∀ k, k ≤ count → (loops k).Measures (residual k) (defects k)) ∧
      (∀ k, k < count → (residual (k + 1)).coord =
        loop.engine.settings.decay • (residual k).coord - loop.engine.settings.increment •
          ((turned k).rightHandSide.coord - (turned k).product.coord)) ∧
      (∀ k, k < count → ∀ stage,
        (defects (k + 1)).state.get stage =
          loop.engine.settings.decay • (defects k).state.get stage ∧
        (defects (k + 1)).costate.get stage =
          loop.engine.settings.decay • (defects k).costate.get stage) ∧
      ((∀ k, k < count → (turned k).rightHandSide = (turned k).product) →
        (residual count).coord =
          loop.engine.settings.decay ^ count • (residual 0).coord) ∧
      ∀ stage,
        (defects count).state.get stage =
          loop.engine.settings.decay ^ count • (defects 0).state.get stage ∧
        (defects count).costate.get stage =
          loop.engine.settings.decay ^ count • (defects 0).costate.get stage := by
  have total := evaluates tracks.accepted.sound
  let evaluations := loop.engine.problem.evaluations
  let loops := loop.after turns
  let turned := fun k => (loops k).turnOrStay (turns k)
  let residual := fun k => evaluations.stationarity (loops k).sample (loops k).trajectories
  let defects := fun k => evaluations.defects (loops k).sample (loops k).trajectories
  have residuals : ∀ k, k < count → (residual (k + 1)).coord =
      loop.engine.settings.decay • (residual k).coord - loop.engine.settings.increment •
        ((turned k).rightHandSide.coord - (turned k).product.coord) := by
    intro k below
    have recurs := (turn_after tracks given k below).2.stationarity
    rw [(after_value tracks given k (Nat.le_of_lt below)).2.1] at recurs
    exact recurs
  have decays : ∀ k, k < count →
      defects (k + 1) = (defects k).scale loop.engine.settings.decay := by
    intro k below
    have recurs := (turn_after tracks given k below).2.defects
    rw [(after_value tracks given k (Nat.le_of_lt below)).2.1] at recurs
    exact recurs
  have stateDecays : ∀ stage, ∀ k, k < count → (defects (k + 1)).state.get stage =
      loop.engine.settings.decay • (defects k).state.get stage := by
    intro stage k below
    rw [decays k below]
    exact Mat.get_scale _ _ _
  have costateDecays : ∀ stage, ∀ k, k < count → (defects (k + 1)).costate.get stage =
      loop.engine.settings.decay • (defects k).costate.get stage := by
    intro stage k below
    rw [decays k below]
    exact Mat.get_scale _ _ _
  refine ⟨loops, turned, residual, defects, rfl, fun k below => ?_, fun k upTo => ?_, residuals,
    fun k below stage => ⟨stateDecays stage k below, costateDecays stage k below⟩,
    fun solved => ?_, fun stage => ⟨?_, ?_⟩⟩
  · exact ⟨(turn_after tracks given k below).1, rfl⟩
  · exact Loop.measures total (after_value tracks given k upTo).1
  · refine eq_pow_smul_of_step (fun k => (residual k).coord) _ fun k below => ?_
    rw [residuals k below, solved k below, sub_self, smul_zero, sub_zero]
  · exact eq_pow_smul_of_step (fun k => (defects k).state.get stage) _ (stateDecays stage)
  · exact eq_pow_smul_of_step (fun k => (defects k).costate.get stage) _ (costateDecays stage)

end Run

/-! ### The loop of the cart -/

/-- An engine for the cart. -/
def cartEngine : Engine (Regulator ℚ) ℚ where
  problem := cart
  settings := { increment := 1 / 10, gain := 3 }
  dimensions := cart.dimensions
  id := 0
  sequence := 0
  scratch := Tracking.Scratch.zeros cart.dimensions

/-- The engine is built with any identity. -/
theorem build_cartEngine (id : ℕ) :
    Engine.build id cart cartEngine.settings = .ok { cartEngine with id } := by
  have increment : (0 : ℚ) < 1 / 10 := by norm_num
  have valid : cartEngine.settings.validate = .ok () :=
    Settings.validate_eq_ok_iff.mpr ⟨⟨rfl, increment⟩, rfl, by decide⟩
  unfold Engine.build
  rw [valid]
  rfl

/-- The control loop of the cart. -/
def cartLoop : Loop (Regulator ℚ) ℚ where
  engine := cartEngine
  workspace := cartEngine.workspace
  sample := cartSample
  trajectories := cartTrajectories

theorem tracks_cartLoop : Tracks cartLoop :=
  tracks_of_build accepted_cart (build_cartEngine 0) fits_cartSample fits_cartTrajectories

/-- Directions for the cart, other ones in every turn. -/
def cartTurns (k : ℕ) : Turn ℚ where
  prior := #[k, 1, -1, 2]
  correction := #[1 / 2, 0, k, 3]
  rightHandSide := Vec.zeros 4
  product := Vec.zeros 4

theorem fits_cartTurns (k : ℕ) : (cartTurns k).Fits cartLoop.engine.dimensions :=
  ⟨rfl, rfl, rfl, rfl⟩

/-- The cart carries out three turns, and its residuals obey the recurrence. -/
theorem residual_recurrence_cart :
    Tracks cartLoop ∧ ∃ (loops : ℕ → Loop (Regulator ℚ) ℚ) (turned : ℕ → Turned (Regulator ℚ) ℚ)
      (residual : ℕ → Vec ℚ) (defects : ℕ → Trajectories ℚ),
      loops 0 = cartLoop ∧
      (∀ k, k < 3 →
        (loops k).turn (cartTurns k) = .ok (.ok (turned k)) ∧ (turned k).loop = loops (k + 1)) ∧
      (∀ k, k ≤ 3 → (loops k).Measures (residual k) (defects k)) ∧
      ∀ k, k < 3 → (residual (k + 1)).coord =
        cartEngine.settings.decay • (residual k).coord - cartEngine.settings.increment •
          ((turned k).rightHandSide.coord - (turned k).product.coord) := by
  obtain ⟨loops, turned, residual, defects, start, ran, measures, recurs, _⟩ :=
    residual_recurrence tracks_cartLoop
      fun k (_ : k < 3) => fits_cartTurns k
  exact ⟨tracks_cartLoop, loops, turned, residual, defects, start, ran, measures, recurs⟩

end RecedingHorizon.Regulator
