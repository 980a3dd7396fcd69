/-
**Shooting.**

Shooting finds the trajectories that satisfy the discretised state and costate equation exactly: it
rebuilds them from zero defects. The stationarity residual along them belongs to the state and the
decision alone.

* `shootResidual` shoots and evaluates the residual, and `shootResidual_value` says what it finds,
  in any storage;
* `Solves` are the equations by coordinates, and `solves_shot` says that the trajectories found
  satisfy them;
* `shot_combine`: the trajectories are linear in the state and the decision together, so that along
  a moved decision they move by those of the direction, `startCoord_shot_moved`.
-/

import RecedingHorizon.Regulator.Start
import RecedingHorizon.Proofs.Regulator.Affine

set_option linter.unusedSectionVars false

namespace RecedingHorizon.Regulator

universe u v

variable {K : Type u} {ι : Type v}

/-! ### What shooting finds -/

section Shot

variable [Zero K] [One K] [Add K] [Mul K] [Neg K] [Sub K] [Div K] [BEq K] [NatCast K]
  [LE K] [DecidableLE K] [LT K] [DecidableLT K] [ScalarFunctions K]

/-- The trajectories without defects, and the stationarity residual along them in the storage of
`out`. -/
def shootResidual (model : Regulator K) (sample : Sample K) (out : Vec K) :
    Checked (Regulator K × Trajectories K × Vec K) := do
  let (model, pair) ← model.shoot sample
  let (model, residual) ← model.stationarity sample pair out
  return (model, pair, residual)

/-- The trajectories without defects. -/
def shot (model : Regulator K) (sample : Sample K) : Trajectories K :=
  model.evaluations.rebuild sample (Trajectories.zeros model.dimensions)

/-- The stationarity residual along the trajectories without defects. -/
def shotResidual (model : Regulator K) (sample : Sample K) : Vec K :=
  model.evaluations.stationarity sample (model.shot sample)

/-- A sample in the state zero. -/
def atRest (model : Regulator K) (time : K) (decision : Vec K) : Sample K where
  time := time
  state := Vec.zeros model.state
  decision := decision

theorem fits_atRest {model : Regulator K} (time : K) {decision : Vec K}
    (long : decision.size = model.dimensions.decisionSize) :
    (model.atRest time decision).Fits model.dimensions :=
  ⟨Vec.size_zeros _, long⟩

variable {model : Regulator K} (sound : model.Sound) {sample : Sample K}
  (fits : sample.Fits model.dimensions)
include sound fits

/-- The trajectories are rebuilt from zero defects. -/
theorem rebuiltRows_shot : model.RebuiltRows (model.stageSpan sample.time) sample.state
    sample.decision (Trajectories.zeros model.dimensions) (model.shot sample) :=
  evaluations_rebuild sound fits (Trajectories.fits_zeros _)

theorem fits_shot : (model.shot sample).Fits model.dimensions :=
  (rebuiltRows_shot sound fits).fits

/-- **Shooting succeeds.** -/
theorem shoot_value : ∃ next, model.shoot sample = .ok (next, model.shot sample) ∧
    model.Storing next :=
  (evaluates sound).rebuild model sample _ _ sound.storing_self fits (Trajectories.fits_zeros _)
    (Trajectories.fits_zeros _)

/-- **Shooting succeeds, and so does the evaluation after it.** -/
theorem shootResidual_value {out : Vec K} (room : out.size = model.dimensions.decisionSize) :
    ∃ next, model.shootResidual sample out =
      .ok (next, model.shot sample, model.shotResidual sample) := by
  obtain ⟨next, ranShoot, storing⟩ := shoot_value sound fits
  obtain ⟨last, ranStationarity, _⟩ :=
    (evaluates sound).stationarity next sample _ out storing fits (fits_shot sound fits) room
  refine ⟨last, ?_⟩
  unfold shootResidual
  rw [ranShoot, ok_bind]
  show (Problem.stationarity next sample _ out >>= _) = _
  rw [ranStationarity, ok_bind]
  rfl

end Shot

/-! ### The equations -/

/-- **The discretised equations**: with `x_0` the state of the sample and `x_{i+1}` the state `X_i`,

  `x_{i+1} = x_i + Δτ (A x_i + B u_i)`, `Λ_{N-1} = S x_N`,
  `Λ_i = Λ_{i+1} + Δτ (Q x_{i+1} + Aᵀ Λ_{i+1})`.
-/
structure Solves [CommRing K] (model : Regulator K) (span : K) (initial decision : Vec K)
    (pair : Trajectories K) : Prop where
  state : ∀ stage, stage < model.stages → startCoord initial pair.state (stage + 1) =
    startCoord initial pair.state stage +
      span • (model.dynamics.linear (startCoord initial pair.state stage) +
        model.inputMap.linear (model.stageCoord decision stage))
  terminal : pair.costate.get (model.stages - 1) =
    model.terminalWeight.linear (pair.state.get (model.stages - 1))
  costate : ∀ stage, stage < model.stages - 1 → pair.costate.get stage =
    pair.costate.get (stage + 1) + span • (model.stateWeight.linear (pair.state.get stage) +
      model.dynamics.transposeLinear (pair.costate.get (stage + 1)))

/-- Trajectories without defects satisfy the equations. -/
theorem DefectEquations.solves [CommRing K] {model : Regulator K} {span : K}
    {initial decision : Vec K} {pair : Trajectories K}
    (equations : model.DefectEquations span initial decision pair
      (Trajectories.zeros model.dimensions)) : model.Solves span initial decision pair where
  state stage below := by
    have row := eq_add_add_iff.mpr (equations.state stage below)
    simp only [Trajectories.zeros, Mat.get_zeros, zero_add] at row
    exact row
  terminal := by
    have row := eq_sub_iff_add_eq.mp equations.terminal
    simp only [Trajectories.zeros, Mat.get_zeros, zero_add] at row
    exact row.symm
  costate stage below := by
    have row := eq_add_add_iff.mpr (equations.costate stage below)
    simp only [Trajectories.zeros, Mat.get_zeros, zero_add] at row
    exact row

section Exact

variable [Field K] [LinearOrder K] [ScalarFunctions K] {model : Regulator K} (sound : model.Sound)
include sound

theorem equations_shot {sample : Sample K} (fits : sample.Fits model.dimensions) :
    model.DefectEquations (model.stageSpan sample.time) sample.state sample.decision
      (model.shot sample) (Trajectories.zeros model.dimensions) := by
  have rebuilt := rebuiltRows_shot sound fits
  exact ((rebuiltRows_iff_defectRows sound fits.state fits.decision (Trajectories.fits_zeros _)
    rebuilt.fits).mp rebuilt).equations sound fits.state fits.decision rebuilt.fits

/-- **The trajectories that shooting finds satisfy the equations.** -/
theorem solves_shot {sample : Sample K} (fits : sample.Fits model.dimensions) :
    model.Solves (model.stageSpan sample.time) sample.state sample.decision (model.shot sample) :=
  (equations_shot sound fits).solves

/-- **The trajectories are linear** in the state and the decision together. -/
theorem shot_combine {indices : Finset ι} {weight : ι → K} (time : K) {state decision : Vec K}
    {states decisions : ι → Vec K} (fits : Sample.Fits { time, state, decision } model.dimensions)
    (each : ∀ k, Sample.Fits { time, state := states k, decision := decisions k } model.dimensions)
    (stateCombined : state.coord = ∑ k ∈ indices, weight k • (states k).coord)
    (decisionCombined : decision.coord = ∑ k ∈ indices, weight k • (decisions k).coord) (stage : ℕ)
    (below : stage < model.stages) :
    let part := fun k => model.shot { time, state := states k, decision := decisions k }
    (model.shot { time, state, decision }).state.get stage =
        ∑ k ∈ indices, weight k • (part k).state.get stage ∧
      (model.shot { time, state, decision }).costate.get stage =
        ∑ k ∈ indices, weight k • (part k).costate.get stage := by
  intro part
  have whole := equations_shot sound fits
  have parts := fun k => equations_shot sound (each k)
  have defects : Trajectories.Combines indices weight
      (fun _ => Trajectories.zeros model.dimensions) (Trajectories.zeros model.dimensions) :=
    ⟨fun stage => by simp [Trajectories.zeros], fun stage => by simp [Trajectories.zeros]⟩
  exact ⟨whole.combine_states parts stateCombined decisionCombined defects stage below,
    whole.combine_costates parts stateCombined decisionCombined defects stage below⟩

/-- **Along a moved decision**, every stage starts at the state it started at, plus the multiple of
the state that the direction reaches from rest. -/
theorem startCoord_shot_moved (factor : K) {sample : Sample K}
    (fits : sample.Fits model.dimensions) {direction : Vec K}
    (long : direction.size = model.dimensions.decisionSize) {stage : ℕ}
    (within : stage ≤ model.stages) :
    startCoord sample.state (model.shot
        { sample with decision := Vec.moved factor direction sample.decision }).state stage =
      factor • startCoord (Vec.zeros model.state)
          (model.shot (model.atRest sample.time direction)).state stage +
        startCoord sample.state (model.shot sample).state stage := by
  have same : direction.size = sample.decision.size := long.trans fits.decision.symm
  cases stage with
  | zero => simp [startCoord]
  | succ stage =>
    have each : ∀ k : Fin 2, Sample.Fits
        { time := sample.time
          state := ![Vec.zeros model.state, sample.state] k
          decision := ![direction, sample.decision] k } model.dimensions := by
      intro k
      fin_cases k
      · exact fits_atRest sample.time long
      · exact fits
    have moved : Sample.Fits
        { sample with decision := Vec.moved factor direction sample.decision } model.dimensions :=
      ⟨fits.state, Vec.size_moved_of_size long fits.decision⟩
    have state : sample.state.coord = ∑ k : Fin 2, ![factor, 1] k •
        (![Vec.zeros model.state, sample.state] k).coord := by
      simp [Fin.sum_univ_two]
    have decision : (Vec.moved factor direction sample.decision).coord =
        ∑ k : Fin 2, ![factor, 1] k • (![direction, sample.decision] k).coord := by
      simp [Fin.sum_univ_two, Vec.coord_moved _ same]
    have combined := (shot_combine sound sample.time moved each state decision stage within).1
    rw [Fin.sum_univ_two] at combined
    refine combined.trans ?_
    show factor • (model.shot (model.atRest sample.time direction)).state.get stage +
      (1 : K) • (model.shot sample).state.get stage = _
    rw [one_smul]
    rfl

end Exact

end RecedingHorizon.Regulator
