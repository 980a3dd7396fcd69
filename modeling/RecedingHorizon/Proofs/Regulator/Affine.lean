/-
**The regulator is affine.**

At a fixed time, the trajectories rebuilt from targets are a linear function of the state, the
decision and the targets, and the stationarity residual along them is an affine one.

* `DefectEquations.combine_states` and `DefectEquations.combine_costates`: the trajectories that
  have combined defects from a combined state under a combined decision are the combined ones,
  whatever the weights;
* `StationarityBlocks.combine`: if the weights add up to one, the residual of combined costates and
  decisions is the combined one;
* `evaluations_combine` puts the two together, and `evaluations_combine_pairs` says the same of the
  defects and the residual of combined trajectories.
-/

import Mathlib.Algebra.Module.BigOperators
import RecedingHorizon.Proofs.Regulator.Inverse

set_option linter.unusedSectionVars false

namespace RecedingHorizon

universe u v

variable {K : Type u} {ι : Type v}

/-- The pair is the combination of the parts with the given weights. -/
structure Trajectories.Combines [CommRing K] (indices : Finset ι) (weight : ι → K)
    (parts : ι → Trajectories K) (whole : Trajectories K) : Prop where
  state : ∀ stage, whole.state.get stage = ∑ k ∈ indices, weight k • (parts k).state.get stage
  costate : ∀ stage,
    whole.costate.get stage = ∑ k ∈ indices, weight k • (parts k).costate.get stage

/-- The coordinates of two vectors, one behind the other. -/
theorem Vec.coord_append [Zero K] (first second : Vec K) (index : ℕ) :
    Vec.coord (first ++ second) index =
      if index < first.size then first.coord index else second.coord (index - first.size) := by
  rw [coord_apply, Array.getElem?_append]
  split
  · rw [coord_apply]
  · rw [coord_apply]

namespace Regulator

/-! ### The block of a stage -/

section Block

variable [CommRing K]

/-- The block of a stage, from the part of the decision that starts with the inputs of the stage:
`R u + Bᵀ λ + Eᵀ ρ` above `E u - e`. -/
def blockCoord (model : Regulator K) (block costate : ℕ → K) : ℕ → K :=
  match model.constraint with
  | some constraint => fun index =>
    if index < model.input then
      (model.inputWeight.linear block + model.inputMap.transposeLinear costate +
        constraint.matrix.transposeLinear fun row => block (model.input + row)) index
    else
      (constraint.matrix.linear block - constraint.target.coord) (index - model.input)
  | none => model.inputWeight.linear block + model.inputMap.transposeLinear costate

variable {model : Regulator K} (sound : model.Sound)
include sound

theorem coord_gradientOf {decision costate : Vec K} {stage : ℕ}
    (long : decision.size = model.dimensions.decisionSize) (below : stage < model.stages)
    (size : costate.size = model.state) :
    (model.gradientOf decision stage costate).coord =
      model.inputWeight.linear (model.stageCoord decision stage) +
        model.inputMap.transposeLinear costate.coord := by
  obtain ⟨rows, cols⟩ := Prod.mk.inj sound.inputWeight
  have source : model.inputMap.rows = costate.size := sound.inputMap.trans size.symm
  have target : (model.inputWeight.times (model.inputsOf decision stage)).size =
      model.inputMap.cols := by
    rw [Mat.size_times, rows]
    rfl
  unfold gradientOf
  rw [Mat.coord_transposeTimesAdd source target,
    Mat.coord_times (cols.trans (size_inputsOf long below).symm), linear_inputsOf cols, add_comm]

theorem coord_blockOf {decision costate : Vec K} {stage : ℕ}
    (long : decision.size = model.dimensions.decisionSize) (below : stage < model.stages)
    (size : costate.size = model.state) :
    (model.blockOf decision stage costate).coord =
      model.blockCoord (model.stageCoord decision stage) costate.coord := by
  have gradientSize := size_gradientOf sound decision stage costate
  have gradient := coord_gradientOf sound long below size
  unfold blockOf blockCoord
  cases given : model.constraint with
  | none => exact gradient
  | some constraint =>
    obtain ⟨cols, target⟩ := sound.constraint constraint given
    have rows := multipliers_of_some given
    have multipliers :
        constraint.matrix.transposeLinear (model.multipliersOf decision stage).coord =
        constraint.matrix.transposeLinear fun row =>
          model.stageCoord decision stage (model.input + row) := by
      funext col
      rw [Mat.transposeLinear_apply, Mat.transposeLinear_apply]
      refine Finset.sum_congr rfl fun row inside => ?_
      unfold multipliersOf stageCoord
      rw [Vec.coord_block, if_pos (rows ▸ Finset.mem_range.mp inside), Nat.add_assoc]
    have upper : (constraint.matrix.transposeTimesAdd (model.multipliersOf decision stage)
        (model.gradientOf decision stage costate)).coord =
        constraint.matrix.transposeLinear (model.multipliersOf decision stage).coord +
          (model.gradientOf decision stage costate).coord :=
      Mat.coord_transposeTimesAdd (rows.symm.trans (size_multipliersOf long below).symm)
        (gradientSize.trans cols.symm)
    have lower : (constraint.matrix.timesAdd 1 (model.inputsOf decision stage) (-1)
        constraint.target).coord =
        constraint.matrix.linear (model.stageCoord decision stage) - constraint.target.coord := by
      rw [Mat.coord_timesAdd 1 (-1) (cols.trans (size_inputsOf long below).symm) target,
        linear_inputsOf cols]
      module
    funext index
    simp only
    rw [Vec.coord_append, Mat.size_transposeTimesAdd (gradientSize.trans cols.symm), cols, upper,
      lower, multipliers, gradient]
    by_cases inside : index < model.input
    · rw [if_pos inside, if_pos inside, add_comm]
    · rw [if_neg inside, if_neg inside]

/-- **The stationarity residual by coordinates.** -/
theorem StationarityBlocks.coord {decision residual : Vec K} {costates : Mat K}
    (blocks : model.StationarityBlocks decision costates residual)
    (long : decision.size = model.dimensions.decisionSize)
    (shape : costates.shape = (model.stages, model.state)) {stage index : ℕ}
    (below : stage < model.stages) (inside : index < model.width) :
    residual.coord (stage * model.width + index) =
      model.blockCoord (model.stageCoord decision stage) (costates.get stage) index := by
  have row := congrFun (congrArg Vec.coord (blocks.block stage below)) index
  rw [coord_blockOf sound long below (size_rowAt_of_shape shape below), Mat.coord_rowAt,
    Vec.coord_block, if_pos inside] at row
  exact row

end Block

/-! ### Combinations -/

section Combinations

variable [CommRing K] {model : Regulator K} {indices : Finset ι} {weight : ι → K}

/-- A part of a combined sequence. -/
theorem combine_shift (first : ℕ) (parts : ι → ℕ → K) :
    (fun index => (∑ k ∈ indices, weight k • parts k) (first + index)) =
      ∑ k ∈ indices, weight k • fun index => parts k (first + index) := by
  funext index
  simp only [Finset.sum_apply, Pi.smul_apply]

theorem stageCoord_combine {decision : Vec K} {decisions : ι → Vec K}
    (combined : decision.coord = ∑ k ∈ indices, weight k • (decisions k).coord) (stage : ℕ) :
    model.stageCoord decision stage =
      ∑ k ∈ indices, weight k • model.stageCoord (decisions k) stage := by
  unfold stageCoord
  rw [combined]
  exact combine_shift _ _

section Defects

variable {span : K} {initial decision : Vec K} {pair defects : Trajectories K}
  {initials decisions : ι → Vec K} {pairs parts : ι → Trajectories K}
  (whole : model.DefectEquations span initial decision pair defects)
  (each : ∀ k, model.DefectEquations span (initials k) (decisions k) (pairs k) (parts k))
  (initialCombined : initial.coord = ∑ k ∈ indices, weight k • (initials k).coord)
  (decisionCombined : decision.coord = ∑ k ∈ indices, weight k • (decisions k).coord)
  (defectsCombined : Trajectories.Combines indices weight parts defects)
include whole each initialCombined decisionCombined defectsCombined

omit whole each decisionCombined defectsCombined in
/-- The state that a stage starts at is the combined one, if all states before it are. -/
theorem startCoord_combine {stage : ℕ} (states : ∀ row, row < stage →
      pair.state.get row = ∑ k ∈ indices, weight k • (pairs k).state.get row) :
    startCoord initial pair.state stage =
      ∑ k ∈ indices, weight k • startCoord (initials k) (pairs k).state stage := by
  cases stage with
  | zero => exact initialCombined
  | succ stage => exact states stage (Nat.lt_succ_self stage)

/-- The states that have combined defects are the combined states, from the first stage on. -/
theorem DefectEquations.combine_states (stage : ℕ) (below : stage < model.stages) :
    pair.state.get stage = ∑ k ∈ indices, weight k • (pairs k).state.get stage := by
  induction stage using Nat.strongRecOn with
  | _ stage hypothesis =>
    have start := startCoord_combine initialCombined fun row before =>
      hypothesis row before (Nat.lt_trans before below)
    have rows : ∀ k ∈ indices, weight k • (pairs k).state.get stage =
        weight k • ((parts k).state.get stage + startCoord (initials k) (pairs k).state stage +
          span • (model.dynamics.linear (startCoord (initials k) (pairs k).state stage) +
            model.inputMap.linear (model.stageCoord (decisions k) stage))) :=
      fun k _ => by rw [← eq_add_add_iff.mpr ((each k).state stage below)]
    rw [eq_add_add_iff.mpr (whole.state stage below), defectsCombined.state, start,
      stageCoord_combine decisionCombined, Finset.sum_congr rfl rows]
    simp only [map_sum, map_smul, smul_add, Finset.smul_sum, smul_comm span, Finset.sum_add_distrib]

/-- **Combined defects under a combined decision belong to the combined costates**, from the last
stage back. -/
theorem DefectEquations.combine_costates (stage : ℕ) (below : stage < model.stages) :
    pair.costate.get stage = ∑ k ∈ indices, weight k • (pairs k).costate.get stage := by
  have states := whole.combine_states each initialCombined decisionCombined defectsCombined
  -- by induction on the distance from the last stage
  have costates : ∀ distance, distance < model.stages →
      pair.costate.get (model.stages - 1 - distance) =
        ∑ k ∈ indices, weight k • (pairs k).costate.get (model.stages - 1 - distance) := by
    intro distance
    induction distance with
    | zero =>
      intro _
      have rows : ∀ k ∈ indices, weight k • (pairs k).costate.get (model.stages - 1) =
          weight k • ((parts k).costate.get (model.stages - 1) +
            model.terminalWeight.linear ((pairs k).state.get (model.stages - 1))) :=
        fun k _ => by rw [eq_sub_iff_add_eq.mp (each k).terminal]
      rw [Nat.sub_zero, ← eq_sub_iff_add_eq.mp whole.terminal, defectsCombined.costate,
        states _ (by omega), Finset.sum_congr rfl rows]
      simp only [map_sum, map_smul, smul_add, Finset.sum_add_distrib]
    | succ distance hypothesis =>
      intro within
      have before : model.stages - 1 - (distance + 1) < model.stages - 1 := by omega
      have next : model.stages - 1 - (distance + 1) + 1 = model.stages - 1 - distance := by omega
      have row := whole.costate _ before
      have rowOf := fun k => (each k).costate _ before
      rw [next] at row
      simp only [next] at rowOf
      have rows : ∀ k ∈ indices,
          weight k • (pairs k).costate.get (model.stages - 1 - (distance + 1)) =
          weight k • ((parts k).costate.get (model.stages - 1 - (distance + 1)) +
            (pairs k).costate.get (model.stages - 1 - distance) +
            span • (model.stateWeight.linear
                ((pairs k).state.get (model.stages - 1 - (distance + 1))) +
              model.dynamics.transposeLinear
                ((pairs k).costate.get (model.stages - 1 - distance)))) :=
        fun k _ => by rw [← eq_add_add_iff.mpr (rowOf k)]
      rw [eq_add_add_iff.mpr row, defectsCombined.costate, hypothesis (by omega),
        states _ (by omega), Finset.sum_congr rfl rows]
      simp only [map_sum, map_smul, smul_add, Finset.smul_sum, smul_comm span,
        Finset.sum_add_distrib]
  have place : model.stages - 1 - (model.stages - 1 - stage) = stage := by omega
  rw [← place]
  exact costates _ (by omega)

end Defects

section Pairs

variable {span : K} {initial decision : Vec K} {pair defects : Trajectories K}
  {initials decisions : ι → Vec K} {pairs parts : ι → Trajectories K}
  (whole : model.DefectEquations span initial decision pair defects)
  (each : ∀ k, model.DefectEquations span (initials k) (decisions k) (pairs k) (parts k))
  (pairCombined : Trajectories.Combines indices weight pairs pair)
include whole each pairCombined

/-- The defects of combined states are the combined ones. -/
theorem DefectEquations.combine_state_defects
    (initialCombined : initial.coord = ∑ k ∈ indices, weight k • (initials k).coord)
    (decisionCombined : decision.coord = ∑ k ∈ indices, weight k • (decisions k).coord)
    {stage : ℕ} (below : stage < model.stages) :
    defects.state.get stage = ∑ k ∈ indices, weight k • (parts k).state.get stage := by
  have start : startCoord initial pair.state stage =
      ∑ k ∈ indices, weight k • startCoord (initials k) (pairs k).state stage :=
    startCoord_combine initialCombined fun row _ => pairCombined.state row
  rw [whole.state stage below, pairCombined.state, start, stageCoord_combine decisionCombined,
    Finset.sum_congr rfl fun k _ => congrArg (weight k • ·) ((each k).state stage below)]
  simp only [map_sum, map_smul, smul_sub, smul_add, Finset.smul_sum, smul_comm span,
    Finset.sum_sub_distrib, Finset.sum_add_distrib]

/-- The defects of combined costates are the combined ones. -/
theorem DefectEquations.combine_costate_defects {stage : ℕ} (below : stage < model.stages) :
    defects.costate.get stage = ∑ k ∈ indices, weight k • (parts k).costate.get stage := by
  by_cases last : stage = model.stages - 1
  · rw [last, whole.terminal, pairCombined.costate, pairCombined.state,
      Finset.sum_congr rfl fun k _ => congrArg (weight k • ·) (each k).terminal]
    simp only [map_sum, map_smul, smul_sub, Finset.sum_sub_distrib]
  · have before : stage < model.stages - 1 := by omega
    rw [whole.costate stage before, pairCombined.costate, pairCombined.costate,
      pairCombined.state,
      Finset.sum_congr rfl fun k _ => congrArg (weight k • ·) ((each k).costate stage before)]
    simp only [map_sum, map_smul, smul_sub, smul_add, Finset.smul_sum, smul_comm span,
      Finset.sum_sub_distrib, Finset.sum_add_distrib]

end Pairs

variable (one : ∑ k ∈ indices, weight k = 1)
include one

/-- Something constant is its own combination. -/
theorem combine_const (constant : ℕ → K) :
    ∑ k ∈ indices, weight k • constant = constant := by
  rw [← Finset.sum_smul, one, one_smul]

/-- The block of a stage is affine. -/
theorem blockCoord_combine (blocks costates : ι → ℕ → K) :
    model.blockCoord (∑ k ∈ indices, weight k • blocks k) (∑ k ∈ indices, weight k • costates k) =
      ∑ k ∈ indices, weight k • model.blockCoord (blocks k) (costates k) := by
  unfold blockCoord
  cases model.constraint with
  | none =>
    rw [map_sum, map_sum]
    simp only [map_smul, smul_add, Finset.sum_add_distrib]
  | some constraint =>
    funext index
    rw [Finset.sum_apply]
    by_cases upper : index < model.input
    · simp only [if_pos upper, Pi.smul_apply]
      rw [combine_shift, map_sum, map_sum, map_sum]
      simp only [map_smul, Pi.add_apply, Finset.sum_apply, Pi.smul_apply, smul_add,
        Finset.sum_add_distrib]
    · simp only [if_neg upper, Pi.smul_apply]
      have target := congrFun (combine_const one constraint.target.coord) (index - model.input)
      rw [Finset.sum_apply] at target
      simp only [Pi.smul_apply] at target
      rw [map_sum]
      simp only [map_smul, Pi.sub_apply, Finset.sum_apply, Pi.smul_apply, smul_sub,
        Finset.sum_sub_distrib]
      rw [target]

/-- **Combined costates and decisions have the combined residual.** -/
theorem StationarityBlocks.combine (sound : model.Sound) {decision residual : Vec K}
    {costates : Mat K} {decisions residuals : ι → Vec K} {parts : ι → Mat K}
    (whole : model.StationarityBlocks decision costates residual)
    (each : ∀ k, model.StationarityBlocks (decisions k) (parts k) (residuals k))
    (long : decision.size = model.dimensions.decisionSize)
    (shape : costates.shape = (model.stages, model.state))
    (longs : ∀ k, (decisions k).size = model.dimensions.decisionSize)
    (shapes : ∀ k, (parts k).shape = (model.stages, model.state))
    (decisionCombined : decision.coord = ∑ k ∈ indices, weight k • (decisions k).coord)
    (costatesCombined : ∀ stage, stage < model.stages →
      costates.get stage = ∑ k ∈ indices, weight k • (parts k).get stage) :
    residual.coord = ∑ k ∈ indices, weight k • (residuals k).coord := by
  funext position
  rw [Finset.sum_apply]
  simp only [Pi.smul_apply]
  by_cases inside : position < model.dimensions.decisionSize
  · -- the position lies in the block of a stage
    have wide : 0 < model.width := Nat.pos_of_mul_pos_left (Nat.zero_lt_of_lt inside)
    have below : position / model.width < model.stages :=
      Nat.div_lt_of_lt_mul (Nat.mul_comm model.stages model.width ▸ inside)
    have within := Nat.mod_lt position wide
    rw [← Nat.div_add_mod' position model.width, whole.coord sound long shape below within,
      stageCoord_combine decisionCombined, costatesCombined _ below, blockCoord_combine one,
      Finset.sum_apply]
    refine Finset.sum_congr rfl fun k _ => ?_
    rw [Pi.smul_apply, (each k).coord sound (longs k) (shapes k) below within]
  · rw [Vec.coord_of_le (whole.size ▸ Nat.not_lt.mp inside)]
    refine (Finset.sum_eq_zero fun k _ => ?_).symm
    rw [Vec.coord_of_le ((each k).size ▸ Nat.not_lt.mp inside), smul_zero]

end Combinations

/-! ### Evaluations -/

section Evaluations

variable [Field K] [LinearOrder K] [ScalarFunctions K] {model : Regulator K}
  {indices : Finset ι} {weight : ι → K}

/-- **The stationarity residual along rebuilt trajectories is affine** in the state, the decision
and the targets. -/
theorem evaluations_combine (sound : model.Sound) (time : K) (one : ∑ k ∈ indices, weight k = 1)
    {state decision : Vec K} {targets : Trajectories K} {states decisions : ι → Vec K}
    {parts : ι → Trajectories K} (size : state.size = model.state)
    (sizes : ∀ k, (states k).size = model.state)
    (long : decision.size = model.dimensions.decisionSize)
    (longs : ∀ k, (decisions k).size = model.dimensions.decisionSize)
    (fits : targets.Fits model.dimensions) (partsFit : ∀ k, (parts k).Fits model.dimensions)
    (stateCombined : state.coord = ∑ k ∈ indices, weight k • (states k).coord)
    (decisionCombined : decision.coord = ∑ k ∈ indices, weight k • (decisions k).coord)
    (targetsCombined : Trajectories.Combines indices weight parts targets) :
    Vec.coord (model.evaluations.stationarity { time, state, decision }
        (model.evaluations.rebuild { time, state, decision } targets)) =
      ∑ k ∈ indices, weight k • Vec.coord (model.evaluations.stationarity
        { time, state := states k, decision := decisions k }
        (model.evaluations.rebuild { time, state := states k, decision := decisions k }
          (parts k))) := by
  have sampleFits : Sample.Fits { time, state, decision } model.dimensions := ⟨size, long⟩
  have samplesFit : ∀ k,
      Sample.Fits { time, state := states k, decision := decisions k } model.dimensions :=
    fun k => ⟨sizes k, longs k⟩
  have rebuilt := evaluations_rebuild sound sampleFits fits
  have rebuiltParts := fun k => evaluations_rebuild sound (samplesFit k) (partsFit k)
  have equations := ((rebuiltRows_iff_defectRows sound size long fits rebuilt.fits).mp
    rebuilt).equations sound size long rebuilt.fits
  have equationsParts := fun k =>
    ((rebuiltRows_iff_defectRows sound (sizes k) (longs k) (partsFit k) (rebuiltParts k).fits).mp
      (rebuiltParts k)).equations sound (sizes k) (longs k) (rebuiltParts k).fits
  have costates := equations.combine_costates equationsParts stateCombined decisionCombined
    targetsCombined
  exact (evaluations_stationarity sound sampleFits rebuilt.fits).combine one sound
    (fun k => evaluations_stationarity sound (samplesFit k) (rebuiltParts k).fits) long
    rebuilt.fits.costate longs (fun k => (rebuiltParts k).fits.costate) decisionCombined costates

/-- **The residuals of a pair of trajectories are affine** in the state, the decision and the pair:
the defects of both equations, and the stationarity residual. -/
theorem evaluations_combine_pairs (sound : model.Sound) (time : K)
    (one : ∑ k ∈ indices, weight k = 1) {state decision : Vec K} {pair : Trajectories K}
    {states decisions : ι → Vec K} {pairs : ι → Trajectories K} (size : state.size = model.state)
    (sizes : ∀ k, (states k).size = model.state)
    (long : decision.size = model.dimensions.decisionSize)
    (longs : ∀ k, (decisions k).size = model.dimensions.decisionSize)
    (fits : pair.Fits model.dimensions) (pairsFit : ∀ k, (pairs k).Fits model.dimensions)
    (stateCombined : state.coord = ∑ k ∈ indices, weight k • (states k).coord)
    (decisionCombined : decision.coord = ∑ k ∈ indices, weight k • (decisions k).coord)
    (pairCombined : Trajectories.Combines indices weight pairs pair) :
    Trajectories.Combines indices weight
        (fun k => model.evaluations.defects
          { time, state := states k, decision := decisions k } (pairs k))
        (model.evaluations.defects { time, state, decision } pair) ∧
      Vec.coord (model.evaluations.stationarity { time, state, decision } pair) =
        ∑ k ∈ indices, weight k • Vec.coord (model.evaluations.stationarity
          { time, state := states k, decision := decisions k } (pairs k)) := by
  have sampleFits : Sample.Fits { time, state, decision } model.dimensions := ⟨size, long⟩
  have samplesFit : ∀ k,
      Sample.Fits { time, state := states k, decision := decisions k } model.dimensions :=
    fun k => ⟨sizes k, longs k⟩
  have defects := evaluations_defects sound sampleFits fits
  have defectsOf := fun k => evaluations_defects sound (samplesFit k) (pairsFit k)
  have whole := defects.equations sound size long fits
  have each := fun k => (defectsOf k).equations sound (sizes k) (longs k) (pairsFit k)
  -- beyond the stages there are no defects
  have beyond : ∀ {matrix : Mat K} {stage : ℕ}, matrix.shape = model.dimensions.trajectory →
      ¬stage < model.stages → matrix.get stage = 0 := fun shape outside =>
    Mat.get_of_le ((Prod.mk.inj shape).1.trans_le (Nat.not_lt.mp outside))
  refine ⟨⟨fun stage => ?_, fun stage => ?_⟩, ?_⟩
  · by_cases below : stage < model.stages
    · exact whole.combine_state_defects each pairCombined stateCombined decisionCombined below
    · rw [beyond defects.fits.state below]
      refine (Finset.sum_eq_zero fun k _ => ?_).symm
      rw [beyond (defectsOf k).fits.state below, smul_zero]
  · by_cases below : stage < model.stages
    · exact whole.combine_costate_defects each pairCombined below
    · rw [beyond defects.fits.costate below]
      refine (Finset.sum_eq_zero fun k _ => ?_).symm
      rw [beyond (defectsOf k).fits.costate below, smul_zero]
  · exact (evaluations_stationarity sound sampleFits fits).combine one sound
      (fun k => evaluations_stationarity sound (samplesFit k) (pairsFit k)) long fits.costate longs
      (fun k => (pairsFit k).costate) decisionCombined fun stage _ => pairCombined.costate stage

end Evaluations

end Regulator

end RecedingHorizon
