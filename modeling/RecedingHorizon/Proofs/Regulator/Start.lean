/-
**The start is an optimum.**

Over stages of length zero nothing moves: every state is the one that was measured, and every
costate is `S x`. The stationarity residual then falls apart into one linear system, repeated over
the stages, and the start of a regulator is what solves it.

* `Solves.startCoord_still` and `Solves.costate_still`: the trajectories are constant;
* `blockCoord_still`: the block of a stage is the residual of the system;
* `shotResidual_still_iff`: the residual vanishes if and only if every stage solves the system;
* `Optimal` is a decision whose residuals all vanish, and `optimal_iff_eq_of_startWith` says that
  the start is the only one.
-/

import RecedingHorizon.Proofs.Dense.Elimination
import RecedingHorizon.Proofs.Regulator.Adjoint
import RecedingHorizon.Proofs.Regulator.Assembly
import RecedingHorizon.Proofs.Regulator.Shooting

set_option linter.unusedSectionVars false

namespace RecedingHorizon

universe u

variable {K : Type u}

/-! ### Repetitions -/

/-- The coordinates of a product. -/
theorem Mat.coord_mulVec [CommRing K] {matrix : Mat K} {x product : Vec K}
    (multiplied : matrix.mulVec x = .ok product) : product.coord = matrix.linear x.coord := by
  by_cases same : matrix.cols = x.size
  · rw [mulVec_of_size same] at multiplied
    cases multiplied
    exact coord_times same
  · rw [mulVec, if_neg same] at multiplied
    cases multiplied

/-- The coordinates of a product with the transposed matrix. -/
theorem Mat.coord_transposeMulVec [CommRing K] {matrix : Mat K} {x product : Vec K}
    (multiplied : matrix.transposeMulVec x = .ok product) :
    product.size = matrix.cols ∧ product.coord = matrix.transposeLinear x.coord := by
  unfold transposeMulVec at multiplied
  split at multiplied
  · rename_i same
    cases multiplied
    have room : (Vec.zeros matrix.cols : Vec K).size = matrix.cols := Vec.size_zeros _
    have added : matrix.columns.map (fun column => Vec.dot column x) =
        matrix.transposeTimesAdd x (Vec.zeros matrix.cols) := by
      apply Array.ext
      · simp [transposeTimesAdd, columns, Vec.zeros]
      · intro col _ _
        simp [transposeTimesAdd, Vec.zeros]
    rw [added]
    exact ⟨size_transposeTimesAdd room, by
      rw [coord_transposeTimesAdd same room, Vec.coord_zeros, add_zero]⟩
  · cases multiplied

/-- The coordinates of a negated vector. -/
theorem Vec.coord_neg [CommRing K] (vector : Vec K) :
    Vec.coord (vector.map (-·)) = -vector.coord := by
  funext index
  show _ = -vector.coord index
  rw [coord_apply, coord_apply, Array.getElem?_map]
  cases vector[index]? <;> simp

/-- A repeated vector, by its coordinates. -/
theorem Vec.coord_repeated [Zero K] {part : Vec K} {length : ℕ} (size : part.size = length)
    {count stage index : ℕ} (below : stage < count) (inside : index < length) :
    Vec.coord (Array.replicate count part).flatten (stage * length + index) = part.coord index := by
  induction count with
  | zero => exact absurd below (Nat.not_lt_zero _)
  | succ count hypothesis =>
    have written : (Array.replicate count part).flatten.size = count * length := by simp [size]
    rw [Array.replicate_succ, Array.flatten_push, coord_append, written]
    rcases Nat.lt_succ_iff_lt_or_eq.mp below with before | rfl
    · have within : stage * length + index < count * length := by
        calc stage * length + index < stage * length + length := Nat.add_lt_add_left inside _
          _ = (stage + 1) * length := (Nat.succ_mul _ _).symm
          _ ≤ count * length := Nat.mul_le_mul_right _ before
      rw [if_pos within, hypothesis before]
    · rw [if_neg (by omega), Nat.add_sub_cancel_left]

namespace Regulator

/-! ### Nothing moves -/

section Still

variable [CommRing K] {model : Regulator K} {initial decision : Vec K} {pair : Trajectories K}

/-- Every stage starts at the state that was measured. -/
theorem Solves.startCoord_still (solves : model.Solves 0 initial decision pair) {stage : ℕ}
    (within : stage ≤ model.stages) : startCoord initial pair.state stage = initial.coord := by
  induction stage with
  | zero => rfl
  | succ stage hypothesis =>
    rw [solves.state stage within, zero_smul, add_zero, hypothesis (Nat.le_of_succ_le within)]

/-- Every costate is `S x`. -/
theorem Solves.costate_still (solves : model.Solves 0 initial decision pair) {stage : ℕ}
    (below : stage < model.stages) :
    pair.costate.get stage = model.terminalWeight.linear initial.coord := by
  -- by induction on the distance from the last stage
  obtain ⟨distance, last⟩ : ∃ distance, stage + distance = model.stages - 1 :=
    ⟨model.stages - 1 - stage, by omega⟩
  induction distance generalizing stage with
  | zero =>
    obtain rfl : stage = model.stages - 1 := last
    have ends : startCoord initial pair.state (model.stages - 1 + 1) = initial.coord :=
      solves.startCoord_still (by omega)
    rw [solves.terminal]
    exact congrArg _ ends
  | succ distance hypothesis =>
    rw [solves.costate stage (by omega), zero_smul, add_zero]
    exact hypothesis (by omega) (by omega)

end Still

/-! ### The system of a stage -/

section System

variable [CommRing K] {model : Regulator K} (sound : model.Sound)
include sound

/-- The product with the matrix of a stage: `R u + Eᵀ ρ` above `E u`. -/
theorem linear_saddle (block : ℕ → K) {index : ℕ} (inside : index < model.width) :
    model.saddle.linear block index =
      if index < model.input then
        (model.inputWeight.linear block +
          model.constraintMatrix.transposeLinear (model.multiplierCoord block)) index
      else
        model.constraintMatrix.linear block (index - model.input) := by
  obtain ⟨weightRows, weightCols⟩ := Prod.mk.inj sound.inputWeight
  obtain ⟨rows, cols⟩ := Prod.mk.inj (shape_constraintMatrix sound)
  have entry : ∀ col, col < model.width → model.saddle.get index col =
      if index < model.input then
        if col < model.input then model.inputWeight.get index col
        else model.constraintMatrix.get (col - model.input) index
      else
        if col < model.input then model.constraintMatrix.get (index - model.input) col else 0 := by
    intro col beside
    unfold saddle
    rw [Mat.get_ofFn, if_pos ⟨inside, beside⟩]
  have split : model.saddle.linear block index =
      ∑ col ∈ Finset.range model.input, model.saddle.get index col * block col +
        ∑ row ∈ Finset.range model.multipliers,
          model.saddle.get index (model.input + row) * block (model.input + row) := by
    rw [Mat.linear_apply, ← Finset.sum_range_add, ← width_eq]
    rfl
  have left : ∀ col ∈ Finset.range model.input, model.saddle.get index col * block col =
      (if index < model.input then model.inputWeight.get index col
        else model.constraintMatrix.get (index - model.input) col) * block col := by
    intro col member
    have before := Finset.mem_range.mp member
    simp only [entry col (by rw [width_eq]; omega), if_pos before]
  have right : ∀ row ∈ Finset.range model.multipliers,
      model.saddle.get index (model.input + row) * block (model.input + row) =
        (if index < model.input then model.constraintMatrix.get row index else 0) *
          model.multiplierCoord block row := by
    intro row member
    have below := Finset.mem_range.mp member
    have beyond : ¬model.input + row < model.input := by omega
    simp only [entry (model.input + row) (by rw [width_eq]; omega), if_neg beyond,
      Nat.add_sub_cancel_left]
    rfl
  rw [split, Finset.sum_congr rfl left, Finset.sum_congr rfl right]
  by_cases above : index < model.input
  · simp only [if_pos above, Pi.add_apply, Mat.linear_apply, Mat.transposeLinear_apply, weightCols,
      rows]
  · simp only [if_neg above, zero_mul, Finset.sum_const_zero, add_zero, Mat.linear_apply, cols]

/-- The right-hand side of the system of a stage: `-Bᵀ S x` above `e`. -/
theorem coord_saddleTarget {state target : Vec K} (stated : model.saddleTarget state = .ok target)
    (index : ℕ) :
    target.coord index =
      if index < model.input then
        -model.inputMap.transposeLinear (model.terminalWeight.linear state.coord) index
      else
        model.constraintTarget.coord (index - model.input) := by
  obtain ⟨costate, weighted, rest⟩ := bind_eq_ok_iff.mp stated
  obtain ⟨gradient, multiplied, appended⟩ := bind_eq_ok_iff.mp rest
  cases appended
  obtain ⟨size, transposed⟩ := Mat.coord_transposeMulVec multiplied
  have inputs : (gradient.map (-·)).size = model.input := Array.size_map.trans size
  rw [Vec.coord_append, inputs, Vec.coord_neg, transposed, Mat.coord_mulVec weighted]
  rfl

/-- **The block of a stage is what it leaves of the system**, along costates that are `S x`. -/
theorem blockCoord_still {state target : Vec K} (stated : model.saddleTarget state = .ok target)
    (block : ℕ → K) {index : ℕ} (inside : index < model.width) :
    model.blockCoord block (model.terminalWeight.linear state.coord) index =
      model.saddle.linear block index - target.coord index := by
  rw [blockCoord_eq block _ inside, linear_saddle sound block inside,
    coord_saddleTarget sound stated]
  by_cases above : index < model.input
  · simp only [if_pos above, Pi.add_apply]
    ring
  · simp only [if_neg above, Pi.sub_apply]

end System

/-! ### Optimal decisions -/

section Optimal

variable [Field K] [LinearOrder K] [ScalarFunctions K]

/-- **All residuals vanish** along trajectories, whatever the storage holds. -/
structure Vanishes (model : Regulator K) (sample : Sample K) (pair : Trajectories K) : Prop where
  stationarity : ∀ (later : Regulator K) (out : Vec K), model.Storing later →
    out.size = model.dimensions.decisionSize →
    ∃ next, later.stationarity sample pair out =
      .ok (next, Vec.zeros model.dimensions.decisionSize)
  defects : ∀ (later : Regulator K) (out : Trajectories K), model.Storing later →
    out.Fits model.dimensions →
    ∃ next, later.defects sample pair out = .ok (next, Trajectories.zeros model.dimensions)

/-- **A decision is optimal** at a time and in a state: it has an entry for every variable of every
stage, and along the trajectories that are shot from it all residuals vanish. -/
structure Optimal (model : Regulator K) (time : K) (state decision : Vec K) : Prop where
  size : decision.size = model.dimensions.decisionSize
  vanishes : ∃ (next : Regulator K) (pair : Trajectories K),
    model.shoot { time, state, decision } = .ok (next, pair) ∧ model.Storing next ∧
      model.Vanishes { time, state, decision } pair

variable {model : Regulator K} (sound : model.Sound) {time : K} {state decision : Vec K}

omit [LinearOrder K] [ScalarFunctions K] in
/-- Decisions are equal if their stages are. -/
theorem ext_stages {first second : Vec K} (long : first.size = model.dimensions.decisionSize)
    (other : second.size = model.dimensions.decisionSize)
    (same : ∀ stage, stage < model.stages → ∀ index, index < model.width →
      model.stageCoord first stage index = model.stageCoord second stage index) :
    first = second := by
  refine Vec.ext_block model.stages long other fun stage below => ?_
  apply Vec.ext_coord
  · rw [Vec.size_block, Vec.size_block, long, other]
  · funext index
    show (first.block (stage * model.width) model.width).coord index =
      (second.block (stage * model.width) model.width).coord index
    rw [Vec.coord_block, Vec.coord_block]
    by_cases inside : index < model.width
    · rw [if_pos inside, if_pos inside]
      exact same stage below index inside
    · rw [if_neg inside, if_neg inside]

include sound

/-- A decision is optimal if and only if the residual along its trajectories is zero. -/
theorem optimal_iff (fits : Sample.Fits { time, state, decision } model.dimensions) :
    model.Optimal time state decision ↔
      model.shotResidual { time, state, decision } =
        Vec.zeros model.dimensions.decisionSize := by
  obtain ⟨next, shoots, storing⟩ := shoot_value sound fits
  have shotFits := fits_shot sound fits
  constructor
  · rintro ⟨_, _, pair, shot, _, vanishes⟩
    rw [shoots] at shot
    cases shot
    obtain ⟨_, zero⟩ := vanishes.stationarity model _ sound.storing_self (Vec.size_zeros _)
    obtain ⟨_, value, _⟩ := (evaluates sound).stationarity model _ _ _ sound.storing_self fits
      shotFits (Vec.size_zeros _)
    exact congrArg Prod.snd (Except.ok.inj (value.symm.trans zero))
  · intro zero
    refine ⟨fits.decision, next, _, shoots, storing, ?_, ?_⟩
    · intro later out within room
      obtain ⟨last, value, _⟩ :=
        (evaluates sound).stationarity later _ _ out within fits shotFits room
      exact ⟨last, value.trans (congrArg (fun residual => Except.ok (last, residual)) zero)⟩
    · intro later out within room
      obtain ⟨last, value, _⟩ := (evaluates sound).defects later _ _ out within fits shotFits room
      have none := evaluations_defects_rebuild sound fits (Trajectories.fits_zeros model.dimensions)
      exact ⟨last, value.trans (congrArg (fun defects => Except.ok (last, defects)) none)⟩

/-- **Over stages of length zero**, the residual vanishes if and only if every stage solves the
system. -/
theorem shotResidual_still_iff (fits : Sample.Fits { time, state, decision } model.dimensions)
    (still : model.stageSpan time = 0) {target : Vec K}
    (stated : model.saddleTarget state = .ok target) (long : target.size = model.width) :
    model.shotResidual { time, state, decision } = Vec.zeros model.dimensions.decisionSize ↔
      ∀ stage, stage < model.stages →
        model.saddle.linear (model.stageCoord decision stage) = target.coord := by
  have shotFits := fits_shot sound fits
  have blocks := evaluations_stationarity sound fits shotFits
  have solves : model.Solves 0 state decision (model.shot { time, state, decision }) :=
    still ▸ solves_shot sound fits
  have entry : ∀ stage, stage < model.stages → ∀ index, index < model.width →
      model.stageCoord (model.shotResidual { time, state, decision }) stage index =
        model.saddle.linear (model.stageCoord decision stage) index - target.coord index := by
    intro stage below index inside
    rw [← blockCoord_still sound stated _ inside, ← solves.costate_still below]
    exact blocks.coord sound fits.decision shotFits.costate below inside
  constructor
  · intro zero stage below
    funext index
    by_cases inside : index < model.width
    · have row := entry stage below index inside
      rw [zero] at row
      refine sub_eq_zero.mp (row.symm.trans ?_)
      exact congrFun (Vec.coord_zeros _) _
    · have beyond : model.saddle.rows ≤ index := Nat.not_lt.mp inside
      rw [Vec.coord_of_le (by omega), Mat.linear_apply, Mat.get_of_le beyond]
      simp
  · intro each
    refine ext_stages blocks.size (Vec.size_zeros _) fun stage below index inside => ?_
    rw [entry stage below index inside, each stage below, sub_self]
    exact (congrFun (Vec.coord_zeros _) _).symm

/-! ### The start -/

variable {solve : Mat K → Vec K → Option (Vec K)}

/-- What a start was made from. -/
theorem solution_of_startWith (started : model.startWith solve state = .ok (.ok decision)) :
    ∃ target stage : Vec K, state.size = model.state ∧ model.saddleTarget state = .ok target ∧
      target.size = model.width ∧ solve model.saddle target = some stage ∧
      model.placeStages stage = .ok decision := by
  unfold startWith at started
  split at started
  · rename_i size
    obtain ⟨target, assembled, stated, long⟩ := assembleTarget_eq sound size
    rw [assembleMatrix_eq sound, ok_bind, assembled, ok_bind] at started
    split at started
    · rename_i stage solved
      obtain ⟨placed, ran, same⟩ := bind_eq_ok_iff.mp started
      cases same
      exact ⟨target, stage, size, stated, long, solved, ran⟩
    · cases started
  · cases started

/-- **The start is the only optimal decision** over stages of length zero. -/
theorem optimal_iff_eq_of_startWith (decides : 0 < model.width) (exact : Mat.ExactSolver solve)
    (started : model.startWith solve state = .ok (.ok decision))
    (still : model.stageSpan time = 0) {other : Vec K} :
    model.Optimal time state other ↔ other = decision := by
  obtain ⟨target, stage, size, stated, long, solved, placed⟩ := solution_of_startWith sound started
  obtain ⟨stageSize, solves, nonsingular⟩ := exact model.saddle target stage decides rfl long solved
  have stageLong : stage.size = model.width := stageSize.trans long
  rw [placeStages_eq stageLong] at placed
  cases placed
  have repeated : (Array.replicate model.stages stage).flatten.size =
      model.dimensions.decisionSize := by
    simp [stageLong]
    rfl
  have optimal : ∀ {given : Vec K}, given.size = model.dimensions.decisionSize →
      (model.Optimal time state given ↔ ∀ row, row < model.stages →
        model.saddle.linear (model.stageCoord given row) = target.coord) := by
    intro given sized
    rw [optimal_iff sound ⟨size, sized⟩,
      shotResidual_still_iff sound ⟨size, sized⟩ still stated long]
  have entry : ∀ row, row < model.stages → ∀ index, index < model.width →
      model.stageCoord (Array.replicate model.stages stage).flatten row index =
        stage.coord index :=
    fun row below index inside => Vec.coord_repeated stageLong below inside
  constructor
  · intro given
    refine ext_stages given.size repeated fun row below index inside => ?_
    rw [entry row below index inside]
    refine nonsingular.unique ?_ (show index < model.saddle.cols from inside)
    exact ((optimal given.size).mp given row below).trans solves.symm
  · rintro rfl
    refine (optimal repeated).mpr fun row below => ?_
    rw [← solves]
    exact Mat.linear_congr fun index inside => entry row below index inside

end Optimal

end Regulator

end RecedingHorizon
