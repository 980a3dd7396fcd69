/-
**Assembling the start of a regulator.**

`Regulator.startDecision` gives the system of a stage and its repeated solution as values. Here both
are put together in storage, block by block, with every view and every copy checked, and with any
solver in the place of the elimination.

* `Regulator.startWith` is the start with a solver;
* `startWith_returns`: no view and no copy is out of range, if a solution is as long as its
  right-hand side;
* `startWith_elimination`: with the elimination it is `Regulator.startDecision`.
-/

import RecedingHorizon.Regulator.Start
import RecedingHorizon.Proofs.Dense.Elimination
import RecedingHorizon.Proofs.Regulator.Shapes

namespace RecedingHorizon

universe u

variable {K : Type u}

/-! ### Blocks of a matrix -/

namespace Mat

section Blocks

variable [Zero K]

/-- The transposed matrix. -/
def transpose (matrix : Mat K) : Mat K :=
  ofFn matrix.cols matrix.rows fun i j => matrix.get j i

@[simp]
theorem rows_transpose (matrix : Mat K) : matrix.transpose.rows = matrix.cols :=
  rfl

@[simp]
theorem cols_transpose (matrix : Mat K) : matrix.transpose.cols = matrix.rows :=
  rfl

@[simp]
theorem get_transpose (matrix : Mat K) (i j : Nat) : matrix.transpose.get i j = matrix.get j i := by
  unfold transpose
  rw [get_ofFn]
  split
  · rfl
  · rename_i outside
    unfold get
    split
    · rw [dif_neg fun beside => outside ⟨beside, by assumption⟩]
    · rfl

/-- The block of the given size from a row and a column on. -/
def view (matrix : Mat K) (row col rows cols : Nat) : Checked (Mat K) :=
  if row + rows ≤ matrix.rows then
    if col + cols ≤ matrix.cols then
      .ok (ofFn rows cols fun i j => matrix.get (row + i) (col + j))
    else
      .error (.outOfRange (col + cols) matrix.cols)
  else
    .error (.outOfRange (row + rows) matrix.rows)

/-- The matrix with the block from a row and a column on replaced. -/
def pasted (matrix : Mat K) (row col : Nat) (block : Mat K) : Mat K :=
  ofFn matrix.rows matrix.cols fun i j =>
    if (row ≤ i ∧ i < row + block.rows) ∧ (col ≤ j ∧ j < col + block.cols) then
      block.get (i - row) (j - col)
    else
      matrix.get i j

/-- The matrix with the content of `source` in the block of the given size. -/
def paste (matrix : Mat K) (row col rows cols : Nat) (source : Mat K) : Checked (Mat K) := do
  let block ← matrix.view row col rows cols
  let copied ← overwrite block source
  return matrix.pasted row col copied

omit [Zero K] in
/-- Matrices given by their entries are the same if the entries inside them are. -/
theorem ofFn_congr {rows cols : Nat} {first second : Nat → Nat → K}
    (entries : ∀ i, i < rows → ∀ j, j < cols → first i j = second i j) :
    ofFn rows cols first = ofFn rows cols second := by
  unfold ofFn
  congr
  funext i
  congr
  funext j
  exact entries i i.isLt j j.isLt

@[simp]
theorem rows_pasted (matrix : Mat K) (row col : Nat) (block : Mat K) :
    (matrix.pasted row col block).rows = matrix.rows :=
  rfl

@[simp]
theorem cols_pasted (matrix : Mat K) (row col : Nat) (block : Mat K) :
    (matrix.pasted row col block).cols = matrix.cols :=
  rfl

theorem get_pasted {matrix : Mat K} (row col : Nat) (block : Mat K) {i j : Nat}
    (inside : i < matrix.rows) (beside : j < matrix.cols) :
    (matrix.pasted row col block).get i j =
      if (row ≤ i ∧ i < row + block.rows) ∧ (col ≤ j ∧ j < col + block.cols) then
        block.get (i - row) (j - col)
      else
        matrix.get i j := by
  unfold pasted
  rw [get_ofFn, if_pos ⟨inside, beside⟩]

/-- A block inside the matrix takes a matrix of its size. -/
theorem paste_of_le {matrix source : Mat K} {row col rows cols : Nat}
    (size : source.shape = (rows, cols)) (inside : row + rows ≤ matrix.rows)
    (beside : col + cols ≤ matrix.cols) :
    matrix.paste row col rows cols source = .ok (matrix.pasted row col source) := by
  have same : (ofFn rows cols fun i j => matrix.get (row + i) (col + j)).shape = source.shape :=
    size.symm
  unfold paste view
  rw [if_pos inside, if_pos beside, ok_bind, overwrite_of_shape same, ok_bind]
  rfl

end Blocks

/-- The product with the transposed matrix has an entry for every column. -/
theorem exists_transposeMulVec [Zero K] [Add K] [Mul K] {matrix : Mat K} {x : Vec K}
    (same : matrix.rows = x.size) :
    ∃ product, matrix.transposeMulVec x = .ok product ∧ product.size = matrix.cols :=
  ⟨_, if_pos same, by simp [columns]⟩

end Mat

/-! ### Blocks of a vector -/

namespace Vec

/-- The vector with the content of `source` in the block of the given length. -/
def paste (vector : Vec K) (start length : Nat) (source : Vec K) : Checked (Vec K) := do
  let block ← segment vector start length
  let copied ← overwrite block source
  splice vector start copied

/-- A block is written after what is written already. -/
theorem paste_append [Zero K] (written : Vec K) {source : Vec K} {length : Nat} (rest : Nat)
    (size : source.size = length) :
    paste (written ++ zeros (length + rest)) written.size length source =
      .ok (written ++ source ++ zeros rest) := by
  have inside : written.size + length ≤ (written ++ zeros (length + rest)).size := by
    rw [Array.size_append, size_zeros]
    omega
  unfold paste
  rw [segment_of_le inside, ok_bind, overwrite_of_size, ok_bind, splice_of_le (size ▸ inside),
    patch]
  · congr 2
    · simp
    · simp [Array.extract_append, zeros, size]
  · rw [size_block]
    omega

end Vec

namespace Regulator

/-! ### The start in storage -/

section Assembly

variable [Zero K]

/-- The matrix of the system of a stage. -/
def assembleMatrix (model : Regulator K) : Checked (Mat K) := do
  let weighted ← (Mat.zeros model.width model.width).paste 0 0 model.input model.input
    model.inputWeight
  match model.constraint with
  | some constraint =>
    let above ← weighted.paste 0 model.input model.input model.multipliers
      constraint.matrix.transpose
    above.paste model.input 0 model.multipliers model.input constraint.matrix
  | none => return weighted

/-- The right-hand side of the system of a stage. -/
def assembleTarget [Add K] [Mul K] [Neg K] (model : Regulator K) (state : Vec K) :
    Checked (Vec K) := do
  let costate ← model.terminalWeight.mulVec state
  let gradient ← model.inputMap.transposeMulVec costate
  let target ← (Vec.zeros model.width).paste 0 model.input (gradient.map (-·))
  match model.constraint with
  | some constraint => target.paste model.input model.multipliers constraint.target
  | none => return target

/-- The decision of one stage, written into the block of a stage. -/
def placeStage (model : Regulator K) (decision : Vec K) (stage : Nat) (out : Vec K) :
    Checked (Vec K) :=
  Vec.paste out (stage * model.width) model.width decision

/-- The decision of one stage, for all stages. -/
def placeStages (model : Regulator K) (decision : Vec K) : Checked (Vec K) :=
  Sweep.forward (model.placeStage decision) model.stages (Vec.zeros (model.stages * model.width))

/-- A solution of a square system, if there is one, is as long as the right-hand side. The system
without unknowns is left out. -/
def Conforms (solve : Mat K → Vec K → Option (Vec K)) : Prop :=
  ∀ matrix right solution, 0 < matrix.rows → matrix.cols = matrix.rows →
    right.size = matrix.rows → solve matrix right = some solution → solution.size = right.size

/-- The optimal decision over a horizon of length zero, with a solver. -/
def startWith [Add K] [Mul K] [Neg K] (solve : Mat K → Vec K → Option (Vec K))
    (model : Regulator K) (state : Vec K) : Checked (Except NoStart (Vec K)) :=
  if state.size = model.state then do
    let matrix ← model.assembleMatrix
    let target ← model.assembleTarget state
    match solve matrix target with
    | some stage =>
      let decision ← model.placeStages stage
      return .ok decision
    | none => return .error .singular
  else
    .ok (.error (.state model.state state.size))

end Assembly

/-! ### It is in range -/

section Returns

variable [Zero K] {model : Regulator K}

/-- The decision of one stage has its place in the decision of all stages. -/
theorem placeStages_eq {decision : Vec K} (size : decision.size = model.width) :
    model.placeStages decision = .ok (Array.replicate model.stages decision).flatten := by
  have placed : ∀ count rest, Sweep.forward (model.placeStage decision) count
      (Vec.zeros ((count + rest) * model.width)) =
        .ok ((Array.replicate count decision).flatten ++ Vec.zeros (rest * model.width)) := by
    intro count
    induction count with
    | zero => simp
    | succ count hypothesis =>
      intro rest
      have written : (Array.replicate count decision).flatten.size = count * model.width := by
        simp [size]
      have room : (count + 1 + rest) * model.width = (count + (rest + 1)) * model.width := by
        congr 1
        omega
      rw [Sweep.forward_succ, room, hypothesis (rest + 1), ok_bind, placeStage, ← written,
        Nat.succ_mul, Nat.add_comm (rest * model.width), Vec.paste_append _ _ size,
        Array.replicate_succ, Array.flatten_push]
  have whole := placed model.stages 0
  simpa [placeStages, Vec.zeros] using whole

variable (sound : model.Sound)
include sound

/-- The matrix of the system of a stage is assembled. -/
theorem assembleMatrix_eq : model.assembleMatrix = .ok model.saddle := by
  have width := model.width_eq
  unfold assembleMatrix
  rw [Mat.paste_of_le sound.inputWeight (by simp [Mat.zeros, width]) (by simp [Mat.zeros, width]),
    ok_bind]
  obtain ⟨weightRows, weightCols⟩ := Prod.mk.inj sound.inputWeight
  cases given : model.constraint with
  | none =>
    have free := multipliers_of_none given
    refine congrArg Except.ok (Mat.ofFn_congr fun i inside j beside => ?_)
    have left : i < model.input := by simp only [Mat.zeros] at inside; omega
    have right : j < model.input := by simp only [Mat.zeros] at beside; omega
    simp [weightRows, weightCols, left, right]
  | some constraint =>
    obtain ⟨columns, _⟩ := sound.constraint constraint given
    have rows := multipliers_of_some given
    simp only
    rw [Mat.paste_of_le (by simp [Mat.shape, columns, rows])
        (by simp [Mat.zeros, width]) (by simp [Mat.zeros, width]), ok_bind,
      Mat.paste_of_le (by simp [Mat.shape, columns, rows])
        (by simp [Mat.zeros, width]) (by simp [Mat.zeros, width])]
    refine congrArg Except.ok (Mat.ofFn_congr fun i inside j beside => ?_)
    change i < model.width at inside
    change j < model.width at beside
    rw [Mat.get_pasted _ _ _ inside beside, Mat.get_pasted _ _ _ inside beside]
    have held : model.constraintMatrix = constraint.matrix := by simp [constraintMatrix, given]
    simp only [held, Mat.rows_transpose, Mat.cols_transpose, Mat.get_transpose, columns,
      weightRows, weightCols, Nat.zero_le, true_and, Nat.zero_add, Nat.sub_zero]
    -- The blocks by the place of the row and of the column, above or below and left or right.
    by_cases above : i < model.input <;> by_cases left : j < model.input
    · rw [if_neg (by omega), if_neg (by omega), if_pos ⟨above, left⟩, if_pos above, if_pos left]
    · rw [if_neg (by omega), if_pos (by omega), if_pos above, if_neg left]
    · rw [if_pos (by omega), if_neg above, if_pos left]
    · rw [if_neg (by omega), if_neg (by omega), if_neg (by omega), if_neg above, if_neg left]
      simp [Mat.get, Mat.zeros]

section Target

variable [Add K] [Mul K] [Neg K]

/-- The right-hand side of the system of a stage is assembled. -/
theorem assembleTarget_eq {state : Vec K} (size : state.size = model.state) :
    ∃ target, model.assembleTarget state = .ok target ∧ model.saddleTarget state = .ok target ∧
      target.size = model.width := by
  have width := model.width_eq
  obtain ⟨weightRows, weightCols⟩ := Prod.mk.inj sound.terminalWeight
  unfold assembleTarget saddleTarget
  simp only [Mat.mulVec_of_size (weightCols.trans size.symm), ok_bind]
  obtain ⟨gradient, multiplied, inputs⟩ := Mat.exists_transposeMulVec
    (show model.inputMap.rows = (model.terminalWeight.times state).size by
      rw [Mat.size_times, sound.inputMap, weightRows])
  have inputs : (gradient.map (-·)).size = model.input := Array.size_map.trans inputs
  have first := Vec.paste_append #[] model.multipliers inputs
  rw [Array.empty_append, Array.empty_append, Array.size_empty, ← width] at first
  simp only [multiplied, ok_bind, first]
  cases given : model.constraint with
  | none =>
    refine ⟨_, rfl, ?_, ?_⟩
    · simp [constraintTarget, given, multipliers_of_none given, Vec.zeros]
    · simp [inputs, width]
  | some constraint =>
    obtain ⟨_, entries⟩ := sound.constraint constraint given
    have rows := multipliers_of_some given
    have second := Vec.paste_append (gradient.map (-·)) 0 (entries.trans rows.symm)
    rw [inputs, Nat.add_zero] at second
    refine ⟨_, second, ?_, ?_⟩
    · simp [constraintTarget, given, Vec.zeros]
    · simp [inputs, width, entries, rows]

/-- **The start is in range**, for every state, if a stage has variables at all. -/
theorem startWith_returns {solve : Mat K → Vec K → Option (Vec K)} (conforms : Conforms solve)
    (decides : 0 < model.width) (state : Vec K) :
    ∃ answer, model.startWith solve state = .ok answer := by
  unfold startWith
  split
  · rename_i size
    obtain ⟨target, assembled, _, length⟩ := assembleTarget_eq sound size
    rw [assembleMatrix_eq sound, ok_bind, assembled, ok_bind]
    cases solved : solve model.saddle target with
    | none => exact ⟨_, rfl⟩
    | some stage =>
      have stageSize := conforms model.saddle target stage decides rfl length solved
      simp only
      rw [placeStages_eq (stageSize.trans length)]
      exact ⟨_, rfl⟩
  · exact ⟨_, rfl⟩

end Target

omit sound in
theorem conforms_solve? [One K] [Add K] [Mul K] [Div K] [Neg K] [LT K] [DecidableLT K] [BEq K] :
    Conforms (Mat.solve? (K := K)) := by
  intro matrix right solution _ square length solved
  rw [Mat.size_of_solve? solved, square, length]

/-- The start with the elimination as its solver. -/
theorem startWith_elimination [One K] [Add K] [Mul K] [Div K] [Neg K] [LT K] [DecidableLT K]
    [BEq K] (state : Vec K) : model.startWith Mat.solve? state = model.startDecision state := by
  unfold startWith startDecision
  split
  · rename_i size
    obtain ⟨target, assembled, stated, _⟩ := assembleTarget_eq sound size
    rw [assembleMatrix_eq sound, ok_bind, assembled, stated, ok_bind, ok_bind]
    cases solved : model.saddle.solve? target with
    | none => rfl
    | some stage =>
      simp only
      rw [placeStages_eq (Mat.size_of_solve? solved)]
      rfl
  · rfl

end Returns

end Regulator

end RecedingHorizon
