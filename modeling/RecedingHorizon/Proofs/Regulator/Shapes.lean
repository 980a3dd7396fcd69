/-
**Regulators of the right shapes.**

What a regulator is accepted with stays true of it: its matrices fit together, it has at least one
state and one stage, and its storage has the length of the state.

* `Regulator.Accepted` holds of what the constructors accept, with any horizon set later and any
  content of the storage;
* `Regulator.Sound` is the invariant, and `Regulator.Accepted.sound` says that it holds;
* `Regulator.build_eq_ok_iff` and `Regulator.constrain_eq_ok_iff` say what the constructors accept,
  and what they return.
-/

import RecedingHorizon.Proofs.Evaluations
import RecedingHorizon.Proofs.Dense.Values
import RecedingHorizon.Regulator.Evaluation

namespace RecedingHorizon.Regulator

universe u

variable {K : Type u}

/-! ### The invariant -/

/-- Every vector of the storage has the length of the state. -/
structure Scratch.Fits (scratch : Scratch K) (state : Nat) : Prop where
  rate : scratch.rate.size = state
  start : scratch.start.size = state
  finish : scratch.finish.size = state
  costate : scratch.costate.size = state
  ahead : scratch.ahead.size = state

theorem Scratch.fits_zeros [Zero K] (state : Nat) : (Scratch.zeros state : Scratch K).Fits state :=
  ⟨Vec.size_zeros _, Vec.size_zeros _, Vec.size_zeros _, Vec.size_zeros _, Vec.size_zeros _⟩

/-- The data fit together, whatever the storage holds. -/
structure Sound (model : Regulator K) : Prop where
  states : 0 < model.state
  stages : 0 < model.stages
  dynamics : model.dynamics.cols = model.state
  inputMap : model.inputMap.rows = model.state
  stateWeight : model.stateWeight.shape = (model.state, model.state)
  terminalWeight : model.terminalWeight.shape = (model.state, model.state)
  inputWeight : model.inputWeight.shape = (model.input, model.input)
  constraint : ∀ constraint, model.constraint = some constraint →
    constraint.matrix.cols = model.input ∧ constraint.target.size = constraint.matrix.rows
  scratch : model.scratch.Fits model.state

/-- The invariant does not depend on the content of the storage. -/
theorem Sound.withScratch {model : Regulator K} (sound : model.Sound) {scratch : Scratch K}
    (fits : scratch.Fits model.state) : Sound { model with scratch } :=
  { sound with scratch := fits }

/-- The invariant does not depend on the horizon. -/
theorem Sound.withHorizon {model : Regulator K} (sound : model.Sound) (horizon : Horizon K) :
    Sound { model with horizon } :=
  { sound with }

/-! ### Construction -/

section Construction

variable [Zero K] [LT K] [DecidableLT K] [LE K] [DecidableLE K] [ScalarFunctions K]

/-- The constructor accepts matrices that fit together, some stages, and a valid horizon. -/
theorem build_eq_ok_iff {matrices : Matrices K} {stages : Nat} {settings : Horizon.Settings K}
    {model : Regulator K} :
    build matrices stages settings = .ok model ↔
      (matrices.dynamics.rows ≠ 0 ∧ matrices.dynamics.cols = matrices.dynamics.rows) ∧
      matrices.inputMap.rows = matrices.dynamics.rows ∧
      (matrices.stateWeight.shape = (matrices.dynamics.rows, matrices.dynamics.rows) ∧
        matrices.terminalWeight.shape = (matrices.dynamics.rows, matrices.dynamics.rows)) ∧
      matrices.inputWeight.shape = (matrices.inputMap.cols, matrices.inputMap.cols) ∧
      stages ≠ 0 ∧ settings.validate = .ok () ∧
      model =
        { matrices with
          constraint := none, horizon := { settings }, stages
          scratch := Scratch.zeros matrices.dynamics.rows } := by
  unfold build Horizon.ofSettings
  simp only [check_eq_ok_iff, not_or, ne_eq, Decidable.not_not]
  cases settings.validate with
  | error cause => simp
  | ok _ => simp only [Except.ok.injEq, true_and, eq_comm (a := model)]

/-- What the constructor accepts is sound. -/
theorem sound_of_build {matrices : Matrices K} {stages : Nat} {settings : Horizon.Settings K}
    {model : Regulator K} (accepted : build matrices stages settings = .ok model) :
    model.Sound := by
  obtain ⟨square, inputs, weights, inputWeight, some, _, rfl⟩ := build_eq_ok_iff.mp accepted
  exact
    { states := Nat.pos_of_ne_zero square.1
      stages := Nat.pos_of_ne_zero some
      dynamics := square.2
      inputMap := inputs
      stateWeight := weights.1
      terminalWeight := weights.2
      inputWeight := inputWeight
      constraint := fun constraint given => by cases given
      scratch := Scratch.fits_zeros _ }

omit [Zero K] [LT K] [DecidableLT K] [LE K] [DecidableLE K] [ScalarFunctions K] in
/-- A constraint is accepted if it fits the inputs. -/
theorem constrain_eq_ok_iff {model constrained : Regulator K} {constraint : Constraint K} :
    model.constrain constraint = .ok constrained ↔
      constraint.matrix.cols = model.input ∧ constraint.target.size = constraint.matrix.rows ∧
        constrained = { model with constraint := some constraint } := by
  unfold constrain
  simp only [check_eq_ok_iff, ne_eq, Decidable.not_not, Except.ok.injEq, eq_comm (a := constrained)]

omit [Zero K] [LT K] [DecidableLT K] [LE K] [DecidableLE K] [ScalarFunctions K] in
/-- A constraint that is accepted keeps the model sound. -/
theorem Sound.constrain {model constrained : Regulator K} (sound : model.Sound)
    {constraint : Constraint K} (accepted : model.constrain constraint = .ok constrained) :
    constrained.Sound := by
  obtain ⟨columns, entries, rfl⟩ := constrain_eq_ok_iff.mp accepted
  refine { sound with constraint := ?_ }
  rintro given ⟨⟩
  exact ⟨columns, entries⟩

/-- A regulator that the constructors accepted, with any horizon it was reset to and any content
that evaluations may have left in its storage. -/
inductive Accepted : Regulator K → Prop
  | built {matrices : Matrices K} {stages : Nat} {settings : Horizon.Settings K}
      {model : Regulator K} : build matrices stages settings = .ok model → Accepted model
  | constrained {model constrained : Regulator K} {constraint : Constraint K} :
      Accepted model → model.constrain constraint = .ok constrained → Accepted constrained
  | resized {model : Regulator K} (horizon : Horizon K) :
      Accepted model → Accepted { model with horizon }
  | used {model : Regulator K} {scratch : Scratch K} :
      Accepted model → scratch.Fits model.state → Accepted { model with scratch }

/-- **What is accepted is sound.** -/
theorem Accepted.sound {model : Regulator K} (accepted : Accepted model) : model.Sound := by
  induction accepted with
  | built made => exact sound_of_build made
  | constrained _ given hypothesis => exact hypothesis.constrain given
  | resized horizon _ hypothesis => exact hypothesis.withHorizon horizon
  | used _ fits hypothesis => exact hypothesis.withScratch fits

end Construction

/-! ### Sizes -/

theorem width_eq (model : Regulator K) : model.width = model.input + model.multipliers :=
  rfl

theorem multipliers_of_some {model : Regulator K} {constraint : Constraint K}
    (given : model.constraint = some constraint) : model.multipliers = constraint.matrix.rows := by
  unfold multipliers
  rw [given]

theorem multipliers_of_none {model : Regulator K} (free : model.constraint = none) :
    model.multipliers = 0 := by
  unfold multipliers
  rw [free]

/-- The block of a stage lies inside the decision. -/
theorem block_le_decisionSize {model : Regulator K} {stage : Nat} (below : stage < model.stages) :
    stage * model.width + model.width ≤ model.dimensions.decisionSize := by
  have rows : (stage + 1) * model.width ≤ model.stages * model.width :=
    Nat.mul_le_mul_right _ below
  rw [Nat.succ_mul] at rows
  exact rows

/-- The inputs of a stage lie inside the decision. -/
theorem inputs_le_decisionSize {model : Regulator K} {stage : Nat} (below : stage < model.stages) :
    stage * model.width + model.input ≤ model.dimensions.decisionSize := by
  have block := block_le_decisionSize below
  rw [width_eq] at block ⊢
  omega

/-- The blocks of two stages do not overlap. -/
theorem blocks_apart (model : Regulator K) {stage other : Nat} (different : other ≠ stage) :
    other * model.width + model.width ≤ stage * model.width ∨
      stage * model.width + model.width ≤ other * model.width := by
  rcases Nat.lt_or_gt_of_ne different with before | after
  · left
    rw [← Nat.succ_mul]
    exact Nat.mul_le_mul_right _ before
  · right
    rw [← Nat.succ_mul]
    exact Nat.mul_le_mul_right _ after

end RecedingHorizon.Regulator
