/-
**What the calls of an engine require.**

A call checks its operands one after the other and refuses for the first that is wrong. This module
states the checks as lists of requirements, in their order, each with the refusal that goes with it.

* `Requirement` is a condition with its refusal, `Decides` relates a list of requirements to checks
  that stop at the first one violated;
* `Engine.pointRequirements`, `Engine.preparationRequirements`, `Engine.productRequirements` and
  `Engine.advanceRequirements` are the lists, and `Engine.decides_admitPoint` and its like say that
  the checks of the calls are those.
-/

import RecedingHorizon.Proofs.Checked
import RecedingHorizon.Tracking.ControlStep
import RecedingHorizon.Tracking.Optimality

set_option linter.unusedSectionVars false

namespace RecedingHorizon.Tracking

universe u

variable {σ K ε : Type u}

/-! ### Requirements -/

/-- A condition on a call, with the refusal of a call that violates it. -/
structure Requirement (ε K : Type u) where
  met : Prop
  refusal : Refusal ε K

/-- The checks go through the requirements and stop at the first one that is violated. -/
def Decides : List (Requirement ε K) → Except (Refusal ε K) Unit → Prop
  | [], checks => checks = .ok ()
  | requirement :: rest, checks =>
    (requirement.met → Decides rest checks) ∧
      (¬requirement.met → checks = .error requirement.refusal)

section Decides

variable {requirements others : List (Requirement ε K)}
  {checks first second : Except (Refusal ε K) Unit}

/-- A single check. -/
theorem decides_of_ite {condition : Prop} [Decidable condition] {cause : Refusal ε K} :
    Decides [⟨condition, cause⟩] (if condition then .ok () else .error cause) :=
  ⟨fun met => if_pos met, fun violated => if_neg violated⟩

/-- Checks in a row go through both lists. -/
theorem Decides.append (left : Decides requirements first) (right : Decides others second) :
    Decides (requirements ++ others) (first >>= fun _ => second) := by
  induction requirements with
  | nil =>
    rw [show first = .ok () from left]
    exact right
  | cons requirement rest hypothesis =>
    refine ⟨fun met => hypothesis (left.1 met), fun violated => ?_⟩
    rw [left.2 violated]
    rfl

/-- Checks pass if all requirements are met. -/
theorem Decides.passes (decides : Decides requirements checks)
    (met : ∀ requirement ∈ requirements, requirement.met) : checks = .ok () := by
  induction requirements with
  | nil => exact decides
  | cons requirement rest hypothesis =>
    exact hypothesis (decides.1 (met requirement List.mem_cons_self))
      fun other member => met other (List.mem_cons_of_mem _ member)

/-- Checks fail for the first requirement that is violated. -/
theorem Decides.refuses {earlier later : List (Requirement ε K)} {broken : Requirement ε K}
    (decides : Decides (earlier ++ broken :: later) checks)
    (met : ∀ requirement ∈ earlier, requirement.met) (violated : ¬broken.met) :
    checks = .error broken.refusal := by
  induction earlier with
  | nil => exact decides.2 violated
  | cons requirement rest hypothesis =>
    exact hypothesis (decides.1 (met requirement List.mem_cons_self))
      fun other member => met other (List.mem_cons_of_mem _ member)

/-- Checks that pass have found all requirements met. -/
theorem Decides.met_of_ok (decides : Decides requirements checks) (passed : checks = .ok ()) :
    ∀ requirement ∈ requirements, requirement.met := by
  induction requirements with
  | nil => nofun
  | cons requirement rest hypothesis =>
    by_cases met : requirement.met
    · intro other member
      rcases List.mem_cons.mp member with rfl | inRest
      · exact met
      · exact hypothesis (decides.1 met) other inRest
    · rw [decides.2 met] at passed
      cases passed

end Decides

namespace Engine

/-! ### The requirements of the calls -/

/-- The vector has the expected length. -/
def lengthRequired (operand : Operand) (vector : Vec K) (expected : Nat) : Requirement ε K where
  met := vector.size = expected
  refusal := .length operand expected vector.size

/-- The trajectory has the expected shape. -/
def shapeRequired (operand : Operand) (trajectory : Mat K) (expected : Nat × Nat) :
    Requirement ε K where
  met := trajectory.shape = expected
  refusal := .shape operand expected trajectory.shape

/-- A workspace or a step belongs to the engine. -/
def ownerRequired (engine : Engine σ K) (owner : Nat) : Requirement ε K where
  met := owner = engine.id
  refusal := .foreignStep

/-- The engine has not moved on since the step was prepared. -/
def currentRequired (engine : Engine σ K) (step : Prepared K) : Requirement ε K where
  met := step.sequence = engine.sequence
  refusal := .staleStep step.sequence engine.sequence

/-- What a measurement requires. -/
def pointRequirements (engine : Engine σ K) (sample : Sample K) (trajectories : Trajectories K) :
    List (Requirement ε K) :=
  [lengthRequired .state sample.state engine.dimensions.state,
    lengthRequired .decision sample.decision engine.dimensions.decisionSize,
    shapeRequired .stateTrajectory trajectories.state engine.dimensions.trajectory,
    shapeRequired .costateTrajectory trajectories.costate engine.dimensions.trajectory]

/-- What a preparation requires. -/
def preparationRequirements (engine : Engine σ K) (workspace : Workspace K) (sample : Sample K)
    (trajectories : Trajectories K) (prior out : Vec K) : List (Requirement ε K) :=
  [engine.ownerRequired workspace.engine,
    lengthRequired .state sample.state engine.dimensions.state,
    lengthRequired .decision sample.decision engine.dimensions.decisionSize,
    shapeRequired .stateTrajectory trajectories.state engine.dimensions.trajectory,
    shapeRequired .costateTrajectory trajectories.costate engine.dimensions.trajectory,
    lengthRequired .priorDirection prior engine.dimensions.decisionSize,
    lengthRequired .rightHandSide out engine.dimensions.decisionSize]

/-- What a product requires. -/
def productRequirements (engine : Engine σ K) (step : Prepared K)
    (decision direction out : Vec K) : List (Requirement ε K) :=
  [engine.ownerRequired step.engine,
    engine.currentRequired step,
    lengthRequired .decision decision engine.dimensions.decisionSize,
    lengthRequired .direction direction engine.dimensions.decisionSize,
    lengthRequired .product out engine.dimensions.decisionSize]

/-- What an advance requires. -/
def advanceRequirements (engine : Engine σ K) (step : Prepared K) (decision direction : Vec K)
    (trajectories : Trajectories K) : List (Requirement ε K) :=
  [engine.ownerRequired step.engine,
    engine.currentRequired step,
    lengthRequired .decision decision engine.dimensions.decisionSize,
    lengthRequired .direction direction engine.dimensions.decisionSize,
    shapeRequired .stateTrajectory trajectories.state engine.dimensions.trajectory,
    shapeRequired .costateTrajectory trajectories.costate engine.dimensions.trajectory]

/-! ### The checks go through them -/

theorem decides_checkLength (operand : Operand) (vector : Vec K) (expected : Nat) :
    Decides [lengthRequired (ε := ε) operand vector expected]
      (checkLength operand vector expected) :=
  decides_of_ite

theorem decides_checkShape (operand : Operand) (trajectory : Mat K) (expected : Nat × Nat) :
    Decides [shapeRequired (ε := ε) operand trajectory expected]
      (checkShape operand trajectory expected) :=
  decides_of_ite

theorem decides_admitStep (engine : Engine σ K) (step : Prepared K) :
    Decides [engine.ownerRequired (ε := ε) step.engine, engine.currentRequired step]
      (engine.admitStep step) := by
  unfold admitStep
  refine ⟨fun own => ?_, fun foreign => if_neg foreign⟩
  rw [if_pos (show step.engine = engine.id from own)]
  exact decides_of_ite

theorem decides_admitPoint (engine : Engine σ K) (sample : Sample K)
    (trajectories : Trajectories K) :
    Decides (engine.pointRequirements (ε := ε) sample trajectories)
      (engine.admitPoint sample trajectories) :=
  (decides_checkLength _ _ _).append <| (decides_checkLength _ _ _).append <|
    (decides_checkShape _ _ _).append (decides_checkShape _ _ _)

theorem decides_admitPreparation (engine : Engine σ K) (workspace : Workspace K)
    (sample : Sample K) (trajectories : Trajectories K) (prior out : Vec K) :
    Decides (engine.preparationRequirements (ε := ε) workspace sample trajectories prior out)
      (engine.admitPreparation workspace sample trajectories prior out) :=
  decides_of_ite.append <| (engine.decides_admitPoint sample trajectories).append <|
    (decides_checkLength _ _ _).append (decides_checkLength _ _ _)

theorem decides_admitProduct (engine : Engine σ K) (step : Prepared K)
    (decision direction out : Vec K) :
    Decides (engine.productRequirements (ε := ε) step decision direction out)
      (engine.admitProduct step decision direction out) :=
  (engine.decides_admitStep step).append <| (decides_checkLength _ _ _).append <|
    (decides_checkLength _ _ _).append (decides_checkLength _ _ _)

theorem decides_admitAdvance (engine : Engine σ K) (step : Prepared K)
    (decision direction : Vec K) (trajectories : Trajectories K) :
    Decides (engine.advanceRequirements (ε := ε) step decision direction trajectories)
      (engine.admitAdvance step decision direction trajectories) :=
  (engine.decides_admitStep step).append <| (decides_checkLength _ _ _).append <|
    (decides_checkLength _ _ _).append <|
      (decides_checkShape _ _ _).append (decides_checkShape _ _ _)

end Engine

end RecedingHorizon.Tracking
