/-
**What a refusal says about sizes.**

A refusal for a size names the size that was expected and the size that was found. Every check of an
operand compares the sizes that it names, so that these differ. The check after a reset compares all
dimensions, but names the lengths of a decision: where other dimensions ask for a decision of the
same length, it names one length twice.

* `Refusal.Truthful`: the sizes that the refusal names differ, if it names any;
* `Candid`: a call is refused truthfully, if at all. `Engine.candid_of_prepare` and its like say
  this of the calls that take operands;
* `Dimensions.Indistinct` are the dimensions that a refusal cannot tell apart, and
  `Engine.compares_checkDimensions` says what the check after a reset finds.
-/

import RecedingHorizon.Proofs.Tracking.Requirements

set_option linter.unusedSectionVars false

namespace RecedingHorizon

universe u v

/-- Other dimensions, none of them missing, which ask for a decision of the same length. -/
structure Dimensions.Indistinct (dimensions other : Dimensions) : Prop where
  complete : other.validate = .ok ()
  changed : other ≠ dimensions
  sameSize : other.decisionSize = dimensions.decisionSize

namespace Tracking

variable {σ K ε : Type u} {α : Type v}

/-! ### Truthful refusals -/

/-- The size that was expected and the size that was found differ, if the refusal names them. -/
def Refusal.Truthful : Refusal ε K → Prop
  | .length _ expected actual => expected ≠ actual
  | .shape _ expected actual => expected ≠ actual
  | _ => True

/-- The call is refused truthfully, if it is refused. -/
def Candid (result : Except (Refusal ε K) α) : Prop :=
  ∀ cause, result = .error cause → cause.Truthful

theorem candid_ok (value : α) : Candid (.ok value : Except (Refusal ε K) α) :=
  nofun

theorem candid_error {cause : Refusal ε K} (truthful : cause.Truthful) :
    Candid (.error cause : Except (Refusal ε K) α) := by
  rintro _ ⟨⟩
  exact truthful

/-- If the requirement is violated, its refusal is truthful. -/
def Requirement.Truthful (requirement : Requirement ε K) : Prop :=
  ¬requirement.met → requirement.refusal.Truthful

/-- Checks that go through truthful requirements refuse truthfully. -/
theorem Decides.candid {requirements : List (Requirement ε K)}
    {checks : Except (Refusal ε K) Unit} (decides : Decides requirements checks)
    (truthful : ∀ requirement ∈ requirements, requirement.Truthful) : Candid checks := by
  induction requirements with
  | nil =>
    rw [show checks = .ok () from decides]
    exact candid_ok ()
  | cons requirement rest hypothesis =>
    by_cases met : requirement.met
    · exact hypothesis (decides.1 met) fun other member =>
        truthful other (List.mem_cons_of_mem _ member)
    · rw [decides.2 met]
      exact candid_error (truthful requirement List.mem_cons_self met)

namespace Engine

/-! ### The checks of the operands -/

section Checks

@[simp]
theorem truthful_lengthRequired (operand : Operand) (vector : Vec K) (expected : Nat) :
    (lengthRequired (ε := ε) operand vector expected).Truthful :=
  Ne.symm

@[simp]
theorem truthful_shapeRequired (operand : Operand) (trajectory : Mat K) (expected : Nat × Nat) :
    (shapeRequired (ε := ε) operand trajectory expected).Truthful :=
  Ne.symm

variable (engine : Engine σ K)

@[simp]
theorem truthful_ownerRequired (owner : Nat) :
    (engine.ownerRequired (K := K) (ε := ε) owner).Truthful :=
  fun _ => trivial

@[simp]
theorem truthful_currentRequired (step : Prepared K) :
    (engine.currentRequired (ε := ε) step).Truthful :=
  fun _ => trivial

theorem candid_admitPoint (sample : Sample K) (trajectories : Trajectories K) :
    Candid (engine.admitPoint (ε := ε) sample trajectories) :=
  (engine.decides_admitPoint sample trajectories).candid (by simp [pointRequirements])

theorem candid_admitPreparation (workspace : Workspace K) (sample : Sample K)
    (trajectories : Trajectories K) (prior out : Vec K) :
    Candid (engine.admitPreparation (ε := ε) workspace sample trajectories prior out) :=
  (engine.decides_admitPreparation workspace sample trajectories prior out).candid
    (by simp [preparationRequirements])

theorem candid_admitProduct (step : Prepared K) (decision direction out : Vec K) :
    Candid (engine.admitProduct (ε := ε) step decision direction out) :=
  (engine.decides_admitProduct step decision direction out).candid
    (by simp [productRequirements])

theorem candid_admitAdvance (step : Prepared K) (decision direction : Vec K)
    (trajectories : Trajectories K) :
    Candid (engine.admitAdvance (ε := ε) step decision direction trajectories) :=
  (engine.decides_admitAdvance step decision direction trajectories).candid
    (by simp [advanceRequirements])

end Checks

/-! ### The calls that take operands -/

section Calls

variable [Problem σ K ε] [Zero K] [One K] [Add K] [Sub K] [Mul K] [Div K] [Neg K]
  [ScalarFunctions K] {engine : Engine σ K}

theorem candid_of_optimalityNorm {sample : Sample K} {trajectories : Trajectories K}
    {outcome : Outcome σ K ε Unit K}
    (ran : engine.optimalityNorm sample trajectories = .ok outcome) : Candid outcome.result := by
  unfold optimalityNorm at ran
  split at ran
  · rename_i cause refused
    cases ran
    exact candid_error (engine.candid_admitPoint sample trajectories cause refused)
  · obtain ⟨_, _, ran⟩ := bind_eq_ok_iff.mp ran
    cases ran
    exact candid_ok _

theorem candid_of_prepare {workspace : Workspace K} {sample : Sample K}
    {trajectories : Trajectories K} {prior out : Vec K}
    {outcome : Outcome σ K ε (Vec K) (Prepared K)}
    (ran : engine.prepare workspace sample trajectories prior out = .ok outcome) :
    Candid outcome.result := by
  unfold prepare at ran
  split at ran
  · rename_i cause refused
    cases ran
    exact candid_error (engine.candid_admitPreparation _ _ _ _ _ cause refused)
  · obtain ⟨_, _, ran⟩ := bind_eq_ok_iff.mp ran
    cases ran
    exact candid_ok _

theorem candid_of_multiply {step : Prepared K} {decision direction out : Vec K}
    {outcome : Outcome σ K ε (Vec K) Unit}
    (ran : engine.multiply step decision direction out = .ok outcome) :
    Candid outcome.result := by
  unfold multiply at ran
  split at ran
  · rename_i cause refused
    cases ran
    exact candid_error (engine.candid_admitProduct _ _ _ _ cause refused)
  · obtain ⟨_, _, ran⟩ := bind_eq_ok_iff.mp ran
    cases ran
    exact candid_ok _

theorem candid_of_advance {step : Prepared K} {decision direction : Vec K}
    {trajectories : Trajectories K} {elapsed : K}
    {outcome : Outcome σ K ε (Vec K × Trajectories K) (Workspace K)}
    (ran : engine.advance step decision direction trajectories elapsed = .ok outcome) :
    Candid outcome.result := by
  unfold advance at ran
  split at ran
  · rename_i cause refused
    cases ran
    exact candid_error (engine.candid_admitAdvance _ _ _ _ cause refused)
  · obtain ⟨_, _, ran⟩ := bind_eq_ok_iff.mp ran
    cases ran
    exact candid_ok _

end Calls

/-! ### Construction and resets -/

section Resets

variable [Problem σ K ε]

/-- A construction is refused for settings or for a dimension that is missing. -/
theorem candid_build [Zero K] [LT K] [DecidableLT K] [LE K] [DecidableLE K] [ScalarFunctions K]
    (id : Nat) (problem : σ) (settings : Settings K) :
    Candid (build (ε := ε) id problem settings) := by
  unfold build reportedDimensions
  cases settings.validate with
  | error cause => exact candid_error trivial
  | ok _ =>
    cases (Problem.dimensions problem).validate with
    | error required => exact candid_error trivial
    | ok _ => exact candid_ok _

/-- What the check after a reset finds: a dimension is missing, all are as before, or some are not,
and then the lengths of a decision are named. -/
inductive Compares (engine : Engine σ K) : Except (Refusal ε K) Unit → Prop
  | missing (required : Dimensions.Required)
    (invalid : (Problem.dimensions engine.problem).validate = .error required) :
    Compares engine (.error (.dimension required))
  | same (equal : Problem.dimensions engine.problem = engine.dimensions) : Compares engine (.ok ())
  | changed (complete : (Problem.dimensions engine.problem).validate = .ok ())
    (differ : Problem.dimensions engine.problem ≠ engine.dimensions) :
    Compares engine (.error (.length .decisionAfterReset engine.dimensions.decisionSize
      (Problem.dimensions engine.problem).decisionSize))

theorem compares_checkDimensions (engine : Engine σ K) :
    engine.Compares engine.checkDimensions := by
  unfold checkDimensions reportedDimensions
  cases complete : (Problem.dimensions engine.problem).validate with
  | error required => exact .missing required complete
  | ok _ =>
    by_cases equal : Problem.dimensions engine.problem = engine.dimensions
    · simp only [ok_bind, if_pos equal]
      exact .same equal
    · simp only [ok_bind, if_neg equal]
      exact .changed complete equal

/-- **The check after a reset is not truthful exactly for dimensions that it cannot tell apart.** -/
theorem Compares.not_truthful_iff {engine : Engine σ K} {cause : Refusal ε K}
    (compares : engine.Compares (.error cause)) :
    ¬cause.Truthful ↔ engine.dimensions.Indistinct (Problem.dimensions engine.problem) := by
  cases compares with
  | missing required invalid =>
    refine ⟨fun untruthful => absurd trivial untruthful, fun indistinct => ?_⟩
    rw [indistinct.complete] at invalid
    cases invalid
  | changed complete differ =>
    constructor
    · intro untruthful
      exact ⟨complete, differ, (Classical.not_not.mp untruthful).symm⟩
    · intro indistinct
      exact Classical.not_not.mpr indistinct.sameSize.symm

/-- **Dimensions that have changed are refused**, and if none is missing, for the lengths of a
decision. -/
theorem Compares.refused {engine : Engine σ K} {result : Except (Refusal ε K) Unit}
    (compares : engine.Compares result)
    (differ : Problem.dimensions engine.problem ≠ engine.dimensions) :
    ∃ cause, result = .error cause ∧
      ((Problem.dimensions engine.problem).validate = .ok () →
        cause = .length .decisionAfterReset engine.dimensions.decisionSize
          (Problem.dimensions engine.problem).decisionSize) := by
  cases compares with
  | missing required invalid =>
    refine ⟨_, rfl, fun complete => ?_⟩
    rw [complete] at invalid
    cases invalid
  | same equal => exact absurd equal differ
  | changed _ _ => exact ⟨_, rfl, fun _ => rfl⟩

/-- What becomes of a reset, given the answer of the problem: its refusal, or else the check of the
dimensions that it then reports. -/
def verdict (engine : Engine σ K) : σ × Except ε Unit → Except (Refusal ε K) Unit
  | (_, .error cause) => .error (.problem cause)
  | (problem, .ok ()) => checkDimensions { engine with problem }

/-- **A reset is not refused truthfully exactly if it was accepted and the dimensions cannot be told
apart.** -/
theorem not_truthful_verdict_iff {engine : Engine σ K} {answer : σ × Except ε Unit}
    {cause : Refusal ε K} (refused : engine.verdict answer = .error cause) :
    ¬cause.Truthful ↔
      answer.2 = .ok () ∧ engine.dimensions.Indistinct (Problem.dimensions answer.1) := by
  obtain ⟨problem, accepted⟩ := answer
  cases accepted with
  | error failure =>
    cases refused
    exact ⟨fun untruthful => absurd trivial untruthful, fun given => nomatch given.1⟩
  | ok _ =>
    have compares := compares_checkDimensions { engine with problem }
    rw [show checkDimensions { engine with problem } = .error cause from refused] at compares
    exact compares.not_truthful_iff.trans (and_iff_right rfl).symm

theorem result_afterReset (engine : Engine σ K) (event : Event K) (answer : σ × Except ε Unit) :
    (engine.afterReset event answer).result = engine.verdict answer := by
  obtain ⟨problem, accepted⟩ := answer
  cases accepted <;> rfl

end Resets

end Engine

end Tracking

end RecedingHorizon
