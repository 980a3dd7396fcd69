/-
**What a session accepts, and what a refusal leaves.**

A command that calls an engine is accepted exactly if the requirements of the call are met. That
they suffice takes the invariant of the session, since a call reads the buffers of its workspace or
of its step, which its checks never look at. A refusal names the first requirement that is violated,
and nothing has happened: the storage of the caller comes back as it was given, the engines are as
they were, and the problem has not been asked for anything.

* `Session.requirements` are those of a command, in the order of the checks;
* `Session.Refuses` says all that there is to a refusal;
* `step_acceptance` is the statement for every command and every engine at work.
-/

import RecedingHorizon.Proofs.Tracking.Requirements
import RecedingHorizon.Proofs.Session.Soundness

set_option linter.unusedSectionVars false

namespace RecedingHorizon

open Tracking

universe u

variable {σ K ε : Type u}

/-! ### Commands that call an engine -/

namespace Command

/-- The workspace that a command takes over. -/
def workspaceTaken : Command σ K → Option String
  | .prepare _ workspace _ _ _ _ _ => some workspace
  | _ => none

/-- The step that a command takes over. -/
def stepTaken : Command σ K → Option String
  | .advance _ source _ _ _ _ _ => some source
  | _ => none

/-- The reply of a command that is refused: the caller's storage is as it was given. -/
def refused (cause : Refusal ε K) : Command σ K → Reply ε K
  | .measure _ _ _ => .measured (.error cause)
  | .prepare _ _ _ _ _ _ out => .prepared (.error cause) out
  | .multiply _ _ _ _ out => .multiplied (.error cause) out
  | .advance _ _ _ decision _ trajectories _ => .advanced (.error cause) decision trajectories
  | _ => .done (.error cause)

end Command

/-- The reply of a call that has been accepted. -/
def Reply.Accepts : Reply ε K → Prop
  | .done (.ok _) | .measured (.ok _) | .prepared (.ok _) _ | .multiplied (.ok _) _
  | .advanced (.ok _) _ _ => True
  | _ => False

namespace Session

/-- What a command requires of its operands, when it calls the engine and its other names are
known. -/
def requirements (session : Session σ K) (engine : Engine σ K) :
    Command σ K → Option (List (Requirement ε K))
  | .measure _ sample trajectories => some (engine.pointRequirements sample trajectories)
  | .prepare _ workspace _ sample trajectories prior out =>
    (session.workspaces.get? workspace).map fun storage =>
      engine.preparationRequirements storage sample trajectories prior out
  | .multiply _ source decision direction out =>
    (session.steps.get? source).map fun step =>
      engine.productRequirements step decision direction out
  | .advance _ source _ decision direction trajectories _ =>
    (session.steps.get? source).map fun step =>
      engine.advanceRequirements step decision direction trajectories
  | _ => none

/-- The checks that a command runs on the engine. -/
def checks (session : Session σ K) (engine : Engine σ K) :
    Command σ K → Option (Except (Refusal ε K) Unit)
  | .measure _ sample trajectories => some (engine.admitPoint sample trajectories)
  | .prepare _ workspace _ sample trajectories prior out =>
    (session.workspaces.get? workspace).map fun storage =>
      engine.admitPreparation storage sample trajectories prior out
  | .multiply _ source decision direction out =>
    (session.steps.get? source).map fun step => engine.admitProduct step decision direction out
  | .advance _ source _ decision direction trajectories _ =>
    (session.steps.get? source).map fun step =>
      engine.admitAdvance step decision direction trajectories
  | _ => none

/-- The checks of a command go through its requirements. -/
theorem decides_checks {session : Session σ K} {engine : Engine σ K} {command : Command σ K}
    {required : List (Requirement ε K)}
    (asked : session.requirements engine command = some required) :
    ∃ checked, session.checks engine command = some checked ∧ Decides required checked := by
  cases command with
  | measure name sample trajectories =>
    cases asked
    exact ⟨_, rfl, engine.decides_admitPoint sample trajectories⟩
  | prepare name workspace target sample trajectories prior out =>
    obtain ⟨storage, stored, rfl⟩ := Option.map_eq_some_iff.mp asked
    exact ⟨_, Option.map_eq_some_iff.mpr ⟨storage, stored, rfl⟩,
      engine.decides_admitPreparation storage sample trajectories prior out⟩
  | multiply name source decision direction out =>
    obtain ⟨step, held, rfl⟩ := Option.map_eq_some_iff.mp asked
    exact ⟨_, Option.map_eq_some_iff.mpr ⟨step, held, rfl⟩,
      engine.decides_admitProduct step decision direction out⟩
  | advance name source workspace decision direction trajectories elapsed =>
    obtain ⟨step, held, rfl⟩ := Option.map_eq_some_iff.mp asked
    exact ⟨_, Option.map_eq_some_iff.mpr ⟨step, held, rfl⟩,
      engine.decides_admitAdvance step decision direction trajectories⟩
  | _ => cases asked

variable [Zero K] [One K] [Add K] [Sub K] [Mul K] [Div K] [Neg K]
  [LT K] [DecidableLT K] [LE K] [DecidableLE K] [ScalarFunctions K]

/-! ### Refusals -/

/-- One command, with the evaluations of any implementation of the interface. -/
def stepOver (interface : Problem σ K ε) (session : Session σ K) (command : Command σ K) :
    Checked (Answer σ K ε) :=
  session.step command

/-- **A command is refused**, and nothing has happened but that the command has taken over what it
takes over. The answer is the same with the evaluations of any other implementation of the
interface, those that fault on all arguments included: the problem has not been evaluated. -/
structure Refuses (session : Session σ K) (command : Command σ K) (cause : Refusal ε K)
    (answer : Answer σ K ε) : Prop where
  reply : answer.reply = command.refused cause
  records : answer.records = []
  nextEngine : answer.session.nextEngine = session.nextEngine
  engines : ∀ name, answer.session.engines.get? name = session.engines.get? name
  workspaces : ∀ name, command.workspaceTaken ≠ some name →
    answer.session.workspaces.get? name = session.workspaces.get? name
  steps : ∀ name, command.stepTaken ≠ some name →
    answer.session.steps.get? name = session.steps.get? name
  /-- An engine that accepts a step goes on to accept it. -/
  current : ∀ name engine held step, session.engines.get? name = some engine →
    session.steps.get? held = some step → command.stepTaken ≠ some held →
    engine.admitStep (ε := ε) step = .ok () →
    ∃ after, answer.session.engines.get? name = some after ∧
      after.sequence = engine.sequence ∧ answer.session.steps.get? held = some step ∧
      after.admitStep (ε := ε) step = .ok ()
  unevaluated : ∀ interface : Problem σ K ε, session.stepOver interface command = .ok answer

/-- The answer to a command that an engine refuses. -/
def refusal (session : Session σ K) (name : String) (engine : Engine σ K) (command : Command σ K)
    (cause : Refusal ε K) : Answer σ K ε where
  session := { session.putEngine name engine with
    workspaces := command.workspaceTaken.elim session.workspaces session.workspaces.remove
    steps := command.stepTaken.elim session.steps session.steps.remove }
  reply := command.refused cause
  records := []

section Refusals

variable {session : Session σ K} {name : String} {engine : Engine σ K} {command : Command σ K}
  {cause : Refusal ε K} (found : session.engines.get? name = some engine)
include found

/-- A command whose checks fail is answered before the problem is evaluated. -/
theorem stepOver_of_error (calls : command.evaluates = some name)
    (failed : session.checks engine command = some (.error cause)) (interface : Problem σ K ε) :
    session.stepOver interface command = .ok (session.refusal name engine command cause) := by
  unfold stepOver
  cases command with
  | measure target sample trajectories =>
    cases calls
    simp only [step, found]
    rw [Engine.optimalityNorm_of_error (Option.some.inj failed)]
    rfl
  | prepare target workspace source sample trajectories prior out =>
    cases calls
    obtain ⟨storage, stored, refused⟩ := Option.map_eq_some_iff.mp failed
    simp only [step, found, stored]
    rw [Engine.prepare_of_error refused]
    rfl
  | multiply target source decision direction out =>
    cases calls
    obtain ⟨prepared, held, refused⟩ := Option.map_eq_some_iff.mp failed
    simp only [step, found, held]
    rw [Engine.multiply_of_error refused]
    rfl
  | advance target source workspace decision direction trajectories elapsed =>
    cases calls
    obtain ⟨prepared, held, refused⟩ := Option.map_eq_some_iff.mp failed
    simp only [step, found, held]
    rw [Engine.advance_of_error elapsed refused]
    rfl
  | _ => cases calls

/-- A refusal leaves everything as it was. -/
theorem refuses_refusal
    (unevaluated : ∀ interface : Problem σ K ε, session.stepOver interface command =
      .ok (session.refusal name engine command cause)) :
    session.Refuses command cause (session.refusal name engine command cause) := by
  have engines : ∀ other,
      (session.engines.put name engine).get? other = session.engines.get? other := by
    intro other
    by_cases same : other = name
    · rw [same, Registry.get?_put_self, found]
    · exact Registry.get?_put_of_ne _ _ same
  have workspaces : ∀ other, command.workspaceTaken ≠ some other →
      (command.workspaceTaken.elim session.workspaces session.workspaces.remove).get? other =
        session.workspaces.get? other := by
    intro other apart
    cases taken : command.workspaceTaken with
    | none => rfl
    | some name => exact Registry.get?_remove_of_ne _ fun same => apart (taken.trans (same ▸ rfl))
  have steps : ∀ other, command.stepTaken ≠ some other →
      (command.stepTaken.elim session.steps session.steps.remove).get? other =
        session.steps.get? other := by
    intro other apart
    cases taken : command.stepTaken with
    | none => rfl
    | some name => exact Registry.get?_remove_of_ne _ fun same => apart (taken.trans (same ▸ rfl))
  exact
    { reply := rfl
      records := rfl
      nextEngine := rfl
      engines := engines
      workspaces := workspaces
      steps := steps
      current := fun other holder held step foundOther stored apart accepted =>
        ⟨holder, (engines other).trans foundOther, rfl, (steps held apart).trans stored, accepted⟩
      unevaluated }

end Refusals

/-! ### Acceptance -/

section Acceptance

variable [Problem σ K ε] {states : σ → Prop} (lawful : Problem.Lawful states)
  {session : Session σ K} {name : String} {engine : Engine σ K}
  (employs : session.Employs states name engine) {command : Command σ K}
  (calls : command.evaluates = some name)
include lawful employs calls

/-- A command whose checks pass is accepted. -/
theorem accepts_of_ok {answer : Answer σ K ε} (ran : session.step command = .ok answer)
    (passed : session.checks engine command = some (.ok () : Except (Refusal ε K) Unit)) :
    answer.reply.Accepts := by
  have found := employs.found
  have able := (employs.intact lawful).able lawful
  cases command with
  | measure target sample trajectories =>
    cases calls
    obtain ⟨outcome, called, _, _, result, _⟩ :=
      Engine.optimalityNorm_returns able (Option.some.inj passed)
    simp only [step, found, called, ok_bind] at ran
    cases ran
    rw [result]
    trivial
  | prepare target workspace source sample trajectories prior out =>
    cases calls
    obtain ⟨storage, stored, admitted⟩ := Option.map_eq_some_iff.mp passed
    have own := (Engine.admitPreparation_eq_ok_iff.mp admitted).1
    obtain ⟨outcome, called, _, _, _, result, _⟩ := Engine.prepare_returns able admitted
      (employs.workspace_fits lawful stored own)
    simp only [step, found, stored, called, ok_bind] at ran
    cases ran
    rw [result]
    trivial
  | multiply target source decision direction out =>
    cases calls
    obtain ⟨prepared, held, admitted⟩ := Option.map_eq_some_iff.mp passed
    have own := (Engine.admitProduct_eq_ok_iff.mp admitted).1.1
    obtain ⟨outcome, called, _, _, result, _⟩ := Engine.multiply_returns able admitted
      (employs.step_fits lawful held own)
    simp only [step, found, held, called, ok_bind] at ran
    cases ran
    rw [result]
    trivial
  | advance target source workspace decision direction trajectories elapsed =>
    cases calls
    obtain ⟨prepared, held, admitted⟩ := Option.map_eq_some_iff.mp passed
    have own := (Engine.admitAdvance_eq_ok_iff.mp admitted).1.1
    obtain ⟨outcome, called, _, _, result, _⟩ := Engine.advance_returns able elapsed admitted
      (employs.step_fits lawful held own)
    simp only [step, found, held, called, ok_bind] at ran
    cases ran
    rw [result]
    trivial
  | _ => cases calls

/-- **Exact acceptance, and refusals without effect.** Over a lawful problem, take any engine at
work and any command that calls it, with operands of any shapes. The command is answered. It is
accepted if and only if all its requirements are met. Otherwise it is refused for the first
requirement that is violated, and nothing has happened. -/
theorem step_acceptance {required : List (Requirement ε K)}
    (asked : session.requirements engine command = some required) :
    ∃ answer : Answer σ K ε, session.step command = .ok answer ∧
      (answer.reply.Accepts ↔ ∀ requirement ∈ required, requirement.met) ∧
      ∀ (earlier later : List (Requirement ε K)) (broken : Requirement ε K),
        required = earlier ++ broken :: later →
        (∀ requirement ∈ earlier, requirement.met) → ¬broken.met →
        session.Refuses command broken.refusal answer := by
  obtain ⟨answer, ran, _⟩ := employs.step_returns lawful calls
  obtain ⟨checked, checks, decides⟩ := decides_checks asked
  have refuses : ∀ cause, checked = .error cause → session.Refuses command cause answer := by
    rintro cause rfl
    have unevaluated := stepOver_of_error employs.found calls checks
    have same : answer = session.refusal name engine command cause :=
      Except.ok.inj (ran.symm.trans (unevaluated inferInstance))
    rw [same]
    exact refuses_refusal employs.found unevaluated
  refine ⟨answer, ran, ⟨fun accepted => ?_, fun met => ?_⟩, ?_⟩
  · cases checked with
    | ok _ => exact decides.met_of_ok rfl
    | error cause =>
      rw [(refuses cause rfl).reply] at accepted
      cases command <;> cases accepted
  · rw [decides.passes met] at checks
    exact accepts_of_ok lawful employs calls ran checks
  · rintro earlier later broken rfl met violated
    exact refuses _ (decides.refuses met violated)

end Acceptance

/-! ### Calls on the cart -/

section Cart

open Regulator

/-- A measurement of the cart is accepted. A preparation whose prior direction and whose storage are
both too short is refused for the prior direction. -/
theorem step_acceptance_cart :
    (∃ answer : Answer (Regulator ℚ) ℚ (Horizon.Invalid ℚ),
      cartSession.step (.measure "first" cartSample cartTrajectories) = .ok answer ∧
        answer.reply.Accepts) ∧
    ∃ answer : Answer (Regulator ℚ) ℚ (Horizon.Invalid ℚ),
      cartSession.step (.prepare "first" "workspace" "step" cartSample cartTrajectories #[1]
        (Vec.zeros 3)) = .ok answer ∧
      cartSession.Refuses (.prepare "first" "workspace" "step" cartSample cartTrajectories #[1]
        (Vec.zeros 3)) (.length .priorDirection 4 1) answer := by
  constructor
  · obtain ⟨answer, ran, accepts, _⟩ := step_acceptance functional.lawful employs_cartEngine
      (show (Command.measure "first" cartSample cartTrajectories).evaluates = some "first" from rfl)
      rfl
    refine ⟨answer, ran, accepts.mpr ?_⟩
    simp only [Engine.pointRequirements, List.forall_mem_cons, List.not_mem_nil, false_imp_iff,
      implies_true, and_true]
    exact ⟨rfl, rfl, rfl, rfl⟩
  · obtain ⟨answer, ran, _, refuses⟩ := step_acceptance functional.lawful employs_cartEngine
      (show (Command.prepare "first" "workspace" "step" cartSample cartTrajectories #[1]
        (Vec.zeros 3)).evaluates = some "first" from rfl) rfl
    refine ⟨answer, ran, refuses (_ :: _ :: _ :: _ :: _ :: []) _ _ rfl ?_ ?_⟩
    · simp only [List.forall_mem_cons, List.not_mem_nil, false_imp_iff, implies_true, and_true]
      exact ⟨rfl, rfl, rfl, rfl, rfl⟩
    · show (1 : ℕ) ≠ 4
      decide

end Cart

end Session

end RecedingHorizon
