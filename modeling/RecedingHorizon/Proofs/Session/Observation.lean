/-
**Calls that only look.**

An engine may be asked for norms and for products whenever there is an engine, with any operands and
for any step that the session holds. It may refuse, and it may use its storage, but it does not move
on: a step that has been prepared stands as before, and so does all that it gives.

* `Command.Observes`: the command asks for a norm or for a product;
* `Employs.step`: an engine at work stays at work, as long as it is intact;
* `Stands.after_step` and `Stands.after_run`: a step that stands keeps standing, over one such
  command and over a run of them;
* `Preparation.Observed` is what holds after a preparation, whatever has been asked for since, and
  `Preparation.observed` that the step stands then.
-/

import RecedingHorizon.Proofs.Session.Equation

set_option linter.unusedSectionVars false

namespace RecedingHorizon

open Tracking

universe u

variable {σ K ε : Type u}

/-! ### Commands -/

/-- The command asks an engine for a norm or for a product. -/
def Command.Observes : Command σ K → Prop
  | .measure _ _ _ => True
  | .multiply _ _ _ _ _ => True
  | _ => False

theorem Command.Observes.brings {command : Command σ K} (observes : command.Observes)
    (allowed : σ → Prop) : command.Brings allowed := by
  cases command with
  | construct => exact observes.elim
  | _ => trivial

variable [Problem σ K ε]

namespace Session

section Engines

variable [Zero K] [One K] [Add K] [Sub K] [Mul K] [Div K] [Neg K]
  [LT K] [DecidableLT K] [LE K] [DecidableLE K] [ScalarFunctions K]
  {states : σ → Prop} {session : Session σ K} {name : String} {engine next : Engine σ K}
  {command : Command σ K} {answer : Answer σ K ε}

/-- **An engine at work stays at work** over a command that leaves it intact. -/
theorem Employs.step (employs : session.Employs states name engine)
    (brings : command.Brings states) (ran : session.step command = .ok answer)
    (found : answer.session.engines.get? name = some next) (identity : next.id = engine.id)
    (intact : next.Intact states) : answer.session.Employs states name next := by
  obtain ⟨commands, answers, brought, reached, never⟩ := employs.reached
  have extended := run_concat reached ran
  refine ⟨⟨commands ++ [command], _, fun later member => ?_, extended, ?_⟩, found⟩
  · rcases List.mem_append.mp member with earlier | last
    · exact brought later earlier
    · rw [List.mem_singleton.mp last]
      exact brings
  · rw [meets_concat_iff reached ran, identity]
    rintro (met | ⟨other, holder, held, same, estranged⟩)
    · exact never met
    · -- only one engine has the identity
      obtain rfl := (distinct_empty.run extended).apart _ _ _ _ held found
        (same.trans identity.symm)
      rw [found] at held
      cases held
      exact estranged intact.dimensions

variable {evaluations : Evaluations K} (total : Evaluates evaluations states)
  (ready : engine.Ready evaluations states) (found : session.engines.get? name = some engine)
include total ready found

/-- An engine under one name, when the engine under any name is put back. -/
theorem exists_storing_of_put {caller : String}
    (storing : caller = name → engine.Storing states next) :
    ∃ after, (session.putEngine caller next).engines.get? name = some after ∧
      engine.Storing states after := by
  by_cases here : caller = name
  · exact ⟨next, by rw [← here]; exact Registry.get?_put_self _ _ _, storing here⟩
  · exact ⟨engine, (Registry.get?_put_of_ne _ _ (Ne.symm here)).trans found, ready.storing_self⟩

/-- A command that observes leaves every engine but for its storage, and the steps alone. -/
theorem storing_of_observes (observes : command.Observes) (ran : session.step command = .ok answer)
    (fits : ∀ source step, session.steps.get? source = some step → step.engine = engine.id →
      step.buffers.Fits engine.dimensions) :
    (∃ after, answer.session.engines.get? name = some after ∧ engine.Storing states after) ∧
      answer.session.steps = session.steps := by
  have same : ∀ {caller : String} {holder : Engine σ K},
      session.engines.get? caller = some holder → caller = name → holder = engine := by
    rintro caller holder held rfl
    exact Option.some.inj (held.symm.trans found)
  cases carries_of_step ran with
  | unknown => exact ⟨⟨engine, found, ready.storing_self⟩, rfl⟩
  | measured held called =>
    refine ⟨exists_storing_of_put total ready found fun here => ?_, rfl⟩
    obtain rfl := same held here
    exact (Engine.optimalityNorm_storing total ready _ _).of_ok called
  | multiplied held stored called =>
    refine ⟨exists_storing_of_put total ready found fun here => ?_, rfl⟩
    obtain rfl := same held here
    exact (Engine.multiply_storing total ready _ _ _ (fits _ _ stored)).of_ok called
  | constructed | allocated | unprepared | prepared | unadvanced | advanced | reset | moved
  | released | stepCopied | workspaceCopied => exact observes.elim

end Engines

/-! ### Steps that stand -/

namespace Preparation

variable [Field K] [LT K] [DecidableLT K] [LE K] [DecidableLE K] [ScalarFunctions K]
  {values : σ → Evaluations K} {states : σ → Prop} {sample : Sample K}
  {trajectories : Trajectories K} {prior : Vec K}
  {preparation : Preparation (ε := ε) states sample trajectories prior}

/-- **What holds after observation.** Whatever norms and products have been asked for since the
preparation, the session is as stated if none of the calls has faulted, and calls on the engine of
the step do not fault. -/
structure Observed (preparation : Preparation (ε := ε) states sample trajectories prior)
    (holds : Session σ K → Prop) : Prop where
  returns : ∀ calls : List (Command σ K), (∀ call ∈ calls, call.Observes) →
    (∀ call ∈ calls, call.evaluates = some preparation.name) →
    ∃ reached, preparation.answer.session.run (ε := ε) calls = .ok reached
  holds : ∀ (calls : List (Command σ K)) (later : Session σ K) (answers : List (Answer σ K ε)),
    (∀ call ∈ calls, call.Observes) →
    preparation.answer.session.run calls = .ok (later, answers) → holds later

theorem Observed.mono {holds weaker : Session σ K → Prop} (observed : preparation.Observed holds)
    (implies : ∀ later, holds later → weaker later) : preparation.Observed weaker where
  returns := observed.returns
  holds calls later answers observes ran :=
    implies later (observed.holds calls later answers observes ran)

/-- Calls that observe the engine of the step return, and then the session is as stated. -/
theorem Observed.after_own {holds : Session σ K → Prop} (observed : preparation.Observed holds)
    {calls : List (Command σ K)}
    (own : ∀ call ∈ calls, call.Observes ∧ call.evaluates = some preparation.name) :
    ∃ (later : Session σ K) (answers : List (Answer σ K ε)),
      preparation.answer.session.run calls = .ok (later, answers) ∧ holds later := by
  have observes : ∀ call ∈ calls, call.Observes := fun call member => (own call member).1
  obtain ⟨⟨later, answers⟩, ran⟩ :=
    observed.returns calls observes fun call member => (own call member).2
  exact ⟨later, answers, ran, observed.holds calls later answers observes ran⟩

variable (functional : Problem.Functional values states)
include functional

/-- The engine of a step that stands is intact. -/
theorem intact_of_storing {worker : Engine σ K}
    (storing : Engine.Storing
      { preparation.engine with sequence := preparation.engine.sequence + 1 }
      (preparation.Same values) worker) : worker.Intact states := by
  obtain ⟨problem, scratch, ⟨held, same⟩, fits, rfl⟩ := storing
  refine ⟨held, ?_, fits⟩
  show Problem.dimensions problem = preparation.engine.dimensions
  rw [functional.dimensions problem held, same, (preparation.ready functional).dimensions]

variable (preparation) in
/-- The engine is still at work after the preparation. -/
theorem employs_after :
    ∃ worker, preparation.answer.session.Employs states preparation.name worker := by
  obtain ⟨_, _, _, stands⟩ := preparation.value functional
  obtain ⟨worker, found, storing⟩ := stands.engine
  have identity : worker.id = preparation.engine.id := by
    obtain ⟨_, _, _, _, rfl⟩ := storing
    rfl
  exact ⟨worker, preparation.employs.step (by trivial) preparation.ran found identity
    (intact_of_storing functional storing)⟩

section Standing

variable {later : Session σ K} {source : String} (stands : preparation.Stands values later source)
  (employs : ∃ worker, later.Employs states preparation.name worker)
include stands employs

/-- **A step keeps standing** over a command that observes, and its engine stays at work. -/
theorem Stands.after_step {command : Command σ K} (observes : command.Observes)
    {answer : Answer σ K ε} (ran : later.step command = .ok answer) :
    preparation.Stands values answer.session source ∧
      ∃ worker, answer.session.Employs states preparation.name worker := by
  obtain ⟨worker, found, storing⟩ := stands.engine
  obtain ⟨holder, employed⟩ := employs
  obtain rfl : holder = worker := Option.some.inj (employed.found.symm.trans found)
  have total := preparation.total functional
  have ready := ((preparation.ready functional).withSequence _).of_storing storing
  obtain ⟨⟨next, kept, changed⟩, steps⟩ := storing_of_observes total ready found observes ran
    fun _ _ stored own => employed.step_fits functional.lawful stored own
  have identity : next.id = holder.id := by
    obtain ⟨_, _, _, _, rfl⟩ := changed
    rfl
  refine ⟨⟨⟨next, kept, storing.trans changed⟩, steps ▸ stands.step⟩, next, ?_⟩
  exact employed.step (observes.brings states) ran kept identity
    (intact_of_storing functional (storing.trans changed))

/-- **A step keeps standing** over a run of commands that observe. -/
theorem Stands.after_run {calls : List (Command σ K)} (observes : ∀ call ∈ calls, call.Observes)
    {final : Session σ K} {answers : List (Answer σ K ε)}
    (ran : later.run calls = .ok (final, answers)) : preparation.Stands values final source := by
  induction calls generalizing later answers with
  | nil =>
    cases ran
    exact stands
  | cons call calls hypothesis =>
    obtain ⟨answer, rest, stepped, went, _⟩ := run_cons_eq_ok_iff.mp ran
    obtain ⟨kept, working⟩ :=
      stands.after_step functional employs (observes call List.mem_cons_self) stepped
    exact hypothesis kept working
      (fun next member => observes next (List.mem_cons_of_mem _ member)) went

/-- Commands that observe the engine of the step do not fault. -/
theorem Stands.run_returns {calls : List (Command σ K)} (observes : ∀ call ∈ calls, call.Observes)
    (own : ∀ call ∈ calls, call.evaluates = some preparation.name) :
    ∃ reached, later.run (ε := ε) calls = .ok reached := by
  induction calls generalizing later with
  | nil => exact ⟨_, rfl⟩
  | cons call calls hypothesis =>
    obtain ⟨worker, employed⟩ := employs
    obtain ⟨answer, stepped, _⟩ :=
      employed.step_returns functional.lawful (own call List.mem_cons_self)
    obtain ⟨kept, working⟩ :=
      stands.after_step functional ⟨worker, employed⟩ (observes call List.mem_cons_self) stepped
    obtain ⟨⟨final, rest⟩, went⟩ := hypothesis kept working
      (fun next member => observes next (List.mem_cons_of_mem _ member))
      fun next member => own next (List.mem_cons_of_mem _ member)
    exact ⟨_, run_cons_eq_ok_iff.mpr ⟨answer, rest, stepped, went, rfl⟩⟩

end Standing

variable (preparation) in
/-- **The step stands whatever has been observed** since it was prepared. -/
theorem observed :
    preparation.Observed fun later => preparation.Stands values later preparation.target where
  returns _ observes own := (preparation.value functional).2.2.2.run_returns functional
    (preparation.employs_after functional) observes own
  holds _ _ _ observes ran := (preparation.value functional).2.2.2.after_run functional
    (preparation.employs_after functional) observes ran

end Preparation

end Session

end RecedingHorizon
