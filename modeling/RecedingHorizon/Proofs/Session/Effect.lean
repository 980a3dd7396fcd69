/-
**What a command does to the engines and the steps.**

A command of a session touches one engine at most. `Session.effect_of_step` lists the cases, for
every problem: an engine is constructed under a name, nothing happens to the engines (an identity
may be lost), or an engine is called, which supersedes its steps or does not.

* `Registry.All`: a property of all values of a registry;
* `Session.Replaces` and `Session.Supersedes` are the two events that matter to a step: its engine
  is replaced by another one, or goes on to the next sequence number;
* `Session.Meets`: an event happens at some point of a run, and `Session.trace`: the steps that it
  happens to;
* `Session.handling_of_step` lists what becomes of the steps: one is prepared, copied or given up.
-/

import RecedingHorizon.Proofs.Session.Step

set_option linter.unusedSectionVars false

namespace RecedingHorizon

universe u

/-! ### Values of a registry -/

namespace Registry

variable {α : Type u} {registry : Registry α} {name other : String} {value held : α}

/-- What is under a name after a value has been put somewhere. -/
theorem get?_put_cases (found : (registry.put name value).get? other = some held) :
    (other = name ∧ held = value) ∨ (other ≠ name ∧ registry.get? other = some held) := by
  by_cases same : other = name
  · rw [same, get?_put_self] at found
    cases found
    exact Or.inl ⟨same, rfl⟩
  · rw [get?_put_of_ne _ _ same] at found
    exact Or.inr ⟨same, found⟩

/-- What is left after a name has been removed was there before. -/
theorem get?_of_remove (found : (registry.remove name).get? other = some value) :
    registry.get? other = some value := by
  by_cases same : other = name
  · rw [same, get?_remove_self] at found
    cases found
  · rw [get?_remove_of_ne _ same] at found
    exact found

/-- Every value of the registry has the property. -/
def All (registry : Registry α) (holds : α → Prop) : Prop :=
  ∀ name value, registry.get? name = some value → holds value

variable {holds : α → Prop}

theorem all_nil : All ([] : Registry α) holds :=
  nofun

theorem All.put (all : registry.All holds) (name : String) {value : α} (new : holds value) :
    (registry.put name value).All holds := by
  intro other held found
  rcases get?_put_cases found with ⟨_, rfl⟩ | ⟨_, kept⟩
  · exact new
  · exact all other held kept

theorem All.remove (all : registry.All holds) (name : String) :
    (registry.remove name).All holds :=
  fun other held found => all other held (get?_of_remove found)

theorem All.mono {weaker : α → Prop} (all : registry.All holds)
    (implies : ∀ value, holds value → weaker value) : registry.All weaker :=
  fun name value found => implies value (all name value found)

end Registry

namespace Session

open Tracking

variable {σ K ε : Type u} [Problem σ K ε]

/-! ### Events -/

/-- The command puts a new engine under the name. -/
def Replaces (name : String) (_session : Session σ K) (command : Command σ K)
    (answer : Answer σ K ε) : Prop :=
  match command with
  | .construct target _ _ _ => target = name ∧ answer.reply = .done (.ok ())
  | _ => False

/-- The command takes the engine under the name to its next sequence number: it prepares a step, or
the problem of the engine accepts the reset. -/
def Supersedes (name : String) (session : Session σ K) (command : Command σ K)
    (answer : Answer σ K ε) : Prop :=
  match command with
  | .prepare target _ _ _ _ _ _ =>
    target = name ∧ ∃ step rightHandSide, answer.reply = .prepared (.ok step) rightHandSide
  | .reset target horizon =>
    target = name ∧ ∃ engine, session.engines.get? name = some engine ∧
      (Problem.reset engine.problem horizon).2 = .ok ()
  | .moveOrigin target origin =>
    target = name ∧ ∃ engine, session.engines.get? name = some engine ∧
      (Problem.moveOrigin engine.problem origin).2 = .ok ()
  | _ => False

/-- **The effect of a command on the engines.** -/
inductive Effect (session : Session σ K) (command : Command σ K) (answer : Answer σ K ε) : Prop
  /-- A new engine, with the next identity. -/
  | constructed (name : String) (engine : Engine σ K)
    (replaces : ∀ other, Replaces other session command answer ↔ other = name)
    (supersedes : ∀ other, ¬Supersedes other session command answer)
    (identity : engine.id = session.nextEngine)
    (next : answer.session.nextEngine = session.nextEngine + 1)
    (engines : answer.session.engines = session.engines.put name engine)
  /-- No engine changes. An identity may be used up. -/
  | none
    (replaces : ∀ other, ¬Replaces other session command answer)
    (supersedes : ∀ other, ¬Supersedes other session command answer)
    (next : session.nextEngine ≤ answer.session.nextEngine)
    (engines : answer.session.engines = session.engines)
  /-- An engine goes on with the same sequence number. -/
  | called (name : String) (before after : Engine σ K)
    (replaces : ∀ other, ¬Replaces other session command answer)
    (supersedes : ∀ other, ¬Supersedes other session command answer)
    (found : session.engines.get? name = some before)
    (identity : after.id = before.id)
    (sequence : after.sequence = before.sequence)
    (next : answer.session.nextEngine = session.nextEngine)
    (engines : answer.session.engines = session.engines.put name after)
  /-- An engine goes on with the next sequence number. -/
  | superseded (name : String) (before after : Engine σ K)
    (replaces : ∀ other, ¬Replaces other session command answer)
    (supersedes : ∀ other, Supersedes other session command answer ↔ other = name)
    (found : session.engines.get? name = some before)
    (identity : after.id = before.id)
    (sequence : after.sequence = before.sequence + 1)
    (next : answer.session.nextEngine = session.nextEngine)
    (engines : answer.session.engines = session.engines.put name after)

variable [Zero K] [One K] [Add K] [Sub K] [Mul K] [Div K] [Neg K]
  [LT K] [DecidableLT K] [LE K] [DecidableLE K] [ScalarFunctions K]
  {session : Session σ K}

/-- A run of several commands is one command and the rest. -/
theorem run_cons_eq_ok_iff {final : Session σ K} {command : Command σ K}
    {commands : List (Command σ K)} {answers : List (Answer σ K ε)} :
    session.run (command :: commands) = .ok (final, answers) ↔
      ∃ answer rest, session.step command = .ok answer ∧
        answer.session.run commands = .ok (final, rest) ∧ answers = answer :: rest := by
  have split : session.run (command :: commands) = (session.step (ε := ε) command >>=
      fun answer => answer.session.run commands >>=
        fun reached => pure (reached.1, answer :: reached.2)) := rfl
  rw [split, bind_eq_ok_iff]
  constructor
  · rintro ⟨answer, stepped, ran⟩
    obtain ⟨reached, went, ran⟩ := bind_eq_ok_iff.mp ran
    cases ran
    exact ⟨answer, reached.2, stepped, went, rfl⟩
  · rintro ⟨answer, rest, stepped, went, rfl⟩
    refine ⟨answer, stepped, ?_⟩
    rw [went]
    rfl

/-- An event happens at some point of a run. -/
def Meets (event : Session σ K → Command σ K → Answer σ K ε → Prop) :
    Session σ K → List (Command σ K) → Prop
  | _, [] => False
  | session, command :: commands => ∃ answer : Answer σ K ε, session.step command = .ok answer ∧
      (event session command answer ∨ Meets event answer.session commands)

/-- An event happens at the first command or after it. -/
theorem meets_cons_iff {event : Session σ K → Command σ K → Answer σ K ε → Prop}
    {command : Command σ K} {commands : List (Command σ K)} {answer : Answer σ K ε}
    (ran : session.step command = .ok answer) :
    Meets event session (command :: commands) ↔
      event session command answer ∨ Meets event answer.session commands := by
  constructor
  · rintro ⟨other, ranOther, met⟩
    rw [ran] at ranOther
    cases ranOther
    exact met
  · intro met
    exact ⟨answer, ran, met⟩

/-- A run goes on with one more command. -/
theorem run_concat {middle : Session σ K} {commands : List (Command σ K)}
    {answers : List (Answer σ K ε)} {command : Command σ K} {answer : Answer σ K ε}
    (ran : session.run commands = .ok (middle, answers))
    (stepped : middle.step command = .ok answer) :
    session.run (commands ++ [command]) = .ok (answer.session, answers ++ [answer]) := by
  induction commands generalizing session answers with
  | nil =>
    cases ran
    exact run_cons_eq_ok_iff.mpr ⟨answer, [], stepped, rfl, rfl⟩
  | cons first commands hypothesis =>
    obtain ⟨start, rest, began, went, rfl⟩ := run_cons_eq_ok_iff.mp ran
    exact run_cons_eq_ok_iff.mpr ⟨start, _, began, hypothesis went, rfl⟩

/-- An event happens during a run, or at the command after it. -/
theorem meets_concat_iff {event : Session σ K → Command σ K → Answer σ K ε → Prop}
    {middle : Session σ K} {commands : List (Command σ K)} {answers : List (Answer σ K ε)}
    {command : Command σ K} {answer : Answer σ K ε}
    (ran : session.run commands = .ok (middle, answers))
    (stepped : middle.step command = .ok answer) :
    Meets event session (commands ++ [command]) ↔
      Meets event session commands ∨ event middle command answer := by
  induction commands generalizing session answers with
  | nil =>
    cases ran
    rw [List.nil_append, meets_cons_iff stepped]
    exact or_comm
  | cons first commands hypothesis =>
    obtain ⟨start, rest, began, went, _⟩ := run_cons_eq_ok_iff.mp ran
    rw [List.cons_append, meets_cons_iff began, meets_cons_iff began, hypothesis went, or_assoc]

/-- The steps that an event picks out over a run, in the order of the commands. -/
def trace (event : Session σ K → Command σ K → Answer σ K ε → Option (Prepared K)) :
    Session σ K → List (Command σ K) → List (Prepared K)
  | _, [] => []
  | session, command :: commands =>
    match session.step (ε := ε) command with
    | .error _ => []
    | .ok answer => (event session command answer).toList ++ trace event answer.session commands

/-- The steps of the first command, and those of the rest. -/
theorem trace_cons {event : Session σ K → Command σ K → Answer σ K ε → Option (Prepared K)}
    {command : Command σ K} (commands : List (Command σ K)) {answer : Answer σ K ε}
    (ran : session.step command = .ok answer) :
    trace event session (command :: commands) =
      (event session command answer).toList ++ trace event answer.session commands := by
  simp only [trace, ran]

/-- A step is picked out by the first command or by a later one. -/
theorem mem_trace_cons_iff
    {event : Session σ K → Command σ K → Answer σ K ε → Option (Prepared K)}
    {command : Command σ K} (commands : List (Command σ K)) {answer : Answer σ K ε}
    (ran : session.step command = .ok answer) {prepared : Prepared K} :
    prepared ∈ trace event session (command :: commands) ↔
      event session command answer = some prepared ∨
        prepared ∈ trace event answer.session commands := by
  rw [trace_cons commands ran, List.mem_append, Option.mem_toList]

/-- A run that faults at once picks out nothing. -/
theorem trace_cons_of_error
    {event : Session σ K → Command σ K → Answer σ K ε → Option (Prepared K)}
    {command : Command σ K} (commands : List (Command σ K)) {fault : Fault}
    (ran : session.step (ε := ε) command = .error fault) :
    trace event session (command :: commands) = [] := by
  simp only [trace, ran]

/-! ### The cases -/

/-- The construction of an engine. -/
theorem effect_of_construct (session : Session σ K) (name : String) (problem : σ)
    (settings : Tracking.Settings K) (horizon : Option (Horizon.Settings K)) :
    Effect session (.construct name problem settings horizon)
      (session.construct (ε := ε) name problem settings horizon) := by
  have quiet : ∀ (other : String) (answer : Answer σ K ε),
      ¬Supersedes other session (.construct name problem settings horizon) answer :=
    fun _ _ => id
  unfold construct
  split
  · exact .none (fun other replaced => nomatch replaced.2) (fun other => quiet other _)
      (Nat.le_refl _) rfl
  · rename_i engine built
    have identity : engine.id = session.nextEngine := Engine.id_of_build built
    cases horizon with
    | none =>
      exact .constructed name engine (fun other => ⟨fun replaced => replaced.1.symm,
        fun same => ⟨same.symm, rfl⟩⟩) (fun other => quiet other _) identity rfl rfl
    | some horizon =>
      simp only
      cases reached : (engine.reset horizon).result with
      | ok _ =>
        exact .constructed name (engine.reset horizon).engine
          (fun other => ⟨fun replaced => replaced.1.symm, fun same => ⟨same.symm, rfl⟩⟩)
          (fun other => quiet other _) ((Engine.afterReset_frame engine _ _).1.trans identity)
          rfl rfl
      | error cause =>
        exact .none (fun other replaced => nomatch replaced.2) (fun other => quiet other _)
          (Nat.le_succ _) rfl

/-- A name that stands for nothing is not that of an engine whose problem accepts. -/
theorem not_accepted_of_missing {name other : String} {accepts : Engine σ K → Prop}
    (missing : session.engines.get? name = none) :
    ¬(name = other ∧ ∃ engine, session.engines.get? other = some engine ∧ accepts engine) := by
  rintro ⟨rfl, engine, found, _⟩
  rw [missing] at found
  cases found

/-- The engine whose problem accepts is the one under the name. -/
theorem accepted_iff_of_found {name other : String} {engine : Engine σ K}
    {accepts : Engine σ K → Prop} (found : session.engines.get? name = some engine) :
    (name = other ∧ ∃ holder, session.engines.get? other = some holder ∧ accepts holder) ↔
      other = name ∧ accepts engine := by
  constructor
  · rintro ⟨rfl, holder, held, accepted⟩
    rw [found] at held
    cases held
    exact ⟨rfl, accepted⟩
  · rintro ⟨rfl, accepted⟩
    exact ⟨rfl, engine, found, accepted⟩

/-- A reset of an engine that is there. -/
theorem effect_of_reset {name : String} {engine : Engine σ K} {command : Command σ K}
    (found : session.engines.get? name = some engine) (event : Event K)
    (accepted : σ × Except ε Unit)
    (replaces : ∀ other, ¬Replaces other session command
      (session.answerReset name (engine.afterReset event accepted)))
    (supersedes : ∀ other, Supersedes other session command
      (session.answerReset name (engine.afterReset event accepted)) ↔
        other = name ∧ accepted.2 = .ok ()) :
    Effect session command (session.answerReset name (engine.afterReset event accepted)) := by
  obtain ⟨identity, answered⟩ := Engine.afterReset_frame engine event accepted
  rcases answered with ⟨taken, next⟩ | ⟨refused, same⟩
  · refine .superseded name engine _ replaces (fun other => ?_) found identity next rfl rfl
    rw [supersedes]
    exact and_iff_left taken
  · refine .called name engine _ replaces (fun other superseded => ?_) found identity same rfl rfl
    exact refused ((supersedes other).mp superseded).2

/-- What names something unknown has no effect on the engines. -/
theorem effect_of_unknown (command : Command σ K)
    (missing : ∀ name, command.resets = some name → session.engines.get? name = none) :
    Effect (ε := ε) session command { session, reply := .unknown, records := [] } := by
  refine .none (fun other replaced => ?_) (fun other superseded => ?_) (Nat.le_refl _) rfl
  · cases command with
    | construct => exact nomatch replaced.2
    | _ => exact replaced
  · cases command with
    | prepare => exact nomatch superseded.2
    | reset name horizon => exact not_accepted_of_missing (missing name rfl) superseded
    | moveOrigin name origin => exact not_accepted_of_missing (missing name rfl) superseded
    | _ => exact superseded

/-- **Every command has one of the effects.** -/
theorem effect_of_step {command : Command σ K} {answer : Answer σ K ε}
    (ran : session.step command = .ok answer) : Effect session command answer := by
  cases carries_of_step ran with
  | unknown _ missing => exact effect_of_unknown command missing
  | constructed name problem settings horizon =>
    exact effect_of_construct session name problem settings horizon
  | measured found called =>
    have continues := Engine.optimalityNorm_continues called
    exact .called _ _ _ (fun _ => id) (fun _ => id) found continues.id continues.sequence rfl rfl
  | unprepared found _ _ _ same =>
    refine .called _ _ _ (fun _ => id) (fun other superseded => ?_) found (congrArg Engine.id same)
      (congrArg Engine.sequence same) rfl rfl
    obtain ⟨_, step, rightHandSide, replied⟩ := superseded
    cases replied
  | prepared found _ _ _ _ continues =>
    refine .superseded _ _ _ (fun _ => id) (fun other => ?_) found continues.id
      continues.sequence rfl rfl
    exact ⟨fun superseded => superseded.1.symm, fun same => ⟨same.symm, _, _, rfl⟩⟩
  | multiplied found _ called =>
    have continues := Engine.multiply_continues called
    exact .called _ _ _ (fun _ => id) (fun _ => id) found continues.id continues.sequence rfl rfl
  | unadvanced found _ called | advanced found _ called =>
    have continues := Engine.advance_continues called
    exact .called _ _ _ (fun _ => id) (fun _ => id) found continues.id continues.sequence rfl rfl
  | reset horizon found =>
    exact effect_of_reset found _ _ (fun _ => id) fun _ => accepted_iff_of_found found
  | moved origin found =>
    exact effect_of_reset found _ _ (fun _ => id) fun _ => accepted_iff_of_found found
  | allocated | released | stepCopied | workspaceCopied =>
    exact .none (fun _ => id) (fun _ => id) (Nat.le_refl _) rfl

/-! ### Steps -/

/-- The step that a command has prepared, if any. -/
def preparedBy (_session : Session σ K) (_command : Command σ K) (answer : Answer σ K ε) :
    Option (Prepared K) :=
  match answer.reply with
  | .prepared (.ok step) _ => some step
  | _ => none

/-- The step that a command has copied, if any. -/
def copiedBy (session : Session σ K) (command : Command σ K) (_answer : Answer σ K ε) :
    Option (Prepared K) :=
  match command with
  | .copyStep source _ => session.steps.get? source
  | _ => none

/-- The step that a command has advanced by, if any. -/
def advancedBy (session : Session σ K) (command : Command σ K) (answer : Answer σ K ε) :
    Option (Prepared K) :=
  match command, answer.reply with
  | .advance _ source _ _ _ _ _, .advanced (.ok _) _ _ => session.steps.get? source
  | _, _ => none

/-- **The effect of a command on the steps.** A successful advance takes its step away. -/
inductive Handling (session : Session σ K) (command : Command σ K) (answer : Answer σ K ε) : Prop
  /-- No step comes or goes. -/
  | none (prepared : preparedBy session command answer = Option.none)
    (advanced : advancedBy session command answer = Option.none)
    (steps : answer.session.steps = session.steps)
  /-- A step has been prepared. -/
  | prepared (name workspace target : String) (sample : Sample K) (trajectories : Trajectories K)
    (prior out : Vec K) (step : Prepared K)
    (told : command = .prepare name workspace target sample trajectories prior out)
    (prepared : preparedBy session command answer = some step)
    (advanced : advancedBy session command answer = Option.none)
    (steps : answer.session.steps = session.steps.put target step)
  /-- A step has been copied. -/
  | copied (source target : String) (step : Prepared K)
    (prepared : preparedBy session command answer = Option.none)
    (advanced : advancedBy session command answer = Option.none)
    (copied : copiedBy session command answer = some step)
    (found : session.steps.get? source = some step)
    (steps : answer.session.steps = session.steps.put target step)
  /-- A step has been given up, by an advance or a release. -/
  | removed (source : String) (prepared : preparedBy session command answer = Option.none)
    (advanced : ∀ step, advancedBy session command answer = some step →
      session.steps.get? source = some step)
    (steps : answer.session.steps = session.steps.remove source)

/-- A step has been prepared if the reply says so. -/
theorem preparedBy_eq_some_iff {command : Command σ K} {answer : Answer σ K ε}
    {prepared : Prepared K} :
    preparedBy session command answer = some prepared ↔
      ∃ rightHandSide, answer.reply = .prepared (.ok prepared) rightHandSide := by
  unfold preparedBy
  split
  · rename_i step rightHandSide replied
    rw [replied]
    constructor
    · rintro ⟨rfl⟩
      exact ⟨rightHandSide, rfl⟩
    · rintro ⟨_, same⟩
      cases same
      rfl
  · rename_i other
    exact ⟨nofun, fun ⟨rightHandSide, replied⟩ => absurd replied (other _ _)⟩

omit [One K] [Add K] [Sub K] [Mul K] [Div K] [Neg K] in
/-- The construction of an engine leaves the steps alone, and its reply has no step. -/
theorem steps_of_construct (session : Session σ K) (name : String) (problem : σ)
    (settings : Tracking.Settings K) (horizon : Option (Horizon.Settings K)) :
    (session.construct (ε := ε) name problem settings horizon).session.steps = session.steps ∧
      ∃ result, (session.construct (ε := ε) name problem settings horizon).reply =
        .done result := by
  unfold construct
  split
  · exact ⟨rfl, _, rfl⟩
  · cases horizon with
    | none => exact ⟨rfl, _, rfl⟩
    | some horizon =>
      simp only
      split <;> exact ⟨rfl, _, rfl⟩

/-- **Every command handles the steps in one of the ways.** -/
theorem handling_of_step {command : Command σ K} {answer : Answer σ K ε}
    (ran : session.step command = .ok answer) : Handling session command answer := by
  cases carries_of_step ran with
  | constructed name problem settings horizon =>
    obtain ⟨steps, result, replied⟩ :=
      steps_of_construct (ε := ε) session name problem settings horizon
    exact .none (by rw [preparedBy, replied]) rfl steps
  | prepared => exact .prepared _ _ _ _ _ _ _ _ rfl rfl rfl rfl
  | unadvanced => exact .removed _ rfl nofun rfl
  | advanced _ held =>
    refine .removed _ rfl (fun other advanced => ?_) rfl
    exact advanced
  | released => exact .removed _ rfl nofun rfl
  | stepCopied _ held => exact .copied _ _ _ rfl rfl held held rfl
  | unknown => cases command <;> exact .none rfl rfl rfl
  | allocated | measured | unprepared | multiplied | reset | moved | workspaceCopied =>
    exact .none rfl rfl rfl

/-- Only preparations prepare steps. -/
theorem prepare_of_preparedBy {command : Command σ K} {answer : Answer σ K ε}
    {prepared : Prepared K} (ran : session.step command = .ok answer)
    (made : preparedBy session command answer = some prepared) :
    ∃ name workspace target sample trajectories prior out rightHandSide,
      command = .prepare name workspace target sample trajectories prior out ∧
        answer.reply = .prepared (.ok prepared) rightHandSide := by
  obtain ⟨rightHandSide, replied⟩ := preparedBy_eq_some_iff.mp made
  cases handling_of_step ran with
  | prepared name workspace target sample trajectories prior out step told =>
    exact ⟨name, workspace, target, sample, trajectories, prior, out, rightHandSide, told, replied⟩
  | none quiet | copied _ _ _ quiet | removed _ quiet =>
    rw [quiet] at made
    cases made

/-- **A preparation that succeeds** is a call that succeeds on the engine and the workspace under
its names. It leaves the engine as the call did, and the step under its name. -/
theorem called_of_prepare {name workspace target : String} {sample : Sample K}
    {trajectories : Trajectories K} {prior out rightHandSide : Vec K} {prepared : Prepared K}
    {answer : Answer σ K ε}
    (stepped : session.step (.prepare name workspace target sample trajectories prior out) =
      .ok answer)
    (replied : answer.reply = .prepared (.ok prepared) rightHandSide) :
    ∃ engine storage outcome, session.engines.get? name = some engine ∧
      session.workspaces.get? workspace = some storage ∧
      engine.prepare (ε := ε) storage sample trajectories prior out = .ok outcome ∧
      outcome.result = .ok prepared ∧ outcome.buffers = rightHandSide ∧
      answer.session = { session.putEngine name outcome.engine with
        workspaces := session.workspaces.remove workspace
        steps := session.steps.put target prepared } := by
  cases carries_of_step stepped with
  | unknown | unprepared => cases replied
  | prepared found stored called made =>
    injection replied with result buffers
    cases result
    exact ⟨_, _, _, found, stored, called, made, buffers, rfl⟩

end Session

end RecedingHorizon
