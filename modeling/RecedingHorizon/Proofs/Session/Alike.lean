/-
**Sessions that are alike.**

Two sessions over regulators are alike if they have the same engines up to their storage, and the
same steps. The one may go on alone with commands that take nothing from the others, and commands
that ask both for the same get the same answer, whatever the storage of the engines, of their
problems, of the workspaces and of the caller holds.

* `Session.Alike`: the same engines up to their storage, and the same steps under all names that are
  not set aside as spare;
* `Session.Idle`: a command that takes nothing from the others, and `Session.alike_of_idle`: it
  leaves a session that is like the one before;
* `Session.Pairs`: two commands that ask for the same, and `Session.step_agrees`: they get the same
  answer, and leave sessions that are alike again.
-/

import RecedingHorizon.Proofs.Session.Soundness

set_option linter.unusedSectionVars false

namespace RecedingHorizon

open Tracking

universe u

variable {K : Type u}

/-! ### What is compared -/

/-- The reply without the storage that a refused call gives back as it was. -/
def Reply.heard {ε : Type u} : Reply ε K → Reply ε K
  | .prepared (.error cause) _ => .prepared (.error cause) #[]
  | .multiplied (.error cause) _ => .multiplied (.error cause) #[]
  | reply => reply

namespace Session

/-- The caller learns the same from both answers. -/
structure SameAnswer {σ ε : Type u} (answer other : Answer σ K ε) : Prop where
  reply : other.reply.heard = answer.reply.heard
  records : other.records = answer.records

variable [Zero K]

/-- The two sessions have the same engines up to storage, and the same steps except under spare
names. Nothing is said of workspaces, and of the identities that engines are given later. -/
structure Alike (spare : String → Prop) (session other : Session (Regulator K) K) : Prop where
  engines : ∀ name, (other.engines.get? name).map Engine.fresh =
    (session.engines.get? name).map Engine.fresh
  steps : ∀ name, ¬spare name → other.steps.get? name = session.steps.get? name

section Alike

variable {spare : String → Prop} {session other last : Session (Regulator K) K}

theorem alike_refl (session : Session (Regulator K) K) : session.Alike spare session :=
  ⟨fun _ => rfl, fun _ _ => rfl⟩

theorem Alike.symm (alike : session.Alike spare other) : other.Alike spare session :=
  ⟨fun name => (alike.engines name).symm, fun name kept => (alike.steps name kept).symm⟩

theorem Alike.trans (first : session.Alike spare other) (second : other.Alike spare last) :
    session.Alike spare last :=
  ⟨fun name => (second.engines name).trans (first.engines name),
    fun name kept => (second.steps name kept).trans (first.steps name kept)⟩

variable (alike : session.Alike spare other)
include alike

/-- The other session has an engine that agrees. -/
theorem Alike.found {name : String} {engine : Engine (Regulator K) K}
    (found : session.engines.get? name = some engine) :
    ∃ second, other.engines.get? name = some second ∧ second.fresh = engine.fresh := by
  have same := alike.engines name
  rw [found] at same
  exact Option.map_eq_some_iff.mp same

/-- The other session has no such engine either. -/
theorem Alike.missing {name : String} (missing : session.engines.get? name = none) :
    other.engines.get? name = none := by
  have same := alike.engines name
  rw [missing] at same
  exact Option.map_eq_none_iff.mp same

/-- Whatever workspaces both sessions have. -/
theorem Alike.withWorkspaces (workspaces others : Registry (Workspace K)) :
    Alike spare { session with workspaces } { other with workspaces := others } :=
  ⟨alike.engines, alike.steps⟩

/-- Whatever identities come next. -/
theorem Alike.withNext (next otherNext : Nat) :
    Alike spare { session with nextEngine := next } { other with nextEngine := otherNext } :=
  ⟨alike.engines, alike.steps⟩

theorem Alike.putEngine (name : String) {engine second : Engine (Regulator K) K}
    (same : second.fresh = engine.fresh) :
    (session.putEngine name engine).Alike spare (other.putEngine name second) := by
  refine ⟨fun held => ?_, alike.steps⟩
  by_cases here : held = name
  · unfold Session.putEngine
    rw [here, Registry.get?_put_self, Registry.get?_put_self]
    exact congrArg some same
  · unfold Session.putEngine
    rw [Registry.get?_put_of_ne _ _ here, Registry.get?_put_of_ne _ _ here]
    exact alike.engines held

theorem Alike.putStep (name : String) (step : Prepared K) :
    Alike spare { session with steps := session.steps.put name step }
      { other with steps := other.steps.put name step } := by
  refine ⟨alike.engines, fun held kept => ?_⟩
  by_cases here : held = name
  · rw [here, Registry.get?_put_self, Registry.get?_put_self]
  · rw [Registry.get?_put_of_ne _ _ here, Registry.get?_put_of_ne _ _ here]
    exact alike.steps held kept

theorem Alike.removeStep (name : String) :
    Alike spare { session with steps := session.steps.remove name }
      { other with steps := other.steps.remove name } := by
  refine ⟨alike.engines, fun held kept => ?_⟩
  by_cases here : held = name
  · rw [here, Registry.get?_remove_self, Registry.get?_remove_self]
  · rw [Registry.get?_remove_of_ne _ here, Registry.get?_remove_of_ne _ here]
    exact alike.steps held kept

end Alike

/-! ### Commands that take nothing -/

section Idle

variable {spare : String → Prop} {session : Session (Regulator K) K}

/-- An engine that goes on as the same fresh engine. -/
theorem alike_putEngine {name : String} {engine next : Engine (Regulator K) K}
    (found : session.engines.get? name = some engine) (same : next.fresh = engine.fresh) :
    session.Alike spare (session.putEngine name next) := by
  refine ⟨fun held => ?_, fun _ _ => rfl⟩
  by_cases here : held = name
  · unfold putEngine
    rw [here, Registry.get?_put_self, found]
    exact congrArg some same
  · unfold putEngine
    rw [Registry.get?_put_of_ne _ _ here]

/-- A step under a spare name. -/
theorem alike_putStep {name : String} (free : spare name) (step : Prepared K) :
    session.Alike spare { session with steps := session.steps.put name step } := by
  refine ⟨fun _ => rfl, fun held kept => ?_⟩
  have apart : held ≠ name := fun same => kept (same ▸ free)
  exact Registry.get?_put_of_ne _ _ apart

theorem alike_removeStep {name : String} (free : spare name) :
    session.Alike spare { session with steps := session.steps.remove name } := by
  refine ⟨fun _ => rfl, fun held kept => ?_⟩
  have apart : held ≠ name := fun same => kept (same ▸ free)
  exact Registry.get?_remove_of_ne _ apart

variable [One K] [Add K] [Sub K] [Mul K] [Div K] [Neg K] [BEq K] [NatCast K]
  [LT K] [DecidableLT K] [LE K] [DecidableLE K] [ScalarFunctions K]

/-- The command takes nothing from other commands: it measures, multiplies or handles workspaces, it
is refused, or it handles spare steps. -/
def Idle (spare : String → Prop) (command : Command (Regulator K) K)
    (answer : Answer (Regulator K) K (Horizon.Invalid K)) : Prop :=
  match command with
  | .prepare _ _ _ _ _ _ _ =>
    ∀ step rightHandSide, answer.reply ≠ .prepared (.ok step) rightHandSide
  | .construct _ _ _ _ | .reset _ _ | .moveOrigin _ _ => answer.reply ≠ .done (.ok ())
  | .advance _ source _ _ _ _ _ | .release source _ | .copyStep _ source =>
    answer.reply = .unknown ∨ spare source
  | .allocate _ _ | .measure _ _ _ | .multiply _ _ _ _ _ | .copyWorkspace _ _ => True

/-- **A command that takes nothing** leaves a session that is like the one before. -/
theorem alike_of_idle (sound : session.Sound) {command : Command (Regulator K) K}
    {answer : Answer (Regulator K) K (Horizon.Invalid K)}
    (stepped : session.step command = .ok answer) (idle : Idle spare command answer) :
    session.Alike spare answer.session := by
  obtain ⟨shapes, shaped⟩ := sound
  cases carries_of_step stepped with
  | unknown => exact alike_refl session
  | constructed name problem settings horizon =>
    change (session.construct name problem settings horizon).reply ≠ _ at idle
    unfold construct at idle ⊢
    split
    · exact alike_refl session
    · rename_i engine built
      rw [built] at idle
      cases horizon with
      | none => exact absurd rfl idle
      | some horizon =>
        simp only at idle ⊢
        split
        · rename_i accepted
          exact absurd (congrArg Reply.done accepted) idle
        · exact (alike_refl session).withNext session.nextEngine _
  | allocated => exact (alike_refl session).withWorkspaces session.workspaces _
  | measured found called =>
    obtain ⟨working, _⟩ := shaped.engines _ _ found
    obtain ⟨_, _, ran, _, _, same⟩ :=
      Engine.optimalityNorm_agrees working working.ready.storing_self _ _
    cases called.symm.trans ran
    exact alike_putEngine found same
  | unprepared found _ _ _ same =>
    exact (alike_putEngine found (congrArg Engine.fresh same)).withWorkspaces session.workspaces _
  | prepared => exact absurd rfl (idle _ _)
  | multiplied found held called =>
    obtain ⟨working, _⟩ := shaped.engines _ _ found
    obtain ⟨_, _, ran, _, _, same⟩ := Engine.multiply_agrees working working.ready.storing_self
      (shaped.step_fits found held) _ _ rfl
    cases called.symm.trans ran
    exact alike_putEngine found same
  | unadvanced found held called =>
    obtain ⟨working, _⟩ := shaped.engines _ _ found
    obtain ⟨_, _, ran, _, _, same, _⟩ := Engine.advance_agrees working working.ready.storing_self
      (shaped.step_fits found held) _ _ _ _
    cases called.symm.trans ran
    exact (alike_putEngine found same).trans (alike_removeStep (idle.resolve_left nofun))
  | advanced found held called =>
    obtain ⟨working, _⟩ := shaped.engines _ _ found
    obtain ⟨_, _, ran, _, _, same, _⟩ := Engine.advance_agrees working working.ready.storing_self
      (shaped.step_fits found held) _ _ _ _
    cases called.symm.trans ran
    have kept := (alike_putEngine found same).trans (alike_removeStep (idle.resolve_left nofun))
    exact kept.withWorkspaces session.workspaces _
  | reset horizon found =>
    obtain ⟨working, _⟩ := shaped.engines _ _ found
    obtain ⟨_, kept⟩ := Engine.reset_agrees working working.ready.storing_self horizon
    exact alike_putEngine found (kept fun accepted => idle (congrArg Reply.done accepted))
  | moved origin found =>
    obtain ⟨working, _⟩ := shaped.engines _ _ found
    obtain ⟨_, kept⟩ := Engine.moveOrigin_agrees working working.ready.storing_self origin
    exact alike_putEngine found (kept fun accepted => idle (congrArg Reply.done accepted))
  | released workspace held =>
    exact (alike_removeStep (idle.resolve_left nofun)).withWorkspaces session.workspaces _
  | stepCopied target held => exact alike_putStep (idle.resolve_left nofun) _
  | workspaceCopied => exact (alike_refl session).withWorkspaces session.workspaces _

end Idle

/-! ### Commands that ask for the same -/

/-- The caller learns the same if results agree, and storage where they are successes. -/
theorem heard_prepared {ε : Type u} {result other : Except (Refusal ε K) (Prepared K)}
    {buffers room : Vec K} (same : other = result)
    (filled : ∀ step, result = .ok step → room = buffers) :
    (Reply.prepared other room).heard = (Reply.prepared result buffers).heard := by
  subst same
  cases other with
  | error cause => rfl
  | ok step => rw [filled step rfl]

theorem heard_multiplied {ε : Type u} {result other : Except (Refusal ε K) Unit}
    {buffers room : Vec K} (same : other = result)
    (filled : ∀ value, result = .ok value → room = buffers) :
    (Reply.multiplied other room).heard = (Reply.multiplied result buffers).heard := by
  subst same
  cases other with
  | error cause => rfl
  | ok value => rw [filled value rfl]

/-- Two commands that ask for the same, one in each session. Problems may differ in their storage,
and what the caller provides as storage in its content. Engines are constructed with one identity,
and workspaces may have any names, as long as a step is prepared in storage of one engine. Spare
steps are not used. -/
inductive Pairs (spare : String → Prop) (session other : Session (Regulator K) K) :
    Command (Regulator K) K → Command (Regulator K) K → Prop
  | construct (name : String) {problem second : Regulator K} (settings : Tracking.Settings K)
    (horizon : Option (Horizon.Settings K)) (sound : problem.Sound) (otherSound : second.Sound)
    (same : second.fresh = problem.fresh) (next : other.nextEngine = session.nextEngine) :
    Pairs spare session other (.construct name problem settings horizon)
      (.construct name second settings horizon)
  | allocate (name workspace storage : String) :
    Pairs spare session other (.allocate name workspace) (.allocate name storage)
  | measure (name : String) (sample : Sample K) (trajectories : Trajectories K) :
    Pairs spare session other (.measure name sample trajectories)
      (.measure name sample trajectories)
  | prepare (name target : String) {workspace storage : String} (sample : Sample K)
    (trajectories : Trajectories K) (prior : Vec K) {out room : Vec K}
    (owner : (other.workspaces.get? storage).map Workspace.engine =
      (session.workspaces.get? workspace).map Workspace.engine)
    (size : room.size = out.size) :
    Pairs spare session other (.prepare name workspace target sample trajectories prior out)
      (.prepare name storage target sample trajectories prior room)
  | multiply (name : String) {source : String} (decision direction : Vec K) {out room : Vec K}
    (kept : ¬spare source) (size : room.size = out.size) :
    Pairs spare session other (.multiply name source decision direction out)
      (.multiply name source decision direction room)
  | advance (name : String) {source : String} (workspace storage : String)
    (decision direction : Vec K) (trajectories : Trajectories K) (elapsed : K)
    (kept : ¬spare source) :
    Pairs spare session other
      (.advance name source workspace decision direction trajectories elapsed)
      (.advance name source storage decision direction trajectories elapsed)
  | reset (name : String) (horizon : Horizon.Settings K) :
    Pairs spare session other (.reset name horizon) (.reset name horizon)
  | moveOrigin (name : String) (origin : K) :
    Pairs spare session other (.moveOrigin name origin) (.moveOrigin name origin)
  | release {source : String} (workspace storage : String) (kept : ¬spare source) :
    Pairs spare session other (.release source workspace) (.release source storage)
  | copyStep {source : String} (target : String) (kept : ¬spare source) :
    Pairs spare session other (.copyStep source target) (.copyStep source target)
  | copyWorkspace {source origin : String} (target storage : String)
    (known : (other.workspaces.get? origin).isSome = (session.workspaces.get? source).isSome) :
    Pairs spare session other (.copyWorkspace source target) (.copyWorkspace origin storage)

section Pairs

variable {spare : String → Prop} {session other : Session (Regulator K) K}

variable [One K] [Add K] [Sub K] [Mul K] [Div K] [Neg K] [BEq K] [NatCast K]
  [LT K] [DecidableLT K] [LE K] [DecidableLE K] [ScalarFunctions K]

/-- Both commands bring sound problems. -/
theorem Pairs.proper {command second : Command (Regulator K) K}
    (pairs : Pairs spare session other command second) : Proper command ∧ Proper second := by
  cases pairs with
  | construct _ _ _ sound otherSound _ _ => exact ⟨sound, otherSound⟩
  | _ => exact ⟨trivial, trivial⟩

/-- Two constructions over problems that agree. -/
theorem construct_agrees (alike : session.Alike spare other) (name : String)
    {problem second : Regulator K} (settings : Tracking.Settings K)
    (horizon : Option (Horizon.Settings K)) (sound : problem.Sound)
    (storing : problem.Storing second) (next : other.nextEngine = session.nextEngine) :
    SameAnswer (session.construct (ε := Horizon.Invalid K) name problem settings horizon)
        (other.construct name second settings horizon) ∧
      (session.construct (ε := Horizon.Invalid K) name problem settings horizon).session.Alike spare
        (other.construct (ε := Horizon.Invalid K) name second settings horizon).session := by
  unfold construct
  rw [next]
  rcases Engine.build_agrees sound storing session.nextEngine settings with
    ⟨cause, refused, otherRefused⟩ | ⟨engine, built, ran, otherRan, working, holding, _⟩
  · rw [refused, otherRefused]
    exact ⟨⟨rfl, rfl⟩, alike⟩
  · rw [ran, otherRan]
    have counted := alike.withNext (session.nextEngine + 1) (session.nextEngine + 1)
    have announced : built.announce = engine.announce := by
      obtain ⟨_, _, _, _, rfl⟩ := holding
      rfl
    cases horizon with
    | none =>
      exact ⟨⟨rfl, congrArg (fun record => [record]) announced⟩,
        counted.putEngine name (Engine.fresh_of_storing holding)⟩
    | some horizon =>
      obtain ⟨agrees, _⟩ := Engine.reset_agrees working holding horizon
      simp only
      rw [agrees.result, agrees.records, announced]
      refine ⟨⟨rfl, rfl⟩, ?_⟩
      cases (engine.reset horizon).result with
      | ok _ => exact counted.putEngine name agrees.engine
      | error cause => exact counted

/-- Both sessions have no engine under the name, or engines that agree. -/
theorem Alike.look (alike : session.Alike spare other) {shapes otherShapes : Nat → Dimensions}
    (shaped : session.Shaped shapes) (otherShaped : other.Shaped otherShapes) (name : String) :
    (session.engines.get? name = none ∧ other.engines.get? name = none) ∨
      ∃ engine holder, session.engines.get? name = some engine ∧
        other.engines.get? name = some holder ∧ engine.Working ∧
        engine.Storing engine.problem.Storing holder := by
  cases found : session.engines.get? name with
  | none => exact Or.inl ⟨rfl, alike.missing found⟩
  | some engine =>
    obtain ⟨holder, otherFound, same⟩ := alike.found found
    exact Or.inr ⟨engine, holder, rfl, otherFound, (shaped.engines _ _ found).1,
      Engine.storing_of_fresh (otherShaped.engines _ _ otherFound).1 same⟩

/-- Two preparations in storage of one engine. -/
theorem prepare_pair (sound : session.Sound) (otherSound : other.Sound)
    (alike : session.Alike spare other) (name target : String) {workspace storage : String}
    (sample : Sample K) (trajectories : Trajectories K) (prior : Vec K) {out room : Vec K}
    (owner : (other.workspaces.get? storage).map Workspace.engine =
      (session.workspaces.get? workspace).map Workspace.engine)
    (size : room.size = out.size) :
    ∃ answer reached,
      session.step (ε := Horizon.Invalid K)
        (.prepare name workspace target sample trajectories prior out) = .ok answer ∧
      other.step (ε := Horizon.Invalid K)
        (.prepare name storage target sample trajectories prior room) = .ok reached ∧
      SameAnswer answer reached ∧ answer.session.Alike spare reached.session := by
  obtain ⟨shapes, shaped⟩ := sound
  obtain ⟨otherShapes, otherShaped⟩ := otherSound
  simp only [step]
  rcases alike.look shaped otherShaped name with
    ⟨missing, otherMissing⟩ | ⟨engine, holder, found, otherFound, working, storing⟩
  · rw [missing, otherMissing]
    exact ⟨_, _, rfl, rfl, ⟨rfl, rfl⟩, alike⟩
  rw [found, otherFound]
  cases stored : session.workspaces.get? workspace with
  | none =>
    rw [stored] at owner
    rw [Option.map_eq_none_iff.mp owner]
    exact ⟨_, _, rfl, rfl, ⟨rfl, rfl⟩, alike⟩
  | some idle =>
    rw [stored] at owner
    obtain ⟨spared, otherStored, same⟩ := Option.map_eq_some_iff.mp owner
    have fits := shaped.workspace_fits found stored
    have otherFits : spared.engine = engine.id → spared.buffers.Fits engine.dimensions := by
      have own := otherShaped.workspace_fits otherFound otherStored
      obtain ⟨_, _, _, _, rfl⟩ := storing
      exact own
    obtain ⟨outcome, last, ran, otherRan, agrees, _⟩ := Engine.prepare_agrees working storing fits
      otherFits same sample trajectories prior size
    rw [otherStored]
    simp only
    rw [ran, otherRan]
    refine ⟨_, _, rfl, rfl, ⟨heard_prepared agrees.result agrees.buffers, agrees.records⟩, ?_⟩
    have kept := (alike.putEngine name agrees.engine).withWorkspaces
      (session.workspaces.remove workspace) (other.workspaces.remove storage)
    simp only
    rw [agrees.result]
    cases outcome.result with
    | error cause => exact kept
    | ok step => exact kept.putStep target step

/-- Two products by one step. -/
theorem multiply_pair (sound : session.Sound) (otherSound : other.Sound)
    (alike : session.Alike spare other) (name : String) {source : String}
    (decision direction : Vec K) {out room : Vec K} (kept : ¬spare source)
    (size : room.size = out.size) :
    ∃ answer reached,
      session.step (ε := Horizon.Invalid K) (.multiply name source decision direction out) =
        .ok answer ∧
      other.step (ε := Horizon.Invalid K) (.multiply name source decision direction room) =
        .ok reached ∧
      SameAnswer answer reached ∧ answer.session.Alike spare reached.session := by
  obtain ⟨shapes, shaped⟩ := sound
  obtain ⟨otherShapes, otherShaped⟩ := otherSound
  simp only [step]
  rw [alike.steps source kept]
  rcases alike.look shaped otherShaped name with
    ⟨missing, otherMissing⟩ | ⟨engine, holder, found, otherFound, working, storing⟩
  · rw [missing, otherMissing]
    exact ⟨_, _, rfl, rfl, ⟨rfl, rfl⟩, alike⟩
  rw [found, otherFound]
  cases held : session.steps.get? source with
  | none => exact ⟨_, _, rfl, rfl, ⟨rfl, rfl⟩, alike⟩
  | some prepared =>
    obtain ⟨outcome, last, ran, otherRan, agrees, _⟩ := Engine.multiply_agrees working storing
      (shaped.step_fits found held) decision direction size
    simp only
    rw [ran, otherRan]
    exact ⟨_, _, rfl, rfl, ⟨heard_multiplied agrees.result agrees.buffers, agrees.records⟩,
      alike.putEngine name agrees.engine⟩

/-- Two advances by one step. -/
theorem advance_pair (sound : session.Sound) (otherSound : other.Sound)
    (alike : session.Alike spare other) (name : String) {source : String}
    (workspace storage : String) (decision direction : Vec K) (trajectories : Trajectories K)
    (elapsed : K) (kept : ¬spare source) :
    ∃ answer reached,
      session.step (ε := Horizon.Invalid K)
        (.advance name source workspace decision direction trajectories elapsed) = .ok answer ∧
      other.step (ε := Horizon.Invalid K)
        (.advance name source storage decision direction trajectories elapsed) = .ok reached ∧
      SameAnswer answer reached ∧ answer.session.Alike spare reached.session := by
  obtain ⟨shapes, shaped⟩ := sound
  obtain ⟨otherShapes, otherShaped⟩ := otherSound
  simp only [step]
  rw [alike.steps source kept]
  rcases alike.look shaped otherShaped name with
    ⟨missing, otherMissing⟩ | ⟨engine, holder, found, otherFound, working, storing⟩
  · rw [missing, otherMissing]
    exact ⟨_, _, rfl, rfl, ⟨rfl, rfl⟩, alike⟩
  rw [found, otherFound]
  cases held : session.steps.get? source with
  | none => exact ⟨_, _, rfl, rfl, ⟨rfl, rfl⟩, alike⟩
  | some prepared =>
    obtain ⟨outcome, last, ran, otherRan, agrees, _, buffers⟩ := Engine.advance_agrees working
      storing (shaped.step_fits found held) decision direction trajectories elapsed
    have given := (alike.putEngine name agrees.engine).removeStep source
    simp only
    rw [ran, otherRan]
    refine ⟨_, _, rfl, rfl, ⟨?_, agrees.records⟩, ?_⟩
    · show Reply.heard (.advanced _ _ _) = Reply.heard (.advanced _ _ _)
      rw [agrees.result, buffers]
    · simp only
      rw [agrees.result]
      cases outcome.result with
      | error cause => exact given
      | ok returned => exact given.withWorkspaces _ _

/-- Two resets that ended in the same way. -/
theorem answerReset_agrees {ε : Type u} (alike : session.Alike spare other) (name : String)
    {outcome last : Outcome (Regulator K) K ε Unit Unit} (agrees : outcome.Agrees last) :
    SameAnswer (session.answerReset name outcome) (other.answerReset name last) ∧
      (session.answerReset name outcome).session.Alike spare
        (other.answerReset name last).session :=
  ⟨⟨congrArg (fun result => (Reply.done result).heard) agrees.result, agrees.records⟩,
    alike.putEngine name agrees.engine⟩

/-- **Two commands that ask for the same** get the same answer, and leave sessions that are alike
again. -/
theorem step_agrees (sound : session.Sound) (otherSound : other.Sound)
    (alike : session.Alike spare other) {command second : Command (Regulator K) K}
    (pairs : Pairs spare session other command second) :
    ∃ answer reached, session.step (ε := Horizon.Invalid K) command = .ok answer ∧
      other.step (ε := Horizon.Invalid K) second = .ok reached ∧ SameAnswer answer reached ∧
      answer.session.Alike spare reached.session := by
  have whole := sound
  have otherWhole := otherSound
  obtain ⟨shapes, shaped⟩ := sound
  obtain ⟨otherShapes, otherShaped⟩ := otherSound
  cases pairs with
  | construct name settings horizon sound secondSound same next =>
    obtain ⟨answers, sessions⟩ := construct_agrees alike name settings horizon sound
      (Regulator.storing_of_fresh secondSound same) next
    exact ⟨_, _, rfl, rfl, answers, sessions⟩
  | allocate name workspace storage =>
    simp only [step]
    rcases alike.look shaped otherShaped name with
      ⟨missing, otherMissing⟩ | ⟨engine, holder, found, otherFound, _⟩
    · rw [missing, otherMissing]
      exact ⟨_, _, rfl, rfl, ⟨rfl, rfl⟩, alike⟩
    · rw [found, otherFound]
      exact ⟨_, _, rfl, rfl, ⟨rfl, rfl⟩, alike.withWorkspaces _ _⟩
  | measure name sample trajectories =>
    simp only [step]
    rcases alike.look shaped otherShaped name with
      ⟨missing, otherMissing⟩ | ⟨engine, holder, found, otherFound, working, storing⟩
    · rw [missing, otherMissing]
      exact ⟨_, _, rfl, rfl, ⟨rfl, rfl⟩, alike⟩
    · obtain ⟨outcome, last, ran, otherRan, agrees, _⟩ :=
        Engine.optimalityNorm_agrees working storing sample trajectories
      rw [found, otherFound]
      simp only
      rw [ran, otherRan]
      exact ⟨_, _, rfl, rfl,
        ⟨congrArg (fun result => (Reply.measured result).heard) agrees.result, agrees.records⟩,
        alike.putEngine name agrees.engine⟩
  | prepare name target sample trajectories prior owner size =>
    exact prepare_pair whole otherWhole alike name target sample trajectories prior owner size
  | multiply name decision direction kept size =>
    exact multiply_pair whole otherWhole alike name decision direction kept size
  | advance name workspace storage decision direction trajectories elapsed kept =>
    exact advance_pair whole otherWhole alike name workspace storage decision direction trajectories
      elapsed kept
  | reset name horizon =>
    simp only [step]
    rcases alike.look shaped otherShaped name with
      ⟨missing, otherMissing⟩ | ⟨engine, holder, found, otherFound, working, storing⟩
    · rw [missing, otherMissing]
      exact ⟨_, _, rfl, rfl, ⟨rfl, rfl⟩, alike⟩
    · obtain ⟨answers, sessions⟩ :=
        answerReset_agrees alike name (Engine.reset_agrees working storing horizon).1
      rw [found, otherFound]
      exact ⟨_, _, rfl, rfl, answers, sessions⟩
  | moveOrigin name origin =>
    simp only [step]
    rcases alike.look shaped otherShaped name with
      ⟨missing, otherMissing⟩ | ⟨engine, holder, found, otherFound, working, storing⟩
    · rw [missing, otherMissing]
      exact ⟨_, _, rfl, rfl, ⟨rfl, rfl⟩, alike⟩
    · obtain ⟨answers, sessions⟩ :=
        answerReset_agrees alike name (Engine.moveOrigin_agrees working storing origin).1
      rw [found, otherFound]
      exact ⟨_, _, rfl, rfl, answers, sessions⟩
  | @release source workspace storage kept =>
    simp only [step]
    rw [alike.steps source kept]
    cases session.steps.get? source with
    | none => exact ⟨_, _, rfl, rfl, ⟨rfl, rfl⟩, alike⟩
    | some prepared =>
      exact ⟨_, _, rfl, rfl, ⟨rfl, rfl⟩, (alike.removeStep source).withWorkspaces _ _⟩
  | @copyStep source target kept =>
    simp only [step]
    rw [alike.steps source kept]
    cases session.steps.get? source with
    | none => exact ⟨_, _, rfl, rfl, ⟨rfl, rfl⟩, alike⟩
    | some prepared => exact ⟨_, _, rfl, rfl, ⟨rfl, rfl⟩, alike.putStep target prepared⟩
  | @copyWorkspace source origin target storage known =>
    simp only [step]
    cases stored : session.workspaces.get? source with
    | none =>
      rw [stored] at known
      rw [Option.not_isSome_iff_eq_none.mp (Bool.eq_false_iff.mp known)]
      exact ⟨_, _, rfl, rfl, ⟨rfl, rfl⟩, alike⟩
    | some idle =>
      rw [stored] at known
      obtain ⟨spared, otherStored⟩ := Option.isSome_iff_exists.mp known
      rw [otherStored]
      exact ⟨_, _, rfl, rfl, ⟨rfl, rfl⟩, alike.withWorkspaces _ _⟩

end Pairs

end Session

end RecedingHorizon
