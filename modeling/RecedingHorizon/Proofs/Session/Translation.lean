/-
**Sessions are translated in time.**

Take a session over regulators, put every origin later, and delay every time that a command carries:
the samples, the origins of resets and those of the problems that are brought. Every reply is then
the same, but for the times of the steps that are prepared, which are later by the delay.

* `Command.delay` and `Reply.delay`: the delayed command, and the reply to it;
* `Session.Delayed`: two sessions with the same engines, steps and storage, but for the delay, and
  `Answer.Delayed`: two answers that leave such sessions;
* `step_delayed` and `run_delayed`: one command, and any commands, over problems that are
  translated;
* `runs_translated`: any commands over regulators.
-/

import RecedingHorizon.Proofs.Regulator.Translation
import RecedingHorizon.Proofs.Session.Safety

set_option linter.unusedSectionVars false

namespace RecedingHorizon

open Tracking

universe u

/-! ### Registries -/

namespace Registry

variable {α β : Type u}

/-- The registries know the same names, and keep related values under them. -/
def Match (related : α → β → Prop) (registry : Registry α) (other : Registry β) : Prop :=
  ∀ name, Option.Rel related (registry.get? name) (other.get? name)

variable {related : α → β → Prop} {registry : Registry α} {other : Registry β}

theorem match_nil : Match related [] [] :=
  fun _ => .none

theorem Match.put (same : Match related registry other) (name : String) {value : α} {last : β}
    (holds : related value last) :
    Match related (registry.put name value) (other.put name last) := by
  intro held
  by_cases here : held = name
  · rw [here, get?_put_self, get?_put_self]
    exact .some holds
  · rw [get?_put_of_ne _ _ here, get?_put_of_ne _ _ here]
    exact same held

theorem Match.remove (same : Match related registry other) (name : String) :
    Match related (registry.remove name) (other.remove name) := by
  intro held
  by_cases here : held = name
  · rw [here, get?_remove_self, get?_remove_self]
    exact .none
  · rw [get?_remove_of_ne _ here, get?_remove_of_ne _ here]
    exact same held

/-- What is found under a name. -/
theorem Match.look (same : Match related registry other) (name : String) :
    (registry.get? name = none ∧ other.get? name = none) ∨
      ∃ value last, registry.get? name = some value ∧ other.get? name = some last ∧
        related value last := by
  have found := same name
  revert found
  generalize registry.get? name = held
  generalize other.get? name = later
  intro found
  cases found with
  | none => exact .inl ⟨rfl, rfl⟩
  | some holds => exact .inr ⟨_, _, rfl, rfl, holds⟩

end Registry

/-! ### Delayed commands -/

variable {σ K ε : Type u}

/-- The same command at a later time. -/
def Command.delay [Add K] (shift : K) (move : σ → σ) : Command σ K → Command σ K
  | .construct name problem settings horizon =>
    .construct name (move problem) settings (horizon.map (Horizon.Settings.delay shift))
  | .measure name sample trajectories => .measure name (sample.delay shift) trajectories
  | .prepare name workspace target sample trajectories prior out =>
    .prepare name workspace target (sample.delay shift) trajectories prior out
  | .reset name horizon => .reset name (horizon.delay shift)
  | .moveOrigin name origin => .moveOrigin name (origin + shift)
  | command => command

/-- The same reply at a later time. A step that has been prepared is later. -/
def Reply.delay [Add K] (shift : K) : Reply ε K → Reply ε K
  | .prepared result rightHandSide => .prepared (result.map (Prepared.delay shift)) rightHandSide
  | reply => reply

/-- **Two sessions are the same, but for the delay**: the one has its engines over the problems that
are put in the place of those of the other, its steps are later, and its workspaces differ in times
that nothing reads. -/
structure Session.Delayed [Add K] (shift : K) (move : σ → σ) (session later : Session σ K) :
    Prop where
  nextEngine : later.nextEngine = session.nextEngine
  engines : session.engines.Match (fun engine last => last = engine.carry move) later.engines
  workspaces : session.workspaces.Match Workspace.SameStorage later.workspaces
  steps : session.steps.Match (fun step last => last = step.delay shift) later.steps

/-- **Two answers are the same, but for the delay.** -/
structure Answer.Delayed [Add K] (shift : K) (move : σ → σ) (answer later : Answer σ K ε) :
    Prop where
  session : answer.session.Delayed shift move later.session
  reply : later.reply = answer.reply.delay shift
  records : later.records = answer.records.map (Record.delay shift)

namespace Session

theorem delayed_empty [Add K] (shift : K) (move : σ → σ) :
    Session.Delayed shift move Session.empty Session.empty :=
  ⟨rfl, Registry.match_nil, Registry.match_nil, Registry.match_nil⟩

section Step

variable [Problem σ K ε] [Field K] [LinearOrder K] [ScalarFunctions K] {shift : K} {move : σ → σ}
  (translates : Problem.Translates (ε := ε) shift move) {session later : Session σ K}
  (delayed : session.Delayed shift move later)
include delayed

omit [Problem σ K ε] [LinearOrder K] [ScalarFunctions K] in
theorem Delayed.putEngine (name : String) (engine : Engine σ K) :
    (session.putEngine name engine).Delayed shift move
      (later.putEngine name (engine.carry move)) :=
  ⟨delayed.nextEngine, delayed.engines.put name rfl, delayed.workspaces, delayed.steps⟩

/-- Two resets with outcomes that are the same, but for the delay. -/
theorem answerReset_delayed (name : String) {outcome last : Outcome σ K ε Unit Unit}
    (same : Outcome.Delayed shift move Eq outcome last) :
    (session.answerReset name outcome).Delayed shift move (later.answerReset name last) := by
  cases same with
  | refused engine _ records cause => exact ⟨delayed.putEngine name engine, rfl, rfl⟩
  | done engine _ records same => exact ⟨delayed.putEngine name engine, rfl, rfl⟩

include translates

/-- Two constructions, one over the problem in the place of the other. -/
theorem construct_delayed (name : String) (problem : σ) (settings : Settings K)
    (horizon : Option (Horizon.Settings K)) :
    (session.construct (ε := ε) name problem settings horizon).Delayed shift move
      (later.construct name (move problem) settings
        (horizon.map (Horizon.Settings.delay shift))) := by
  have built := Engine.build_delayed translates session.nextEngine problem settings
  unfold construct
  rw [delayed.nextEngine, built.eq_map]
  cases Engine.build (ε := ε) session.nextEngine problem settings with
  | error cause => exact ⟨delayed, rfl, rfl⟩
  | ok engine =>
    have counted : Delayed shift move { session with nextEngine := session.nextEngine + 1 }
        { later with nextEngine := session.nextEngine + 1 } :=
      ⟨rfl, delayed.engines, delayed.workspaces, delayed.steps⟩
    cases horizon with
    | none => exact ⟨counted.putEngine name engine, rfl, rfl⟩
    | some horizon =>
      have same := Engine.reset_delayed translates engine horizon
      simp only [Except.map, Option.map_some]
      revert same
      generalize engine.reset horizon = outcome
      generalize (engine.carry move).reset (horizon.delay shift) = last
      intro same
      cases same with
      | refused next _ records cause => exact ⟨counted, rfl, rfl⟩
      | done next _ records same => exact ⟨counted.putEngine name next, rfl, rfl⟩

/-- **One command, delayed.** It faults alike, or is answered alike, and leaves two sessions that
are again the same, but for the delay. -/
theorem step_delayed (command : Command σ K) :
    Corresponds (Answer.Delayed (ε := ε) shift move) (session.step command)
      (later.step (command.delay shift move)) := by
  cases command with
  | construct name problem settings horizon =>
    exact .ok (construct_delayed translates delayed name problem settings horizon)
  | allocate name workspace =>
    simp only [step, Command.delay]
    rcases delayed.engines.look name with ⟨missing, none⟩ | ⟨engine, _, found, held, rfl⟩
    · rw [missing, none]
      exact .ok ⟨delayed, rfl, rfl⟩
    · rw [found, held]
      exact .ok ⟨⟨delayed.nextEngine, delayed.engines,
        delayed.workspaces.put workspace ⟨_, _, rfl⟩, delayed.steps⟩, rfl, rfl⟩
  | measure name sample trajectories =>
    simp only [step, Command.delay]
    rcases delayed.engines.look name with ⟨missing, none⟩ | ⟨engine, _, found, held, rfl⟩
    · rw [missing, none]
      exact .ok ⟨delayed, rfl, rfl⟩
    · rw [found, held]
      refine (Engine.optimalityNorm_delayed translates engine sample trajectories).bind ?_
      rintro _ _ (⟨next, _, records, cause⟩ | ⟨next, _, records, rfl⟩)
      · exact .ok ⟨delayed.putEngine name next, rfl, rfl⟩
      · exact .ok ⟨delayed.putEngine name next, rfl, rfl⟩
  | prepare name workspace target sample trajectories prior out =>
    simp only [step, Command.delay]
    rcases delayed.engines.look name with ⟨missing, none⟩ | ⟨engine, _, found, held, rfl⟩
    · rw [missing, none]
      exact .ok ⟨delayed, rfl, rfl⟩
    rcases delayed.workspaces.look workspace with ⟨missing, none⟩ | ⟨storage, _, stored, kept, same⟩
    · rw [found, held, missing, none]
      exact .ok ⟨delayed, rfl, rfl⟩
    · rw [found, held, stored, kept]
      refine (Engine.prepare_delayed translates engine same sample trajectories prior out).bind ?_
      have taken : ∀ next : Engine σ K, Delayed shift move
          { session.putEngine name next with
            workspaces := session.workspaces.remove workspace }
          { later.putEngine name (next.carry move) with
            workspaces := later.workspaces.remove workspace } := fun next =>
        { delayed.putEngine name next with workspaces := delayed.workspaces.remove workspace }
      rintro _ _ (⟨next, _, records, cause⟩ | ⟨next, _, records, rfl⟩)
      · exact .ok ⟨taken next, rfl, rfl⟩
      · exact .ok ⟨{ taken next with steps := delayed.steps.put target rfl }, rfl, rfl⟩
  | multiply name source decision direction out =>
    simp only [step, Command.delay]
    rcases delayed.engines.look name with ⟨missing, none⟩ | ⟨engine, _, found, held, rfl⟩
    · rw [missing, none]
      exact .ok ⟨delayed, rfl, rfl⟩
    rcases delayed.steps.look source with ⟨missing, none⟩ | ⟨prepared, _, stored, kept, rfl⟩
    · rw [found, held, missing, none]
      exact .ok ⟨delayed, rfl, rfl⟩
    · rw [found, held, stored, kept]
      refine (Engine.multiply_delayed translates engine prepared decision direction out).bind ?_
      rintro _ _ (⟨next, _, records, cause⟩ | ⟨next, _, records, same⟩)
      · exact .ok ⟨delayed.putEngine name next, rfl, rfl⟩
      · exact .ok ⟨delayed.putEngine name next, rfl, rfl⟩
  | advance name source workspace decision direction trajectories elapsed =>
    simp only [step, Command.delay]
    rcases delayed.engines.look name with ⟨missing, none⟩ | ⟨engine, _, found, held, rfl⟩
    · rw [missing, none]
      exact .ok ⟨delayed, rfl, rfl⟩
    rcases delayed.steps.look source with ⟨missing, none⟩ | ⟨prepared, _, stored, kept, rfl⟩
    · rw [found, held, missing, none]
      exact .ok ⟨delayed, rfl, rfl⟩
    · rw [found, held, stored, kept]
      refine (Engine.advance_delayed translates engine prepared decision direction trajectories
        elapsed).bind ?_
      have taken : ∀ next : Engine σ K, Delayed shift move
          { session.putEngine name next with steps := session.steps.remove source }
          { later.putEngine name (next.carry move) with steps := later.steps.remove source } :=
        fun next => { delayed.putEngine name next with steps := delayed.steps.remove source }
      rintro _ _ (⟨next, _, records, cause⟩ | ⟨next, _, records, same⟩)
      · exact .ok ⟨taken next, rfl, rfl⟩
      · exact .ok ⟨{ taken next with
          workspaces := delayed.workspaces.put workspace same }, rfl, rfl⟩
  | reset name horizon =>
    simp only [step, Command.delay]
    rcases delayed.engines.look name with ⟨missing, none⟩ | ⟨engine, _, found, held, rfl⟩
    · rw [missing, none]
      exact .ok ⟨delayed, rfl, rfl⟩
    · rw [found, held]
      exact .ok (answerReset_delayed delayed name (Engine.reset_delayed translates engine horizon))
  | moveOrigin name origin =>
    simp only [step, Command.delay]
    rcases delayed.engines.look name with ⟨missing, none⟩ | ⟨engine, _, found, held, rfl⟩
    · rw [missing, none]
      exact .ok ⟨delayed, rfl, rfl⟩
    · rw [found, held]
      exact .ok (answerReset_delayed delayed name
        (Engine.moveOrigin_delayed translates engine origin))
  | release source workspace =>
    simp only [step, Command.delay]
    rcases delayed.steps.look source with ⟨missing, none⟩ | ⟨prepared, _, stored, kept, rfl⟩
    · rw [missing, none]
      exact .ok ⟨delayed, rfl, rfl⟩
    · rw [stored, kept]
      exact .ok ⟨⟨delayed.nextEngine, delayed.engines,
        delayed.workspaces.put workspace ⟨_, _, rfl⟩, delayed.steps.remove source⟩, rfl, rfl⟩
  | copyStep source target =>
    simp only [step, Command.delay]
    rcases delayed.steps.look source with ⟨missing, none⟩ | ⟨prepared, _, stored, kept, rfl⟩
    · rw [missing, none]
      exact .ok ⟨delayed, rfl, rfl⟩
    · rw [stored, kept]
      exact .ok ⟨{ delayed with steps := delayed.steps.put target rfl }, rfl, rfl⟩
  | copyWorkspace source target =>
    simp only [step, Command.delay]
    rcases delayed.workspaces.look source with ⟨missing, none⟩ | ⟨storage, _, stored, kept, same⟩
    · rw [missing, none]
      exact .ok ⟨delayed, rfl, rfl⟩
    · rw [stored, kept]
      exact .ok ⟨{ delayed with workspaces := delayed.workspaces.put target same }, rfl, rfl⟩

end Step

/-! ### Runs -/

/-- **Runs are translated.** -/
theorem run_delayed [Problem σ K ε] [Field K] [LinearOrder K] [ScalarFunctions K] {shift : K}
    {move : σ → σ} (translates : Problem.Translates (ε := ε) shift move)
    {session later : Session σ K} (delayed : session.Delayed shift move later)
    (commands : List (Command σ K)) :
    Corresponds
      (fun first second => first.1.Delayed shift move second.1 ∧
        List.Forall₂ (Answer.Delayed (ε := ε) shift move) first.2 second.2)
      (session.run commands) (later.run (commands.map (Command.delay shift move))) := by
  induction commands generalizing session later with
  | nil => exact .ok ⟨delayed, .nil⟩
  | cons command commands hypothesis =>
    refine (step_delayed translates delayed command).bind fun answer last same => ?_
    refine (hypothesis same.session).bind ?_
    rintro ⟨final, answers⟩ ⟨last, others⟩ ⟨kept, agreed⟩
    exact .ok ⟨kept, .cons same agreed⟩

/-- **A session over regulators is translated in time.** Take two sessions that are the same but for
the delay: the one has every origin of a horizon later, and the times of its steps. Let both carry
out any commands, the one with every sample, every origin of a reset and every origin of a problem
that is brought later by the delay. Both runs fault alike, or every reply is the same, but for the
times of the steps that are prepared, which are later by the delay, and the records are those of
later events; and again, the sessions are the same but for the delay. Over sound regulators both
runs are carried out. The scalars may be those of any ordered field, with any functions, as long as
the delay makes no time infinite. -/
theorem runs_translated {K : Type u} [Field K] [LinearOrder K] [ScalarFunctions K] {shift : K}
    (finite : ∀ time : K, ScalarFunctions.isFinite (time + shift) = ScalarFunctions.isFinite time)
    {session later : Session (Regulator K) K}
    (delayed : session.Delayed shift (Regulator.delay shift) later)
    (commands : List (Command (Regulator K) K)) :
    Corresponds
      (fun first second => first.1.Delayed shift (Regulator.delay shift) second.1 ∧
        List.Forall₂ (Answer.Delayed (ε := Horizon.Invalid K) shift (Regulator.delay shift))
          first.2 second.2)
      (session.run commands)
      (later.run (commands.map (Command.delay shift (Regulator.delay shift)))) ∧
    (session.Sound → (∀ command ∈ commands, Proper command) →
      ∃ (final last : Session (Regulator K) K)
        (answers others : List (Answer (Regulator K) K (Horizon.Invalid K))),
        session.run commands = .ok (final, answers) ∧
        later.run (commands.map (Command.delay shift (Regulator.delay shift))) =
          .ok (last, others) ∧
        final.Delayed shift (Regulator.delay shift) last ∧
        List.Forall₂ (Answer.Delayed shift (Regulator.delay shift)) answers others) := by
  have same := run_delayed (Regulator.translates finite) delayed commands
  refine ⟨same, fun sound proper => ?_⟩
  obtain ⟨⟨final, answers⟩, ran, _⟩ := run_sound sound proper
  rw [ran] at same
  generalize later.run (commands.map (Command.delay shift (Regulator.delay shift))) = outcome
    at same
  cases same with
  | ok agreed => exact ⟨final, _, answers, _, ran, rfl, agreed⟩

/-! ### A later cart -/

section Cart

open Regulator

/-- A turn of the first cart, and what it is asked after two resets. -/
def cartTurn : List (Command (Regulator ℚ) ℚ) :=
  cartEngines ++ [cartPreparation,
    .multiply "first" "step" cartSample.decision #[1, 0, 2, 1] (Vec.zeros 4),
    .advance "first" "step" "workspace" cartSample.decision #[1, 0, 2, 1] cartTrajectories (1 / 10),
    .reset "first" { finalLength := 2, growthRate := 1, origin := 1 / 4 },
    .measure "first" cartSample cartTrajectories,
    .moveOrigin "first" (1 / 3),
    .measure "first" cartSample cartTrajectories]

/-- The turn is carried out, and the step is prepared. -/
def cartTurnPrepares : Bool :=
  match Session.empty.run (ε := Horizon.Invalid ℚ) cartTurn with
  | .ok (_, _ :: _ :: _ :: { reply := .prepared (.ok _) _, .. } :: _) => true
  | _ => false

/-- The cart turns alike three units of time later. -/
theorem runs_translated_cart :
    (∀ time : ℚ, ScalarFunctions.isFinite (time + 3) = ScalarFunctions.isFinite time) ∧
    Session.Delayed 3 (Regulator.delay 3) (Session.empty : Session (Regulator ℚ) ℚ)
      Session.empty ∧
    ∃ (final last : Session (Regulator ℚ) ℚ)
      (answers others : List (Answer (Regulator ℚ) ℚ (Horizon.Invalid ℚ))) (step : Prepared ℚ)
      (rightHandSide : Vec ℚ),
      Session.empty.run cartTurn = .ok (final, answers) ∧
      Session.empty.run (cartTurn.map (Command.delay 3 (Regulator.delay 3))) =
        .ok (last, others) ∧
      final.Delayed 3 (Regulator.delay 3) last ∧
      answers[3]?.map Answer.reply = some (.prepared (.ok step) rightHandSide) ∧
      others[3]?.map Answer.reply = some (.prepared (.ok (step.delay 3)) rightHandSide) := by
  have finite : ∀ time : ℚ,
      ScalarFunctions.isFinite (time + 3) = ScalarFunctions.isFinite time := fun _ => rfl
  have empty := delayed_empty (σ := Regulator ℚ) (3 : ℚ) (Regulator.delay 3)
  have proper : ∀ command ∈ cartTurn, Proper command := by
    intro command member
    simp only [cartTurn, cartEngines, cartPreparation, List.mem_append, List.mem_cons,
      List.not_mem_nil, or_false] at member
    rcases member with (rfl | rfl | rfl) | (rfl | rfl | rfl | rfl | rfl | rfl | rfl)
    · exact accepted_cart.sound
    · exact accepted_cart.sound
    all_goals trivial
  obtain ⟨final, last, answers, others, ran, later, kept, agreed⟩ :=
    (runs_translated finite empty cartTurn).2 sound_empty proper
  have prepares : cartTurnPrepares = true := by decide +kernel
  unfold cartTurnPrepares at prepares
  rw [ran] at prepares
  split at prepares
  · rename_i first second third step rightHandSide records rest same
    cases same
    rcases agreed with _ | ⟨_, _ | ⟨_, _ | ⟨_, _ | ⟨prepared, _⟩⟩⟩⟩
    exact ⟨finite, empty, final, last, _, _, step, rightHandSide, ran, later, kept, rfl,
      congrArg some prepared.reply⟩
  · cases prepares

end Cart

end Session

end RecedingHorizon
