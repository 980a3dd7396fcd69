/-
**How a command is carried out.**

A command that names something unknown is answered so. Any other command is one call on an engine,
or moves a value from one registry to another. `Session.Carries` lists the cases, with what is known
of the call and the session that it leaves, and `Session.carries_of_step` says that these are all.
Invariants and relations of sessions are shown by going through the list.
-/

import RecedingHorizon.Proofs.Tracking.Frame
import RecedingHorizon.Session

namespace RecedingHorizon

open Tracking

universe u

variable {σ K ε : Type u}

/-- The engine whose horizon a command resets or moves. -/
def Command.resets : Command σ K → Option String
  | .reset name _ | .moveOrigin name _ => some name
  | _ => none

namespace Session

variable [Problem σ K ε] [Zero K] [One K] [Add K] [Sub K] [Mul K] [Div K] [Neg K]
  [LT K] [DecidableLT K] [LE K] [DecidableLE K] [ScalarFunctions K]

/-- **How a command is carried out.** -/
inductive Carries (session : Session σ K) : Command σ K → Answer σ K ε → Prop
  /-- A name of the command stands for nothing. -/
  | unknown (command : Command σ K)
    (missing : ∀ name, command.resets = some name → session.engines.get? name = none) :
    Carries session command { session, reply := .unknown, records := [] }
  /-- An engine is built, or refused. -/
  | constructed (name : String) (problem : σ) (settings : Settings K)
    (horizon : Option (Horizon.Settings K)) :
    Carries session (.construct name problem settings horizon)
      (session.construct name problem settings horizon)
  | allocated {name : String} {engine : Engine σ K} (workspace : String)
    (found : session.engines.get? name = some engine) :
    Carries session (.allocate name workspace)
      { session := { session with
          workspaces := session.workspaces.put workspace engine.workspace }
        reply := .done (.ok ())
        records := [] }
  | measured {name : String} {engine : Engine σ K} {sample : Sample K}
    {trajectories : Trajectories K} {outcome : Outcome σ K ε Unit K}
    (found : session.engines.get? name = some engine)
    (called : engine.optimalityNorm sample trajectories = .ok outcome) :
    Carries session (.measure name sample trajectories)
      { session := session.putEngine name outcome.engine
        reply := .measured outcome.result
        records := outcome.records }
  /-- A preparation takes its workspace away also if it is refused. -/
  | unprepared {name workspace target : String} {engine : Engine σ K} {storage : Workspace K}
    {sample : Sample K} {trajectories : Trajectories K} {prior out : Vec K}
    {outcome : Outcome σ K ε (Vec K) (Prepared K)} {cause : Refusal ε K}
    (found : session.engines.get? name = some engine)
    (stored : session.workspaces.get? workspace = some storage)
    (called : engine.prepare storage sample trajectories prior out = .ok outcome)
    (refused : outcome.result = .error cause) (same : outcome.engine = engine) :
    Carries session (.prepare name workspace target sample trajectories prior out)
      { session := { session.putEngine name outcome.engine with
          workspaces := session.workspaces.remove workspace }
        reply := .prepared (.error cause) outcome.buffers
        records := outcome.records }
  | prepared {name workspace target : String} {engine : Engine σ K} {storage : Workspace K}
    {sample : Sample K} {trajectories : Trajectories K} {prior out : Vec K}
    {outcome : Outcome σ K ε (Vec K) (Prepared K)} {step : Prepared K}
    (found : session.engines.get? name = some engine)
    (stored : session.workspaces.get? workspace = some storage)
    (called : engine.prepare storage sample trajectories prior out = .ok outcome)
    (made : outcome.result = .ok step) (owner : step.engine = engine.id)
    (continues :
      Engine.Continues { engine with sequence := engine.sequence + 1 } outcome.engine) :
    Carries session (.prepare name workspace target sample trajectories prior out)
      { session := { session.putEngine name outcome.engine with
          workspaces := session.workspaces.remove workspace
          steps := session.steps.put target step }
        reply := .prepared (.ok step) outcome.buffers
        records := outcome.records }
  | multiplied {name source : String} {engine : Engine σ K} {step : Prepared K}
    {decision direction out : Vec K} {outcome : Outcome σ K ε (Vec K) Unit}
    (found : session.engines.get? name = some engine)
    (held : session.steps.get? source = some step)
    (called : engine.multiply step decision direction out = .ok outcome) :
    Carries session (.multiply name source decision direction out)
      { session := session.putEngine name outcome.engine
        reply := .multiplied outcome.result outcome.buffers
        records := outcome.records }
  /-- An advance takes its step away also if it is refused. -/
  | unadvanced {name source workspace : String} {engine : Engine σ K} {step : Prepared K}
    {decision direction : Vec K} {trajectories : Trajectories K} {elapsed : K}
    {outcome : Outcome σ K ε (Vec K × Trajectories K) (Workspace K)} {cause : Refusal ε K}
    (found : session.engines.get? name = some engine)
    (held : session.steps.get? source = some step)
    (called : engine.advance step decision direction trajectories elapsed = .ok outcome)
    (refused : outcome.result = .error cause) :
    Carries session (.advance name source workspace decision direction trajectories elapsed)
      { session := { session.putEngine name outcome.engine with
          steps := session.steps.remove source }
        reply := .advanced (.error cause) outcome.buffers.1 outcome.buffers.2
        records := outcome.records }
  /-- An advance that succeeds gives back the storage of its step. -/
  | advanced {name source workspace : String} {engine : Engine σ K} {step : Prepared K}
    {decision direction : Vec K} {trajectories : Trajectories K} {elapsed : K}
    {outcome : Outcome σ K ε (Vec K × Trajectories K) (Workspace K)}
    (found : session.engines.get? name = some engine)
    (held : session.steps.get? source = some step)
    (called : engine.advance step decision direction trajectories elapsed = .ok outcome)
    (returned : outcome.result = .ok step.release) :
    Carries session (.advance name source workspace decision direction trajectories elapsed)
      { session := { session.putEngine name outcome.engine with
          steps := session.steps.remove source
          workspaces := session.workspaces.put workspace step.release }
        reply := .advanced (.ok ()) outcome.buffers.1 outcome.buffers.2
        records := outcome.records }
  | reset {name : String} {engine : Engine σ K} (horizon : Horizon.Settings K)
    (found : session.engines.get? name = some engine) :
    Carries session (.reset name horizon) (session.answerReset name (engine.reset horizon))
  | moved {name : String} {engine : Engine σ K} (origin : K)
    (found : session.engines.get? name = some engine) :
    Carries session (.moveOrigin name origin)
      (session.answerReset name (engine.moveOrigin origin))
  | released {source : String} {step : Prepared K} (workspace : String)
    (held : session.steps.get? source = some step) :
    Carries session (.release source workspace)
      { session := { session with
          steps := session.steps.remove source
          workspaces := session.workspaces.put workspace step.release }
        reply := .done (.ok ())
        records := [] }
  | stepCopied {source : String} {step : Prepared K} (target : String)
    (held : session.steps.get? source = some step) :
    Carries session (.copyStep source target)
      { session := { session with steps := session.steps.put target step }
        reply := .done (.ok ())
        records := [] }
  | workspaceCopied {source : String} {storage : Workspace K} (target : String)
    (stored : session.workspaces.get? source = some storage) :
    Carries session (.copyWorkspace source target)
      { session := { session with workspaces := session.workspaces.put target storage }
        reply := .done (.ok ())
        records := [] }

variable {session : Session σ K} {command : Command σ K} {answer : Answer σ K ε}

/-- **Every command is carried out in one of these ways.** -/
theorem carries_of_step (ran : session.step command = .ok answer) :
    session.Carries command answer := by
  cases command with
  | construct name problem settings horizon =>
    cases ran
    exact .constructed name problem settings horizon
  | allocate name workspace =>
    simp only [step] at ran
    split at ran <;> cases ran
    · exact .unknown _ nofun
    · rename_i found
      exact .allocated workspace found
  | measure name sample trajectories =>
    simp only [step] at ran
    split at ran
    · cases ran
      exact .unknown _ nofun
    · rename_i found
      obtain ⟨outcome, called, ran⟩ := bind_eq_ok_iff.mp ran
      cases ran
      exact .measured found called
  | prepare name workspace target sample trajectories prior out =>
    simp only [step] at ran
    split at ran
    · rename_i found stored
      obtain ⟨outcome, called, ran⟩ := bind_eq_ok_iff.mp ran
      cases ran
      rcases Engine.prepare_frame called with
        ⟨cause, refused, same⟩ | ⟨step, made, owner, _, continues⟩
      · rw [refused]
        exact .unprepared found stored called refused same
      · rw [made]
        exact .prepared found stored called made owner continues
    · cases ran
      exact .unknown _ nofun
  | multiply name source decision direction out =>
    simp only [step] at ran
    split at ran
    · rename_i found held
      obtain ⟨outcome, called, ran⟩ := bind_eq_ok_iff.mp ran
      cases ran
      exact .multiplied found held called
    · cases ran
      exact .unknown _ nofun
  | advance name source workspace decision direction trajectories elapsed =>
    simp only [step] at ran
    split at ran
    · rename_i found held
      obtain ⟨outcome, called, ran⟩ := bind_eq_ok_iff.mp ran
      cases ran
      cases returned : outcome.result with
      | error cause => exact .unadvanced found held called returned
      | ok storage =>
        obtain rfl := Engine.released_of_advance called returned
        exact .advanced found held called returned
    · cases ran
      exact .unknown _ nofun
  | reset name horizon =>
    simp only [step] at ran
    split at ran <;> cases ran
    · rename_i missing
      exact .unknown _ fun other same => Option.some.inj same ▸ missing
    · rename_i found
      exact .reset horizon found
  | moveOrigin name origin =>
    simp only [step] at ran
    split at ran <;> cases ran
    · rename_i missing
      exact .unknown _ fun other same => Option.some.inj same ▸ missing
    · rename_i found
      exact .moved origin found
  | release source workspace =>
    simp only [step] at ran
    split at ran <;> cases ran
    · exact .unknown _ nofun
    · rename_i held
      exact .released workspace held
  | copyStep source target =>
    simp only [step] at ran
    split at ran <;> cases ran
    · exact .unknown _ nofun
    · rename_i held
      exact .stepCopied target held
  | copyWorkspace source target =>
    simp only [step] at ran
    split at ran <;> cases ran
    · exact .unknown _ nofun
    · rename_i stored
      exact .workspaceCopied target stored

end Session

end RecedingHorizon
