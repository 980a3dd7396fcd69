/-
**Sessions.**

A session runs any number of engines, with named workspaces and steps, which may be copied and given
up at will. Every engine of a session has an identity of its own, and an identity is used up as soon
as the settings and the dimensions of a new engine are accepted.

* `Session.step` carries out one command: it answers with a `Reply` and the records logged on the
  way, and a refusal does not end the session;
* `Session.run` carries out a list of commands.

A preparation takes its workspace away, and an advance its step, whether they succeed or not.
-/

import RecedingHorizon.Tracking.ControlStep
import RecedingHorizon.Tracking.Optimality

namespace RecedingHorizon

open Tracking

universe u

/-! ### Names -/

/-- Values under names, of which each has at most one. -/
abbrev Registry (α : Type u) := List (String × α)

namespace Registry

variable {α : Type u}

/-- The registry without a name. -/
def remove (registry : Registry α) (name : String) : Registry α :=
  registry.filter (·.1 ≠ name)

/-- The registry with a value under a name, in place of an earlier one. -/
def put (registry : Registry α) (name : String) (value : α) : Registry α :=
  (name, value) :: remove registry name

/-- The value under a name. -/
def get? (registry : Registry α) (name : String) : Option α :=
  registry.lookup name

theorem get?_put_self (registry : Registry α) (name : String) (value : α) :
    (registry.put name value).get? name = some value := by
  simp [get?, put]

theorem get?_remove_self (registry : Registry α) (name : String) :
    (registry.remove name).get? name = none := by
  simp only [get?, remove, List.lookup_eq_none_iff, List.mem_filter]
  intro entry member
  have apart : entry.1 ≠ name := of_decide_eq_true member.2
  simpa using apart.symm

theorem get?_remove_of_ne (registry : Registry α) {name other : String} (apart : other ≠ name) :
    (registry.remove name).get? other = registry.get? other := by
  induction registry with
  | nil => rfl
  | cons entry rest hypothesis =>
    obtain ⟨key, value⟩ := entry
    by_cases same : key = name
    · have missed : (other == key) = false := beq_eq_false_iff_ne.mpr (same ▸ apart)
      have removed : remove ((key, value) :: rest) name = remove rest name := by
        simp [remove, same]
      rw [removed, hypothesis]
      simp [get?, List.lookup_cons, missed]
    · have kept : remove ((key, value) :: rest) name = (key, value) :: remove rest name := by
        simp [remove, same]
      simp only [get?] at hypothesis ⊢
      rw [kept, List.lookup_cons, List.lookup_cons, hypothesis]

theorem get?_put_of_ne (registry : Registry α) {name other : String} (value : α)
    (apart : other ≠ name) : (registry.put name value).get? other = registry.get? other := by
  have missed : (other == name) = false := beq_eq_false_iff_ne.mpr apart
  rw [← get?_remove_of_ne registry apart]
  simp [get?, put, List.lookup_cons, missed]

end Registry

/-! ### Commands and replies -/

/-- The engines, workspaces and steps at hand. -/
structure Session (σ K : Type u) where
  /-- The identity of the next engine. -/
  nextEngine : Nat
  engines : Registry (Engine σ K)
  workspaces : Registry (Workspace K)
  steps : Registry (Prepared K)

/-- A session without engines. -/
def Session.empty {σ K : Type u} : Session σ K where
  nextEngine := 0
  engines := []
  workspaces := []
  steps := []

/-- What a session can be told to do. Names come first. -/
inductive Command (σ K : Type u) where
  /-- Build an engine over a problem, and reset its horizon at once if one is given. -/
  | construct (engine : String) (problem : σ) (settings : Settings K)
    (horizon : Option (Horizon.Settings K))
  | allocate (engine workspace : String)
  | measure (engine : String) (sample : Sample K) (trajectories : Trajectories K)
  | prepare (engine workspace step : String) (sample : Sample K) (trajectories : Trajectories K)
    (prior out : Vec K)
  | multiply (engine step : String) (decision direction out : Vec K)
  | advance (engine step workspace : String) (decision direction : Vec K)
    (trajectories : Trajectories K) (elapsed : K)
  | reset (engine : String) (horizon : Horizon.Settings K)
  | moveOrigin (engine : String) (origin : K)
  | release (step workspace : String)
  | copyStep (source target : String)
  | copyWorkspace (source target : String)

/-- How a command ended. Storage of the caller comes back with the answer. -/
inductive Reply (ε K : Type u) where
  /-- A name of the command stands for nothing. -/
  | unknown
  | done (result : Except (Refusal ε K) Unit)
  | measured (result : Except (Refusal ε K) K)
  | prepared (result : Except (Refusal ε K) (Prepared K)) (rightHandSide : Vec K)
  | multiplied (result : Except (Refusal ε K) Unit) (product : Vec K)
  | advanced (result : Except (Refusal ε K) Unit) (decision : Vec K)
    (trajectories : Trajectories K)

/-- A session after a command, with the reply and the records logged. -/
structure Answer (σ K ε : Type u) where
  session : Session σ K
  reply : Reply ε K
  records : List (Record K)

namespace Session

variable {σ K ε : Type u} [Problem σ K ε]

/-- The answer to a command that names something unknown. -/
def unknown (session : Session σ K) : Checked (Answer σ K ε) :=
  .ok { session, reply := .unknown, records := [] }

/-- The session with an engine as a call left it. -/
def putEngine (session : Session σ K) (name : String) (engine : Engine σ K) : Session σ K :=
  { session with engines := session.engines.put name engine }

/-! ### Construction and resets -/

section Resets

variable [Zero K] [LT K] [DecidableLT K] [LE K] [DecidableLE K] [ScalarFunctions K]

/-- Build an engine. It is kept only if the reset of its horizon, if any, succeeds. -/
def construct (session : Session σ K) (name : String) (problem : σ) (settings : Settings K)
    (horizon : Option (Horizon.Settings K)) : Answer σ K ε :=
  match Engine.build (ε := ε) session.nextEngine problem settings with
  | .error cause => { session, reply := .done (.error cause), records := [] }
  | .ok engine =>
    let session := { session with nextEngine := session.nextEngine + 1 }
    match horizon with
    | none =>
      { session := session.putEngine name engine
        reply := .done (.ok ())
        records := [engine.announce] }
    | some horizon =>
      let outcome := engine.reset horizon
      { session := match outcome.result with
          | .ok () => session.putEngine name outcome.engine
          | .error _ => session
        reply := .done outcome.result
        records := engine.announce :: outcome.records }

end Resets

/-- The answer to a reset. -/
def answerReset (session : Session σ K) (name : String) (outcome : Outcome σ K ε Unit Unit) :
    Answer σ K ε where
  session := session.putEngine name outcome.engine
  reply := .done outcome.result
  records := outcome.records

/-! ### One command -/

variable [Zero K] [One K] [Add K] [Sub K] [Mul K] [Div K] [Neg K]
  [LT K] [DecidableLT K] [LE K] [DecidableLE K] [ScalarFunctions K]

/-- Carry out a command. -/
def step (session : Session σ K) : Command σ K → Checked (Answer σ K ε)
  | .construct name problem settings horizon =>
    .ok (session.construct name problem settings horizon)
  | .allocate name workspace =>
    match session.engines.get? name with
    | none => session.unknown
    | some engine =>
      .ok {
        session := { session with
          workspaces := session.workspaces.put workspace engine.workspace }
        reply := .done (.ok ())
        records := [] }
  | .measure name sample trajectories =>
    match session.engines.get? name with
    | none => session.unknown
    | some engine => do
      let outcome ← engine.optimalityNorm sample trajectories
      return {
        session := session.putEngine name outcome.engine
        reply := .measured outcome.result
        records := outcome.records }
  | .prepare name workspace target sample trajectories prior out =>
    match session.engines.get? name, session.workspaces.get? workspace with
    | some engine, some storage => do
      let outcome ← engine.prepare storage sample trajectories prior out
      let session := { session.putEngine name outcome.engine with
        workspaces := session.workspaces.remove workspace }
      return {
        session := match outcome.result with
          | .ok prepared => { session with steps := session.steps.put target prepared }
          | .error _ => session
        reply := .prepared outcome.result outcome.buffers
        records := outcome.records }
    | _, _ => session.unknown
  | .multiply name source decision direction out =>
    match session.engines.get? name, session.steps.get? source with
    | some engine, some prepared => do
      let outcome ← engine.multiply prepared decision direction out
      return {
        session := session.putEngine name outcome.engine
        reply := .multiplied outcome.result outcome.buffers
        records := outcome.records }
    | _, _ => session.unknown
  | .advance name source workspace decision direction trajectories elapsed =>
    match session.engines.get? name, session.steps.get? source with
    | some engine, some prepared => do
      let outcome ← engine.advance prepared decision direction trajectories elapsed
      let session := { session.putEngine name outcome.engine with
        steps := session.steps.remove source }
      return {
        session := match outcome.result with
          | .ok storage =>
            { session with workspaces := session.workspaces.put workspace storage }
          | .error _ => session
        reply := .advanced (outcome.result.map fun _ => ()) outcome.buffers.1 outcome.buffers.2
        records := outcome.records }
    | _, _ => session.unknown
  | .reset name horizon =>
    match session.engines.get? name with
    | none => session.unknown
    | some engine => .ok (session.answerReset name (engine.reset horizon))
  | .moveOrigin name origin =>
    match session.engines.get? name with
    | none => session.unknown
    | some engine => .ok (session.answerReset name (engine.moveOrigin origin))
  | .release source workspace =>
    match session.steps.get? source with
    | none => session.unknown
    | some prepared =>
      .ok {
        session := { session with
          steps := session.steps.remove source
          workspaces := session.workspaces.put workspace prepared.release }
        reply := .done (.ok ())
        records := [] }
  | .copyStep source target =>
    match session.steps.get? source with
    | none => session.unknown
    | some prepared =>
      .ok {
        session := { session with steps := session.steps.put target prepared }
        reply := .done (.ok ())
        records := [] }
  | .copyWorkspace source target =>
    match session.workspaces.get? source with
    | none => session.unknown
    | some storage =>
      .ok {
        session := { session with workspaces := session.workspaces.put target storage }
        reply := .done (.ok ())
        records := [] }

/-- Carry out commands one after the other, and collect the answers. -/
def run (session : Session σ K) : List (Command σ K) →
    Checked (Session σ K × List (Answer σ K ε))
  | [] => .ok (session, [])
  | command :: commands => do
    let answer ← session.step command
    let (final, answers) ← run answer.session commands
    return (final, answer :: answers)

end Session

end RecedingHorizon
