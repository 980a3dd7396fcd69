/-
**Sessions over regulators.**

In a session over regulators every engine works, and whatever the session keeps for an engine has
the shapes of its dimensions. Every command finds it so and leaves it so, and none faults. No reset
spoils an engine, since the horizon of a regulator has no part in its dimensions.

* `Session.Shaped` is the invariant, with the dimensions of every identity that was given out, and
  `Session.Sound` the invariant for some dimensions;
* `Session.step_sound`: every command is carried out and keeps a session sound.
-/

import RecedingHorizon.Proofs.Tracking.Agreement
import RecedingHorizon.Proofs.Session.Currency
import RecedingHorizon.Proofs.Session.Keeping

set_option linter.unusedSectionVars false

namespace RecedingHorizon

open Tracking

universe u

namespace Session

/-! ### The invariant -/

section Shaped

variable {K : Type u}

/-- The session keeps to the given dimensions: its engines work with the dimensions of their
identity, and its workspaces and steps fit those of their engine. -/
structure Shaped (session : Session (Regulator K) K) (shapes : Nat → Dimensions) : Prop where
  engines : session.engines.All fun engine => engine.Working ∧ engine.id < session.nextEngine ∧
    engine.dimensions = shapes engine.id
  workspaces : session.workspaces.All fun workspace => workspace.engine < session.nextEngine ∧
    workspace.buffers.Fits (shapes workspace.engine)
  steps : session.steps.All fun step => step.engine < session.nextEngine ∧
    step.buffers.Fits (shapes step.engine)

/-- The session keeps to some dimensions. -/
def Sound (session : Session (Regulator K) K) : Prop :=
  ∃ shapes, session.Shaped shapes

theorem sound_empty : (Session.empty : Session (Regulator K) K).Sound :=
  ⟨fun _ => default, Registry.all_nil, Registry.all_nil, Registry.all_nil⟩

variable {session : Session (Regulator K) K} {shapes : Nat → Dimensions}

/-- All that a session keeps is kept, and no identity is lost. -/
theorem shaped_iff_keeps :
    session.Shaped shapes ↔ session.Keeps Engine.Working (fun _ => False) shapes := by
  constructor
  · intro shaped
    refine ⟨shaped.engines.mono ?_, shaped.workspaces.mono ?_, shaped.steps.mono ?_⟩
    · exact fun engine ⟨working, below, shape⟩ => ⟨below, shape, fun _ => working⟩
    · exact fun workspace ⟨below, fits⟩ => ⟨below, fun _ => fits⟩
    · exact fun step ⟨below, fits⟩ => ⟨below, fun _ => fits⟩
  · intro keeps
    refine ⟨keeps.engines.mono ?_, keeps.workspaces.mono ?_, keeps.steps.mono ?_⟩
    · exact fun engine ⟨below, shape, working⟩ => ⟨working not_false, below, shape⟩
    · exact fun workspace stored => ⟨stored.below, stored.fits not_false⟩
    · exact fun step stored => ⟨stored.below, stored.fits not_false⟩

variable (shaped : session.Shaped shapes) {name : String} {engine : Engine (Regulator K) K}
include shaped

/-- Storage of an engine fits the engine. -/
theorem Shaped.workspace_fits {held : String} {workspace : Workspace K}
    (found : session.engines.get? name = some engine)
    (stored : session.workspaces.get? held = some workspace) (own : workspace.engine = engine.id) :
    workspace.buffers.Fits engine.dimensions :=
  (shaped_iff_keeps.mp shaped).workspace_fits found not_false stored own

/-- A step of an engine fits the engine. -/
theorem Shaped.step_fits {held : String} {step : Prepared K}
    (found : session.engines.get? name = some engine)
    (stored : session.steps.get? held = some step) (own : step.engine = engine.id) :
    step.buffers.Fits engine.dimensions :=
  (shaped_iff_keeps.mp shaped).step_fits found not_false stored own

end Shaped

/-! ### Commands -/

section Commands

variable {K : Type u} [Zero K] [One K] [Add K] [Sub K] [Mul K] [Div K] [Neg K] [BEq K] [NatCast K]
  [LT K] [DecidableLT K] [LE K] [DecidableLE K] [ScalarFunctions K]
  {session : Session (Regulator K) K}

/-- The problems that a command brings are sound. -/
def Proper : Command (Regulator K) K → Prop
  | .construct _ problem _ _ => problem.Sound
  | _ => True

/-- A command that brings problems of a sound kind is a proper one. -/
theorem proper_of_brings {allowed : Regulator K → Prop}
    (sound : ∀ model, allowed model → model.Sound) {command : Command (Regulator K) K}
    (brings : command.Brings allowed) : Proper command := by
  cases command with
  | construct name problem settings horizon => exact sound problem brings
  | _ => trivial

theorem brings_of_proper {command : Command (Regulator K) K} (proper : Proper command) :
    command.Brings Regulator.Sound := by
  cases command <;> exact proper

/-- Engines over regulators operate, and nothing spoils them. -/
theorem operates_working :
    Engine.Operates (Engine.Working (K := K)) (fun _ => False) where
  optimalityNorm engine working sample trajectories := by
    obtain ⟨outcome, _, ran, _, agrees, _⟩ :=
      Engine.optimalityNorm_agrees working working.ready.storing_self sample trajectories
    exact ⟨outcome, ran, agrees.working⟩
  prepare engine working workspace sample trajectories prior out fits := by
    obtain ⟨outcome, _, ran, _, agrees, made⟩ := Engine.prepare_agrees working
      working.ready.storing_self fits fits rfl sample trajectories prior (Eq.refl out.size)
    exact ⟨outcome, ran, agrees.working, made⟩
  multiply engine working step decision direction out fits := by
    obtain ⟨outcome, _, ran, _, agrees, _⟩ := Engine.multiply_agrees working
      working.ready.storing_self fits decision direction (Eq.refl out.size)
    exact ⟨outcome, ran, agrees.working⟩
  advance engine working step decision direction trajectories elapsed fits := by
    obtain ⟨outcome, _, ran, _, agrees, _⟩ := Engine.advance_agrees working
      working.ready.storing_self fits decision direction trajectories elapsed
    exact ⟨outcome, ran, agrees.working⟩
  reset engine working horizon :=
    Or.inl (Engine.reset_agrees working working.ready.storing_self horizon).1.working
  moveOrigin engine working origin :=
    Or.inl (Engine.moveOrigin_agrees working working.ready.storing_self origin).1.working

/-- **No command faults**, and every command keeps the session sound. -/
theorem step_sound (sound : session.Sound) {command : Command (Regulator K) K}
    (proper : Proper command) :
    ∃ answer, session.step (ε := Horizon.Invalid K) command = .ok answer ∧
      answer.session.Sound := by
  obtain ⟨shapes, shaped⟩ := sound
  have keeps := shaped_iff_keeps.mp shaped
  obtain ⟨answer, ran, _⟩ :=
    keeps.step_returns operates_working command fun _ _ _ _ => not_false
  obtain ⟨after, kept⟩ :=
    keeps.step operates_working (fun _ _ _ _ => Engine.working_of_build)
      (brings_of_proper proper) ran
  refine ⟨answer, ran, after, shaped_iff_keeps.mpr (kept.lose _ ?_)⟩
  rintro id (lost | ⟨_, _, _, _, spoiled⟩)
  · exact lost
  · exact spoiled

/-- The session that a command leaves is sound. -/
theorem sound_of_step (sound : session.Sound) {command : Command (Regulator K) K}
    (proper : Proper command) {answer : Answer (Regulator K) K (Horizon.Invalid K)}
    (ran : session.step command = .ok answer) : answer.session.Sound := by
  obtain ⟨reached, same, kept⟩ := step_sound sound proper
  rw [ran] at same
  cases same
  exact kept

end Commands

/-! ### The session of two carts -/

section Carts

open Regulator

theorem brings_cartEngines : ∀ command ∈ cartEngines, command.Brings Regulator.Sound := by
  intro command member
  simp only [cartEngines, List.mem_cons, List.not_mem_nil, or_false] at member
  rcases member with rfl | rfl | rfl
  · exact accepted_cart.sound
  · exact accepted_cart.sound
  · trivial

/-- The first cart is at work. -/
theorem employs_cartEngine : cartSession.Employs Regulator.Sound "first" cartEngine := by
  obtain ⟨answers, ran⟩ := run_cartEngines
  exact employs_of_rigid functional.lawful rigid brings_cartEngines ran rfl

end Carts

end Session

end RecedingHorizon
