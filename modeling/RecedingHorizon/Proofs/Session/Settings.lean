/-
**The settings of an engine at work.**

An engine is built with settings that pass their check, and no call changes them. So whatever has
become of an engine, its increment is positive and its gain is not negative.

* `Engine.Tuned` says that the settings pass;
* `Operates.tuned`: engines that operate stay tuned, and `Employs.tuned`: an engine at work is
  tuned.
-/

import RecedingHorizon.Proofs.Session.Keeping

set_option linter.unusedSectionVars false

namespace RecedingHorizon

open Tracking

universe u

variable {σ K ε : Type u} [Problem σ K ε] [Zero K] [LT K] [DecidableLT K] [LE K] [DecidableLE K]
  [ScalarFunctions K]

/-! ### Engines -/

namespace Tracking.Engine

/-- The settings of the engine pass their check. -/
def Tuned (engine : Engine σ K) : Prop :=
  engine.settings.validate = .ok ()

variable {engine next : Engine σ K}

theorem Tuned.of_settings (tuned : engine.Tuned) (same : next.settings = engine.settings) :
    next.Tuned := by
  unfold Tuned
  rw [same]
  exact tuned

theorem Tuned.increment_pos (tuned : engine.Tuned) : 0 < engine.settings.increment :=
  (Settings.validate_eq_ok_iff.mp tuned).1.2

/-- A new engine is tuned. -/
theorem tuned_of_build {id : Nat} {problem : σ} {settings : Settings K}
    (built : build (ε := ε) id problem settings = .ok engine) : engine.Tuned := by
  obtain ⟨valid, _, _, rfl⟩ := build_eq_ok_iff.mp built
  exact valid

variable [One K] [Add K] [Sub K] [Mul K] [Div K] [Neg K]

/-- The settings are in the frame of every operation. -/
theorem Operates.tuned {works spoiled : Engine σ K → Prop} (operates : Operates works spoiled) :
    Operates (fun engine => works engine ∧ engine.Tuned) spoiled where
  optimalityNorm engine working sample trajectories := by
    obtain ⟨outcome, ran, kept⟩ := operates.optimalityNorm engine working.1 sample trajectories
    exact ⟨outcome, ran, kept, working.2.of_settings (optimalityNorm_continues ran).settings⟩
  prepare engine working workspace sample trajectories prior out fits := by
    obtain ⟨outcome, ran, kept, made⟩ :=
      operates.prepare engine working.1 workspace sample trajectories prior out fits
    refine ⟨outcome, ran, ⟨kept, working.2.of_settings ?_⟩, made⟩
    rcases prepare_frame ran with ⟨_, _, same⟩ | ⟨_, _, _, _, continues⟩
    · rw [same]
    · exact continues.settings
  multiply engine working step decision direction out fits := by
    obtain ⟨outcome, ran, kept⟩ := operates.multiply engine working.1 step decision direction out
      fits
    exact ⟨outcome, ran, kept, working.2.of_settings (multiply_continues ran).settings⟩
  advance engine working step decision direction trajectories elapsed fits := by
    obtain ⟨outcome, ran, kept⟩ := operates.advance engine working.1 step decision direction
      trajectories elapsed fits
    exact ⟨outcome, ran, kept, working.2.of_settings (advance_continues ran).settings⟩
  reset engine working horizon :=
    (operates.reset engine working.1 horizon).imp_left fun kept =>
      ⟨kept, working.2.of_settings (afterReset_settings engine _ _)⟩
  moveOrigin engine working origin :=
    (operates.moveOrigin engine working.1 origin).imp_left fun kept =>
      ⟨kept, working.2.of_settings (afterReset_settings engine _ _)⟩

end Tracking.Engine

/-! ### Sessions -/

namespace Session

variable [One K] [Add K] [Sub K] [Mul K] [Div K] [Neg K] {states : σ → Prop}
  {session : Session σ K} {name : String} {engine : Engine σ K}

/-- **An engine at work is tuned.** -/
theorem Employs.tuned (lawful : Problem.Lawful states)
    (employs : session.Employs states name engine) : engine.Tuned := by
  obtain ⟨commands, answers, brings, ran, never⟩ := employs.reached
  have start : Session.empty.Keeps
      (fun engine : Engine σ K => engine.Intact states ∧ engine.Tuned) (fun _ => False)
      fun _ => default := keeps_empty
  obtain ⟨after, kept⟩ := start.run (Engine.operates_of_lawful lawful).tuned
    (fun _ _ _ _ held built => ⟨Engine.intact_of_build held built, Engine.tuned_of_build built⟩)
    brings ran
  exact ((kept.engines _ _ employs.found).2.2 fun gone => never (gone.resolve_left not_false)).2

end Session

end RecedingHorizon
