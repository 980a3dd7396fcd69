/-
**The horizon of a regulator.**

A regulator hands the calls on its horizon through, and is left as it was where its horizon rejects
one. Constraints and evaluations do not touch the horizon. So what a regulator has been told is what
its horizon has been told, and it is accepted whatever that is.

* `Horizon.Call.onProblem` is a call on a problem, and `onProblem_regulator` what a regulator
  answers;
* `Regulator.Told`: the horizon of the regulator has this past, as far as the calls on the regulator
  go. `Told.horizon` says that the horizon has it, `Told.accepted` that the regulator is accepted;
* `stageSpan_mul_stages`: the stages make up the horizon.
-/

import RecedingHorizon.Proofs.Horizon
import RecedingHorizon.Proofs.Tracking.Agreement

set_option linter.unusedSectionVars false

namespace RecedingHorizon

universe u

/-- The answer of a problem to a call on its horizon. -/
def Horizon.Call.onProblem {σ K ε : Type u} [Problem σ K ε] (problem : σ) :
    Horizon.Call K → σ × Except ε Unit
  | .reset settings => Problem.reset problem settings
  | .moveOrigin origin => Problem.moveOrigin problem origin

namespace Regulator

open Horizon

variable {K : Type u} {model other : Regulator K} {past : Past K} {call : Call K}

section Calls

variable [Zero K] [One K] [Add K] [Mul K] [Neg K] [Sub K] [Div K] [BEq K] [NatCast K]
  [LE K] [DecidableLE K] [LT K] [DecidableLT K] [ScalarFunctions K]

/-! ### One call -/

/-- A regulator answers as its horizon does. -/
theorem onProblem_regulator (model : Regulator K) (call : Call K) :
    call.onProblem model = model.withAnswer (call.onHorizon model.horizon) := by
  cases call with
  | reset settings => exact reset_eq_withAnswer model settings
  | moveOrigin origin => exact moveOrigin_eq_withAnswer model origin

/-- **A rejected call leaves the regulator as it was.** -/
theorem onProblem_of_error {cause : Horizon.Invalid K}
    (rejected : (call.onProblem model).2 = .error cause) : (call.onProblem model).1 = model := by
  rw [onProblem_regulator] at rejected ⊢
  cases answered : call.onHorizon model.horizon with
  | error _ => rfl
  | ok horizon =>
    rw [answered] at rejected
    cases rejected

/-! ### The past of a regulator -/

/-- The regulator has come about by this past of its horizon: it was built, and then constrained,
evaluated with any content left in its storage, and called. -/
inductive Told : Regulator K → Past K → Prop
  | built {matrices : Matrices K} {stages : Nat} {settings : Settings K} {model : Regulator K} :
      build matrices stages settings = .ok model → Told model { built := settings, calls := [] }
  | constrained {model constrained : Regulator K} {past : Past K} {constraint : Constraint K} :
      Told model past → model.constrain constraint = .ok constrained → Told constrained past
  | used {model : Regulator K} {past : Past K} {scratch : Scratch K} :
      Told model past → scratch.Fits model.state → Told { model with scratch } past
  | called {model : Regulator K} {past : Past K} (call : Call K) : Told model past →
      Told (call.onProblem model).1 (past.record call (call.onProblem model).2.isOk)

/-- What storage holds has no part in the past. -/
theorem Told.of_storing (told : model.Told past) (storing : model.Storing other) :
    other.Told past := by
  obtain ⟨scratch, fits, rfl⟩ := storing
  exact told.used fits

/-- A regulator with a past is accepted. -/
theorem Told.accepted (told : model.Told past) : Accepted model := by
  induction told with
  | built made => exact .built made
  | constrained _ given hypothesis => exact .constrained hypothesis given
  | used _ fits hypothesis => exact .used hypothesis fits
  | @called model _ call _ hypothesis =>
    rw [onProblem_regulator]
    cases call.onHorizon model.horizon with
    | error cause => exact hypothesis
    | ok horizon => exact .resized horizon hypothesis

/-- The regulator has come about by some past of its horizon. -/
def HasPast (model : Regulator K) : Prop :=
  ∃ past, model.Told past

theorem HasPast.sound (given : model.HasPast) : model.Sound := by
  obtain ⟨_, told⟩ := given
  exact told.accepted.sound

/-- **The horizon of a regulator has the past of the regulator.** -/
theorem Told.horizon (told : model.Told past) : model.horizon.Told past := by
  induction told with
  | built made =>
    obtain ⟨_, _, _, _, _, valid, rfl⟩ := build_eq_ok_iff.mp made
    exact .built (ofSettings_eq_ok_iff.mpr ⟨valid, rfl⟩)
  | constrained _ given hypothesis =>
    obtain ⟨_, _, rfl⟩ := constrain_eq_ok_iff.mp given
    exact hypothesis
  | used _ _ hypothesis => exact hypothesis
  | @called model _ call _ hypothesis =>
    rw [onProblem_regulator]
    cases answered : call.onHorizon model.horizon with
    | error cause => exact hypothesis.rejected answered
    | ok horizon => exact hypothesis.accepted answered

end Calls

/-! ### The stages of the horizon -/

/-- The spans of all stages make up the horizon. -/
theorem stageSpan_mul_stages [Field K] [LinearOrder K] [IsStrictOrderedRing K]
    [ScalarFunctions K] (sound : model.Sound) (time : K) :
    model.stageSpan time * model.stages = model.horizon.length time := by
  have some : (model.stages : K) ≠ 0 := Nat.cast_ne_zero.mpr sound.stages.ne'
  exact div_mul_cancel₀ _ some

end Regulator

end RecedingHorizon
