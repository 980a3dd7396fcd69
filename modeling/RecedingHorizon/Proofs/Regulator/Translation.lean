/-
**Regulators are translated in time.**

A regulator knows of time only through the length of its horizon, and that depends on the time since
the origin alone. With a later origin, later samples are answered as the earlier ones were, and so
are resets to later origins.

* `Horizon.length_delay` and `stageSpan_delay`: the length at a later time, from a later origin on;
* `Horizon.reset_delay` and `Horizon.moveOrigin_delay`: settings are accepted and refused alike;
* `Regulator.translates`: the regulator with a later origin, in the place of the regulator.
-/

import Mathlib.Algebra.Order.Field.Basic
import RecedingHorizon.Regulator.Evaluation
import RecedingHorizon.Proofs.Tracking.Translation

set_option linter.unusedSectionVars false

namespace RecedingHorizon

universe u

variable {K : Type u}

/-! ### Horizons -/

namespace Horizon

/-- The same horizon, from a later origin on. -/
def delay [Add K] (shift : K) (horizon : Horizon K) : Horizon K where
  settings := horizon.settings.delay shift

variable [Field K] [LinearOrder K] [ScalarFunctions K] (shift : K)

/-- **The length depends on the time since the origin alone.** -/
theorem length_delay (horizon : Horizon K) (time : K) :
    (horizon.delay shift).length (time + shift) = horizon.length time := by
  unfold length
  simp only [delay, Settings.delay, add_sub_add_right_eq_sub]

variable {shift}
  (finite : ∀ time : K, ScalarFunctions.isFinite (time + shift) = ScalarFunctions.isFinite time)
include finite

theorem validate_delay (settings : Settings K) :
    (settings.delay shift).validate = settings.validate := by
  unfold Settings.validate
  simp only [Settings.delay, finite]

theorem ofSettings_delay (settings : Settings K) :
    ofSettings (settings.delay shift) = (ofSettings settings).map (delay shift) := by
  unfold ofSettings
  rw [validate_delay finite]
  cases settings.validate with
  | error cause => rfl
  | ok _ => rfl

/-- Settings are accepted and refused alike. -/
theorem reset_delay (horizon : Horizon K) (settings : Settings K) :
    (horizon.delay shift).reset (settings.delay shift) =
      (horizon.reset settings).map (delay shift) :=
  ofSettings_delay finite settings

/-- Origins are accepted and refused alike. -/
theorem moveOrigin_delay (horizon : Horizon K) (origin : K) :
    (horizon.delay shift).moveOrigin (origin + shift) =
      (horizon.moveOrigin origin).map (delay shift) :=
  ofSettings_delay finite { horizon.settings with origin }

end Horizon

/-! ### Regulators -/

namespace Regulator

/-- The same regulator, with a later origin of its horizon. -/
def delay [Add K] (shift : K) (model : Regulator K) : Regulator K :=
  { model with horizon := model.horizon.delay shift }

variable [Field K] [LinearOrder K] [ScalarFunctions K] (shift : K)

theorem stageSpan_delay (model : Regulator K) (time : K) :
    (model.delay shift).stageSpan (time + shift) = model.stageSpan time :=
  congrArg (· / (model.stages : K)) (model.horizon.length_delay shift time)

theorem predict_delay (model : Regulator K) (sample : Sample K) (elapsed : K) (out : Vec K) :
    Corresponds (fun first second => second = (first.1.delay shift, first.2))
      (model.predict sample elapsed out)
      ((model.delay shift).predict (sample.delay shift) elapsed out) := by
  refine (corresponds_refl _).bind ?_
  rintro start _ rfl
  refine (corresponds_refl _).bind ?_
  rintro scratch _ rfl
  refine (corresponds_refl _).bind ?_
  rintro reached _ rfl
  exact .ok rfl

theorem stationarity_delay (model : Regulator K) (sample : Sample K)
    (trajectories : Trajectories K) (out : Vec K) :
    Corresponds (fun first second => second = (first.1.delay shift, first.2))
      (model.stationarity sample trajectories out)
      ((model.delay shift).stationarity (sample.delay shift) trajectories out) := by
  refine (corresponds_refl _).bind ?_
  rintro ⟨scratch, residual⟩ _ rfl
  exact .ok rfl

theorem defects_delay (model : Regulator K) (sample : Sample K)
    (trajectories out : Trajectories K) :
    Corresponds (fun first second => second = (first.1.delay shift, first.2))
      (model.defects sample trajectories out)
      ((model.delay shift).defects (sample.delay shift) trajectories out) := by
  have span := stageSpan_delay shift model sample.time
  unfold defects
  rw [show (sample.delay shift).time = sample.time + shift from rfl, span]
  refine (corresponds_refl _).bind ?_
  rintro start _ rfl
  refine (corresponds_refl _).bind ?_
  rintro ⟨scratch, state⟩ _ rfl
  refine (corresponds_refl _).bind ?_
  rintro terminal _ rfl
  refine (corresponds_refl _).bind ?_
  rintro ⟨scratch, costate⟩ _ rfl
  exact .ok rfl

theorem rebuild_delay (model : Regulator K) (sample : Sample K) (targets out : Trajectories K) :
    Corresponds (fun first second => second = (first.1.delay shift, first.2))
      (model.rebuild sample targets out)
      ((model.delay shift).rebuild (sample.delay shift) targets out) := by
  have span := stageSpan_delay shift model sample.time
  unfold rebuild
  rw [show (sample.delay shift).time = sample.time + shift from rfl, span]
  refine (corresponds_refl _).bind ?_
  rintro start _ rfl
  refine (corresponds_refl _).bind ?_
  rintro ⟨scratch, state⟩ _ rfl
  refine (corresponds_refl _).bind ?_
  rintro terminal _ rfl
  refine (corresponds_refl _).bind ?_
  rintro ⟨scratch, costate⟩ _ rfl
  exact .ok rfl

/-- **A regulator is translated by a later origin.** -/
theorem translates {shift : K}
    (finite : ∀ time : K, ScalarFunctions.isFinite (time + shift) = ScalarFunctions.isFinite time) :
    Problem.Translates (σ := Regulator K) shift (delay shift) where
  dimensions _ := rfl
  predict := predict_delay shift
  stationarity := stationarity_delay shift
  defects := defects_delay shift
  rebuild := rebuild_delay shift
  reset model horizon := by
    show (model.delay shift).reset _ =
      ((model.reset horizon).1.delay shift, (model.reset horizon).2)
    unfold reset
    rw [show (model.delay shift).horizon = model.horizon.delay shift from rfl,
      Horizon.reset_delay finite]
    cases model.horizon.reset horizon with
    | error cause => rfl
    | ok reached => rfl
  moveOrigin model origin := by
    show (model.delay shift).moveOrigin _ =
      ((model.moveOrigin origin).1.delay shift, (model.moveOrigin origin).2)
    unfold moveOrigin
    rw [show (model.delay shift).horizon = model.horizon.delay shift from rfl,
      Horizon.moveOrigin_delay finite]
    cases model.horizon.moveOrigin origin with
    | error cause => rfl
    | ok reached => rfl

end Regulator

end RecedingHorizon
