/-
**The prediction horizon.**

The controller looks ahead over a horizon that opens smoothly from nothing: at time `t` it has
length `T_f · (1 - exp (-α (t - t0)))`, with final length `T_f`, growth rate `α` and origin `t0`. At
the origin the optimal control problem is trivial, and its solution is followed while the horizon
opens. A growth rate of zero means a horizon of fixed length.

* `Settings.validate` accepts a finite positive final length, a finite growth rate that is not
  negative, and a finite origin, and names the first of the three that fails;
* `Horizon.length` is the length at a time, zero up to the origin of a growing horizon;
* `Horizon.reset` and `Horizon.moveOrigin` check the new settings before they take the place of the
  old ones.
-/

import RecedingHorizon.Scalar
import RecedingHorizon.Decimal.Notation

namespace RecedingHorizon

universe u

namespace Horizon

/-- The shape of a horizon over time. -/
structure Settings (K : Type u) where
  /-- The length that the horizon grows to. -/
  finalLength : K
  /-- The rate of growth; zero selects a horizon of fixed length. -/
  growthRate : K
  /-- The time at which the horizon starts to open. -/
  origin : K

/-- What is wrong with the settings of a horizon. -/
inductive Invalid (K : Type u) where
  | finalLength (value : K)
  | growthRate (value : K)
  | origin

/-- A horizon of final length one that opens at rate one from time zero. -/
instance : Inhabited (Settings Float) where
  default := { finalLength := 1, growthRate := 1, origin := 0 }

/-- The text of a rejection. -/
def Invalid.message : Invalid Float → String
  | .finalLength value => "final_length must be positive, got " ++ Decimal.plain value ++ "."
  | .growthRate value => "growth_rate must be non-negative, got " ++ Decimal.plain value ++ "."
  | .origin => "initial_time must be finite."

/-- Check the final length, then the growth rate, then the origin. A value that is not a number
satisfies no comparison, so it is rejected like one that is out of range. -/
def Settings.validate {K : Type u} [Zero K] [LT K] [DecidableLT K] [LE K] [DecidableLE K]
    [ScalarFunctions K] (settings : Settings K) : Except (Invalid K) Unit :=
  if ¬(ScalarFunctions.isFinite settings.finalLength = true ∧ 0 < settings.finalLength) then
    .error (.finalLength settings.finalLength)
  else if ¬(ScalarFunctions.isFinite settings.growthRate = true ∧ 0 ≤ settings.growthRate) then
    .error (.growthRate settings.growthRate)
  else if ¬(ScalarFunctions.isFinite settings.origin = true) then
    .error .origin
  else
    .ok ()

theorem Settings.validate_eq_ok_iff {K : Type u} [Zero K] [LT K] [DecidableLT K] [LE K]
    [DecidableLE K] [ScalarFunctions K] {settings : Settings K} :
    settings.validate = .ok () ↔
      (ScalarFunctions.isFinite settings.finalLength = true ∧ 0 < settings.finalLength) ∧
      (ScalarFunctions.isFinite settings.growthRate = true ∧ 0 ≤ settings.growthRate) ∧
      ScalarFunctions.isFinite settings.origin = true := by
  unfold validate
  repeat' split
  all_goals simp_all

end Horizon

/-- A horizon with the settings it was last given. -/
structure Horizon (K : Type u) where
  settings : Horizon.Settings K

namespace Horizon

variable {K : Type u} [Zero K] [LE K] [DecidableLE K] [ScalarFunctions K]

section Acceptance

variable [LT K] [DecidableLT K]

/-- A horizon with checked settings. -/
def ofSettings (settings : Settings K) : Except (Invalid K) (Horizon K) :=
  match settings.validate with
  | .ok () => .ok { settings }
  | .error cause => .error cause

/-- Replace all settings, or reject the new ones. -/
def reset (_horizon : Horizon K) (settings : Settings K) : Except (Invalid K) (Horizon K) :=
  ofSettings settings

/-- Move the origin and keep the shape, or reject the new origin. -/
def moveOrigin (horizon : Horizon K) (origin : K) : Except (Invalid K) (Horizon K) :=
  horizon.reset { horizon.settings with origin }

end Acceptance

/-- The length at a time. -/
def length [One K] [Sub K] [Mul K] [Neg K] [BEq K] (horizon : Horizon K) (time : K) : K :=
  let settings := horizon.settings
  if settings.growthRate == 0 then
    settings.finalLength
  else
    let elapsed := time - settings.origin
    if elapsed ≤ 0 then
      0
    else
      settings.finalLength * (1 - ScalarFunctions.exp (-settings.growthRate * elapsed))

end Horizon

end RecedingHorizon
