/-
**Settings of the continuation.**

The continuation replaces every derivative by a forward difference of one increment `h`, and drives
the optimality residual to zero at one gain `ζ`.

* `Settings.validate` accepts a finite positive increment and a finite gain that is not negative,
  and names the first of the two that fails.
-/

import RecedingHorizon.Scalar
import RecedingHorizon.Decimal.Notation

namespace RecedingHorizon.Tracking

universe u

/-- The two parameters of the continuation. -/
structure Settings (K : Type u) where
  /-- The increment `h` of every forward difference. -/
  increment : K
  /-- The gain `ζ` at which the optimality residual decays. -/
  gain : K

/-- An increment of a millionth and a gain of a thousand. -/
instance : Inhabited (Settings Float) where
  default := { increment := 1e-6, gain := 1000 }

namespace Settings

/-- What is wrong with the settings of a continuation. -/
inductive Invalid (K : Type u) where
  | increment (value : K)
  | gain (value : K)

/-- The text of a rejection. -/
def Invalid.message : Invalid Float → String
  | .increment value =>
    "finite_difference_increment must be positive, got " ++ Decimal.plain value
  | .gain value =>
    "stabilization_gain must be non-negative, got " ++ Decimal.plain value

variable {K : Type u}

/-- Check the increment, then the gain. -/
def validate [Zero K] [LT K] [DecidableLT K] [LE K] [DecidableLE K] [ScalarFunctions K]
    (settings : Settings K) : Except (Invalid K) Unit :=
  if ¬(ScalarFunctions.isFinite settings.increment = true ∧ 0 < settings.increment) then
    .error (.increment settings.increment)
  else if ¬(ScalarFunctions.isFinite settings.gain = true ∧ 0 ≤ settings.gain) then
    .error (.gain settings.gain)
  else
    .ok ()

theorem validate_eq_ok_iff [Zero K] [LT K] [DecidableLT K] [LE K] [DecidableLE K]
    [ScalarFunctions K] {settings : Settings K} :
    settings.validate = .ok () ↔
      (ScalarFunctions.isFinite settings.increment = true ∧ 0 < settings.increment) ∧
      (ScalarFunctions.isFinite settings.gain = true ∧ 0 ≤ settings.gain) := by
  unfold validate
  repeat' split
  all_goals simp_all

/-- The factor `1 - h ζ` by which residuals decay over one increment. -/
def decay [One K] [Sub K] [Mul K] (settings : Settings K) : K :=
  1 - settings.increment * settings.gain

end Settings

end RecedingHorizon.Tracking
