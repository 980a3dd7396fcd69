/-
**Horizons over calls and over time.**

A horizon is built with settings and then told to reset or to move its origin, any number of times
and with any arguments. What it is set to is determined by what it was told: the settings of the
last reset that was accepted, with the origin of the last move accepted since. These settings have
passed their check, so that the length of the horizon is a curve that rises from zero towards the
final length, or stays there.

* `Horizon.Call` is a call, `Horizon.Past` what a horizon has been told, and `Past.prescribed` the
  settings that this determines;
* `Horizon.Told`: the horizon has this past. `Told.settings` and `Told.valid` are what every horizon
  keeps;
* `Horizon.Opens` is the shape of the length curve, and `opens_of_valid` shows it where the
  exponential obeys `ScalarFunctions.Exponential`.
-/

import Mathlib.Algebra.Order.Field.Basic
import Mathlib.Tactic.Linarith
import RecedingHorizon.Horizon

set_option linter.unusedSectionVars false

namespace RecedingHorizon

universe u

namespace Horizon

variable {K : Type u}

/-! ### Calls -/

/-- A call that changes a horizon, if it is accepted. -/
inductive Call (K : Type u) where
  | reset (settings : Settings K)
  | moveOrigin (origin : K)

/-- The settings that a call asks for, of a horizon with the given ones. -/
def Call.asked (settings : Settings K) : Call K → Settings K
  | .reset new => new
  | .moveOrigin origin => { settings with origin }

section Calls

variable [Zero K] [LT K] [DecidableLT K] [LE K] [DecidableLE K] [ScalarFunctions K]

/-- The answer of a horizon to a call. -/
def Call.onHorizon (horizon : Horizon K) : Call K → Except (Invalid K) (Horizon K)
  | .reset settings => horizon.reset settings
  | .moveOrigin origin => horizon.moveOrigin origin

theorem ofSettings_eq_ok_iff {settings : Settings K} {horizon : Horizon K} :
    ofSettings settings = .ok horizon ↔ settings.validate = .ok () ∧ horizon = { settings } := by
  unfold ofSettings
  cases settings.validate with
  | error cause => simp
  | ok _ => simp [eq_comm]

/-- A call is accepted if the settings that it asks for pass their check. -/
theorem Call.onHorizon_eq_ok_iff {call : Call K} {horizon next : Horizon K} :
    call.onHorizon horizon = .ok next ↔
      (call.asked horizon.settings).validate = .ok () ∧
        next.settings = call.asked horizon.settings := by
  have answer : call.onHorizon horizon = ofSettings (call.asked horizon.settings) := by
    cases call <;> rfl
  rw [answer, ofSettings_eq_ok_iff]
  constructor
  · rintro ⟨valid, rfl⟩
    exact ⟨valid, rfl⟩
  · rintro ⟨valid, same⟩
    refine ⟨valid, ?_⟩
    rw [← same]

end Calls

/-! ### The past of a horizon -/

/-- What a horizon has been told: the settings that it was built with, and the calls since, the
newest first, each with whether it was accepted. -/
structure Past (K : Type u) where
  built : Settings K
  calls : List (Call K × Bool)

namespace Past

/-- The settings of a reset that was accepted. -/
def newSettings : Call K × Bool → Option (Settings K)
  | (.reset settings, true) => some settings
  | _ => none

/-- The origin of a move that was accepted. -/
def newOrigin : Call K × Bool → Option K
  | (.moveOrigin origin, true) => some origin
  | _ => none

/-- The settings of the last accepted reset, or those that the horizon was built with. -/
def lastSettings (past : Past K) : Settings K :=
  (past.calls.findSome? newSettings).getD past.built

/-- The origin of the last accepted move after the last accepted reset, if there is one. -/
def lastOrigin (past : Past K) : Option K :=
  (past.calls.takeWhile fun call => (newSettings call).isNone).findSome? newOrigin

/-- The settings that the calls lead to: those of the last accepted reset, with the origin of the
last move accepted since. -/
def prescribed (past : Past K) : Settings K :=
  { past.lastSettings with origin := past.lastOrigin.getD past.lastSettings.origin }

/-- The past with further calls. -/
def followedBy (past : Past K) (calls : List (Call K × Bool)) : Past K :=
  { past with calls := calls ++ past.calls }

/-- The past with one more call. -/
def record (past : Past K) (call : Call K) (accepted : Bool) : Past K :=
  past.followedBy [(call, accepted)]

/-- A call that is accepted changes the settings as it asks. -/
theorem prescribed_record_true (past : Past K) (call : Call K) :
    (past.record call true).prescribed = call.asked past.prescribed := by
  cases call <;> rfl

/-- A call that is rejected does not change them. -/
theorem prescribed_record_false (past : Past K) (call : Call K) :
    (past.record call false).prescribed = past.prescribed := by
  cases call <;> rfl

end Past

/-- An accepted reset undoes the move before it, and the rejected call after it does not count. -/
example : (Past.prescribed (K := Nat)
      { built := ⟨1, 2, 3⟩
        calls := [(.moveOrigin 9, false), (.moveOrigin 8, true), (.reset ⟨4, 5, 6⟩, true),
          (.moveOrigin 7, true)] }) = ⟨4, 5, 8⟩ :=
  rfl

section Told

variable [Zero K] [LT K] [DecidableLT K] [LE K] [DecidableLE K] [ScalarFunctions K]

/-- The horizon has come about by this past. A call that is rejected gives no other horizon. -/
inductive Told : Horizon K → Past K → Prop
  | built {settings : Settings K} {horizon : Horizon K} :
      ofSettings settings = .ok horizon → Told horizon { built := settings, calls := [] }
  | accepted {horizon next : Horizon K} {past : Past K} {call : Call K} :
      Told horizon past → call.onHorizon horizon = .ok next → Told next (past.record call true)
  | rejected {horizon : Horizon K} {past : Past K} {call : Call K} {cause : Invalid K} :
      Told horizon past → call.onHorizon horizon = .error cause →
      Told horizon (past.record call false)

variable {horizon : Horizon K} {past : Past K}

/-- **A horizon is set to what its past prescribes.** -/
theorem Told.settings (told : horizon.Told past) : horizon.settings = past.prescribed := by
  induction told with
  | built made =>
    obtain ⟨_, rfl⟩ := ofSettings_eq_ok_iff.mp made
    rfl
  | accepted _ answered hypothesis =>
    rw [(Call.onHorizon_eq_ok_iff.mp answered).2, hypothesis, Past.prescribed_record_true]
  | rejected _ _ hypothesis => rw [hypothesis, Past.prescribed_record_false]

/-- **The settings of a horizon pass their check**, whatever it has been told. -/
theorem Told.valid (told : horizon.Told past) : horizon.settings.validate = .ok () := by
  induction told with
  | built made =>
    obtain ⟨valid, rfl⟩ := ofSettings_eq_ok_iff.mp made
    exact valid
  | accepted _ answered _ =>
    obtain ⟨valid, same⟩ := Call.onHorizon_eq_ok_iff.mp answered
    rw [same]
    exact valid
  | rejected _ _ hypothesis => exact hypothesis

end Told

end Horizon

/-! ### The length over time -/

/-- The exponential is positive and monotone up to zero, and one at zero. -/
structure ScalarFunctions.Exponential (K : Type u) [Zero K] [One K] [LE K] [LT K]
    [ScalarFunctions K] : Prop where
  pos : ∀ x : K, x ≤ 0 → 0 < ScalarFunctions.exp x
  mono : ∀ x y : K, x ≤ y → y ≤ 0 → ScalarFunctions.exp x ≤ ScalarFunctions.exp y
  zero : ScalarFunctions.exp (0 : K) = 1

namespace Horizon

variable {K : Type u} [Field K] [LinearOrder K] [ScalarFunctions K]

/-- **How a horizon opens.** Its length never falls, from zero up to the final length. A growing
horizon is closed up to its origin, and one that does not grow has its final length throughout. -/
structure Opens (horizon : Horizon K) : Prop where
  nonneg : ∀ time, 0 ≤ horizon.length time
  mono : ∀ time later, time ≤ later → horizon.length time ≤ horizon.length later
  le_finalLength : ∀ time, horizon.length time ≤ horizon.settings.finalLength
  closed : 0 < horizon.settings.growthRate → ∀ time, time ≤ horizon.settings.origin →
    horizon.length time = 0
  fixed : horizon.settings.growthRate = 0 → ∀ time,
    horizon.length time = horizon.settings.finalLength

variable {horizon : Horizon K} {time later : K}

/-! #### The branches of the length -/

theorem length_of_fixed (fixed : horizon.settings.growthRate = 0) (time : K) :
    horizon.length time = horizon.settings.finalLength := by
  simp [length, fixed]

variable [IsStrictOrderedRing K]

theorem length_of_le (growing : 0 < horizon.settings.growthRate)
    (before : time ≤ horizon.settings.origin) : horizon.length time = 0 := by
  simp [length, growing.ne', sub_nonpos.mpr before]

theorem length_of_lt (growing : 0 < horizon.settings.growthRate)
    (after : horizon.settings.origin < time) :
    horizon.length time = horizon.settings.finalLength *
      (1 - ScalarFunctions.exp
        (-horizon.settings.growthRate * (time - horizon.settings.origin))) := by
  simp [length, growing.ne', not_le.mpr (sub_pos.mpr after)]

/-! #### The shape of the curve -/

/-- The exponent of a growing horizon falls with time, from zero at the origin. -/
theorem exponent_le (growing : 0 < horizon.settings.growthRate) (ordered : time ≤ later) :
    -horizon.settings.growthRate * (later - horizon.settings.origin) ≤
      -horizon.settings.growthRate * (time - horizon.settings.origin) :=
  mul_le_mul_of_nonpos_left (sub_le_sub_right ordered _) (neg_nonpos.mpr growing.le)

theorem exponent_nonpos (growing : 0 < horizon.settings.growthRate)
    (after : horizon.settings.origin ≤ time) :
    -horizon.settings.growthRate * (time - horizon.settings.origin) ≤ 0 :=
  mul_nonpos_of_nonpos_of_nonneg (neg_nonpos.mpr growing.le) (sub_nonneg.mpr after)

variable (exponential : ScalarFunctions.Exponential K) (long : 0 < horizon.settings.finalLength)
include exponential long

/-- Where a growing horizon has opened, it has a length between zero and its final length. -/
theorem length_mem_of_lt (growing : 0 < horizon.settings.growthRate)
    (after : horizon.settings.origin < time) :
    0 ≤ horizon.length time ∧ horizon.length time ≤ horizon.settings.finalLength := by
  have below := exponent_nonpos growing after.le
  have pos := exponential.pos _ below
  have atMost : ScalarFunctions.exp
      (-horizon.settings.growthRate * (time - horizon.settings.origin)) ≤ 1 :=
    (exponential.mono _ _ below le_rfl).trans_eq exponential.zero
  rw [length_of_lt growing after]
  constructor
  · exact mul_nonneg long.le (sub_nonneg.mpr atMost)
  · exact mul_le_of_le_one_right long.le (sub_le_self 1 pos.le)

/-- Where a growing horizon has opened, its length does not fall. -/
theorem length_le_of_lt (growing : 0 < horizon.settings.growthRate)
    (after : horizon.settings.origin < time) (ordered : time ≤ later) :
    horizon.length time ≤ horizon.length later := by
  have falls := exponential.mono _ _ (exponent_le growing ordered)
    (exponent_nonpos growing after.le)
  rw [length_of_lt growing after, length_of_lt growing (after.trans_le ordered)]
  exact mul_le_mul_of_nonneg_left (sub_le_sub_left falls 1) long.le

omit long

/-- **A horizon whose settings pass their check opens.** -/
theorem opens_of_valid (valid : horizon.settings.validate = .ok ()) : horizon.Opens := by
  obtain ⟨⟨_, long⟩, ⟨_, rate⟩, _⟩ := Settings.validate_eq_ok_iff.mp valid
  rcases rate.eq_or_lt with still | growing
  · have fixed := length_of_fixed still.symm
    refine ⟨fun time => ?_, fun time later _ => ?_, fun time => ?_, fun growing => ?_,
      fun _ => fixed⟩
    · rw [fixed]
      exact long.le
    · rw [fixed, fixed]
    · rw [fixed]
    · exact absurd still growing.ne
  · -- a time lies before the origin, or the horizon has opened by then
    have bounds : ∀ time, 0 ≤ horizon.length time ∧
        horizon.length time ≤ horizon.settings.finalLength := by
      intro time
      rcases le_or_gt time horizon.settings.origin with before | after
      · rw [length_of_le growing before]
        exact ⟨le_rfl, long.le⟩
      · exact length_mem_of_lt exponential long growing after
    refine ⟨fun time => (bounds time).1, fun time later ordered => ?_,
      fun time => (bounds time).2, fun _ _ => length_of_le growing,
      fun still => absurd still growing.ne'⟩
    rcases le_or_gt time horizon.settings.origin with before | after
    · rw [length_of_le growing before]
      exact (bounds later).1
    · exact length_le_of_lt exponential long growing after ordered

end Horizon

end RecedingHorizon
