/-
**What a regulator divides by.**

A regulator divides the length of its horizon by the count of its stages, and does not divide
otherwise. An engine over it divides by its increment. These are the `Divisor`s: in an ordered field
none of them is zero.

* `Regulator.dividing` are the evaluations with a given division;
* `coincide_dividing`: they coincide for two divisions that agree on all divisors.
-/

import Mathlib.Algebra.Order.Field.Basic
import RecedingHorizon.Proofs.Tracking.Division
import RecedingHorizon.Proofs.Regulator.Shapes
import RecedingHorizon.Regulator.Start

set_option linter.unusedSectionVars false

namespace RecedingHorizon

universe u

variable {K : Type u}

/-! ### Divisors -/

/-- A positive value, or a count that is not zero. -/
def Divisor [Zero K] [LT K] [NatCast K] (y : K) : Prop :=
  0 < y ∨ ∃ count : Nat, 0 < count ∧ y = (count : K)

/-- In an ordered field, a divisor is not zero. -/
theorem Divisor.ne_zero [Field K] [LinearOrder K] [IsStrictOrderedRing K] {y : K}
    (divisor : Divisor y) : y ≠ 0 := by
  rcases divisor with positive | ⟨count, positive, rfl⟩
  · exact positive.ne'
  · exact Nat.cast_ne_zero.mpr positive.ne'

/-- Two divisions agree on all divisors. -/
def DivideAlike [Zero K] [LT K] [NatCast K] (division other : Div K) : Prop :=
  ∀ x y, Divisor y → division.div x y = other.div x y

/-! ### Evaluations with a division -/

namespace Regulator

variable [Zero K] [One K] [Add K] [Sub K] [Mul K] [Neg K] [BEq K] [NatCast K] [LT K] [DecidableLT K]
  [LE K] [DecidableLE K] [ScalarFunctions K]

/-- The evaluations of a regulator, with a division. -/
abbrev dividing (division : Div K) : Problem (Regulator K) K (Horizon.Invalid K) :=
  problem

/-- The trajectories that satisfy both equations, with a division. -/
def shootDividing (division : Div K) (model : Regulator K) (sample : Sample K) :
    Checked (Regulator K × Trajectories K) :=
  model.shoot sample

variable {division other : Div K} (alike : DivideAlike division other)
include alike

theorem stageSpan_alike {model : Regulator K} (stages : 0 < model.stages) (time : K) :
    (letI _ := division; model.stageSpan time) = (letI _ := other; model.stageSpan time) :=
  alike _ _ (Or.inr ⟨model.stages, stages, rfl⟩)

theorem defects_alike {model : Regulator K} (stages : 0 < model.stages) (sample : Sample K)
    (trajectories out : Trajectories K) :
    Coincide (letI _ := division; model.defects sample trajectories out)
      (letI _ := other; model.defects sample trajectories out)
      fun result => 0 < result.1.stages := by
  unfold defects
  rw [stageSpan_alike alike stages]
  refine (coincide_refl _).bind fun start _ => ?_
  refine (coincide_refl _).bind fun swept _ => ?_
  refine (coincide_refl _).bind fun terminal _ => ?_
  refine (coincide_refl _).bind fun result _ => ?_
  exact coincide_ok stages

theorem rebuild_alike {model : Regulator K} (stages : 0 < model.stages) (sample : Sample K)
    (targets out : Trajectories K) :
    Coincide (letI _ := division; model.rebuild sample targets out)
      (letI _ := other; model.rebuild sample targets out)
      fun result => 0 < result.1.stages := by
  unfold rebuild
  rw [stageSpan_alike alike stages]
  refine (coincide_refl _).bind fun start _ => ?_
  refine (coincide_refl _).bind fun swept _ => ?_
  refine (coincide_refl _).bind fun terminal _ => ?_
  refine (coincide_refl _).bind fun result _ => ?_
  exact coincide_ok stages

/-- Shooting comes out the same. -/
theorem shootDividing_alike {model : Regulator K} (stages : 0 < model.stages) (sample : Sample K) :
    model.shootDividing division sample = model.shootDividing other sample :=
  (rebuild_alike alike stages sample _ _).same

/-- **The evaluations coincide**, on the models with a stage. -/
theorem coincide_dividing :
    Problem.Coincide (dividing division) (dividing other) fun model => 0 < model.stages where
  dimensions := rfl
  predict model stages sample elapsed out := by
    show Coincide (model.predict sample elapsed out) (model.predict sample elapsed out) _
    unfold predict
    refine (coincide_refl _).bind fun start _ => ?_
    refine (coincide_refl _).bind fun scratch _ => ?_
    refine (coincide_refl _).bind fun out _ => ?_
    exact coincide_ok stages
  stationarity model stages sample trajectories out := by
    show Coincide (model.stationarity sample trajectories out)
      (model.stationarity sample trajectories out) _
    unfold stationarity
    refine (coincide_refl _).bind fun swept _ => ?_
    exact coincide_ok stages
  defects model stages := defects_alike alike stages
  rebuild model stages := rebuild_alike alike stages
  reset := rfl
  moveOrigin := rfl
  states_reset model stages horizon := by
    show 0 < (model.reset horizon).1.stages
    unfold reset
    cases model.horizon.reset horizon <;> exact stages
  states_moveOrigin model stages origin := by
    show 0 < (model.moveOrigin origin).1.stages
    unfold moveOrigin
    cases model.horizon.moveOrigin origin <;> exact stages

end Regulator

end RecedingHorizon
