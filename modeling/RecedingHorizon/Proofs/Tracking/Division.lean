/-
**What an engine divides by.**

An engine divides by the increment of its settings, and by nothing else. So its calls come out the
same with another division, and over another implementation of its problem, if the divisions agree
on that divisor and the implementations on that problem.

* `Problem.Coincide`: two implementations coincide on a class of problems, which their methods stay
  in;
* `Engine.Holds` says that the problem of the engine is in the class and its increment a divisor on
  which the divisions agree;
* `Engine.prepare_coincide` and its like: the calls of such an engine coincide and leave it so.
-/

import RecedingHorizon.Proofs.Tracking.Frame

set_option linter.unusedSectionVars false

namespace RecedingHorizon

universe u

variable {σ K ε : Type u}

/-! ### Two implementations -/

/-- **The implementations coincide** on the problems in `states`, and their methods stay there. -/
structure Problem.Coincide (first second : Problem σ K ε) (states : σ → Prop) : Prop where
  dimensions : first.dimensions = second.dimensions
  predict : ∀ problem, states problem → ∀ sample elapsed out,
    RecedingHorizon.Coincide (first.predict problem sample elapsed out)
      (second.predict problem sample elapsed out) fun result => states result.1
  stationarity : ∀ problem, states problem → ∀ sample trajectories out,
    RecedingHorizon.Coincide (first.stationarity problem sample trajectories out)
      (second.stationarity problem sample trajectories out) fun result => states result.1
  defects : ∀ problem, states problem → ∀ sample trajectories out,
    RecedingHorizon.Coincide (first.defects problem sample trajectories out)
      (second.defects problem sample trajectories out) fun result => states result.1
  rebuild : ∀ problem, states problem → ∀ sample targets out,
    RecedingHorizon.Coincide (first.rebuild problem sample targets out)
      (second.rebuild problem sample targets out) fun result => states result.1
  reset : first.reset = second.reset
  moveOrigin : first.moveOrigin = second.moveOrigin
  states_reset : ∀ problem, states problem → ∀ horizon, states (first.reset problem horizon).1
  states_moveOrigin : ∀ problem, states problem → ∀ origin,
    states (first.moveOrigin problem origin).1

namespace Tracking.Engine

/-- The problem of the engine is one of `states`, and its increment one of `divisors`. -/
structure Holds (states : σ → Prop) (divisors : K → Prop) (engine : Engine σ K) : Prop where
  problem : states engine.problem
  increment : divisors engine.settings.increment

variable {first second : Problem σ K ε} {states : σ → Prop}
  (problems : Problem.Coincide first second states) {divisors : K → Prop}
  {engine : Engine σ K} (holds : engine.Holds states divisors)
include problems holds

/-! ### Calls that do not divide -/

section Evaluations

variable [One K] [Add K] [Mul K] [Neg K]

theorem rebuildDecayed_coincide [Sub K] (buffers : Buffers K) (decision : Vec K) :
    Coincide (letI _ := first; engine.rebuildDecayed buffers decision)
      (letI _ := second; engine.rebuildDecayed buffers decision)
      fun result => result.1.Holds states divisors := by
  unfold rebuildDecayed
  refine (coincide_refl _).bind fun targets _ => ?_
  refine (problems.rebuild _ holds.problem _ _ _).bind fun result held => ?_
  exact coincide_ok ⟨held, holds.increment⟩

theorem respond_coincide (buffers : Buffers K) (decision direction out : Vec K) :
    Coincide (letI _ := first; engine.respond buffers decision direction out)
      (letI _ := second; engine.respond buffers decision direction out)
      fun result => result.1.Holds states divisors := by
  unfold respond
  refine (coincide_refl _).bind fun moved _ => ?_
  refine (problems.rebuild _ holds.problem _ _ _).bind fun rebuilt held => ?_
  refine (problems.stationarity _ held _ _ _).bind fun reached held => ?_
  refine (coincide_refl _).bind fun change _ => ?_
  exact coincide_ok ⟨held, holds.increment⟩

theorem evaluate_coincide (buffers : Buffers K) (sample : Sample K)
    (trajectories : Trajectories K) :
    Coincide (letI _ := first; engine.evaluate buffers sample trajectories)
      (letI _ := second; engine.evaluate buffers sample trajectories)
      fun result => result.1.Holds states divisors := by
  unfold evaluate
  refine (problems.predict _ holds.problem _ _ _).bind fun predicted held => ?_
  refine (problems.stationarity _ held _ _ _).bind fun residual held => ?_
  refine (problems.stationarity _ held _ _ _).bind fun shifted held => ?_
  refine (problems.defects _ held _ _ _).bind fun defects held => ?_
  exact coincide_ok ⟨held, holds.increment⟩

theorem squaredResidual_coincide [Zero K] (sample : Sample K) (trajectories : Trajectories K) :
    Coincide (letI _ := first; engine.squaredResidual sample trajectories)
      (letI _ := second; engine.squaredResidual sample trajectories)
      fun result => result.1.Holds states divisors := by
  unfold squaredResidual
  refine (problems.stationarity _ holds.problem _ _ _).bind fun residual held => ?_
  refine (problems.defects _ held _ _ _).bind fun defects held => ?_
  exact coincide_ok ⟨held, holds.increment⟩

theorem optimalityNorm_coincide [Zero K] [ScalarFunctions K] (sample : Sample K)
    (trajectories : Trajectories K) :
    Coincide (letI _ := first; engine.optimalityNorm (ε := ε) sample trajectories)
      (letI _ := second; engine.optimalityNorm (ε := ε) sample trajectories)
      fun outcome => outcome.engine.Holds states divisors := by
  unfold optimalityNorm
  cases engine.admitPoint (ε := ε) sample trajectories with
  | error cause => exact coincide_ok holds
  | ok _ =>
    exact (squaredResidual_coincide problems holds sample trajectories).bind
      fun result held => coincide_ok held

end Evaluations

/-! ### Calls that divide -/

section Divisions

variable [One K] [Add K] [Mul K] [Neg K] {division other : Div K}
  (divides : ∀ x y, divisors y → division.div x y = other.div x y)
include divides

omit [One K] [Add K] [Mul K] [Neg K] problems in
/-- The divisions agree on the increment. -/
theorem Holds.div_increment (x : K) :
    (letI _ := division; x / engine.settings.increment) =
      (letI _ := other; x / engine.settings.increment) :=
  divides x _ holds.increment

theorem drift_coincide [Sub K] (buffers : Buffers K) (decision out : Vec K) :
    Coincide (letI _ := first; letI _ := division; engine.drift buffers decision out)
      (letI _ := second; letI _ := other; engine.drift buffers decision out)
      fun result => result.1.Holds states divisors := by
  unfold drift
  refine (rebuildDecayed_coincide problems holds buffers decision).bind fun rebuilt kept => ?_
  refine (problems.stationarity _ kept.problem _ _ _).bind fun probe held => ?_
  refine (coincide_refl _).bind fun residual _ => ?_
  refine (coincide_refl _).bind fun difference _ => ?_
  rw [kept.div_increment divides]
  refine (coincide_refl _).bind fun drift _ => ?_
  exact coincide_ok ⟨held, kept.increment⟩

theorem prepareStep_coincide [Sub K] (buffers : Buffers K) (sample : Sample K)
    (trajectories : Trajectories K) (prior out : Vec K) :
    Coincide
      (letI _ := first; letI _ := division
        engine.prepareStep buffers sample trajectories prior out)
      (letI _ := second; letI _ := other
        engine.prepareStep buffers sample trajectories prior out)
      fun result => result.1.Holds states divisors := by
  unfold prepareStep
  refine (evaluate_coincide problems holds buffers sample trajectories).bind
    fun evaluated kept => ?_
  refine (drift_coincide problems kept divides _ _ _).bind fun drifted kept => ?_
  refine (problems.defects _ kept.problem _ _ _).bind fun shifted held => ?_
  have after : Holds states divisors { drifted.1 with problem := shifted.1 } :=
    ⟨held, kept.increment⟩
  refine (respond_coincide problems after _ _ _ _).bind fun ⟨next, probe⟩ kept => ?_
  simp only [kept.div_increment divides]
  refine (coincide_refl _).bind fun rightHandSide _ => ?_
  exact coincide_ok ⟨kept.problem, kept.increment⟩

theorem prepare_coincide [Sub K] (workspace : Workspace K) (sample : Sample K)
    (trajectories : Trajectories K) (prior out : Vec K) :
    Coincide
      (letI _ := first; letI _ := division
        engine.prepare (ε := ε) workspace sample trajectories prior out)
      (letI _ := second; letI _ := other
        engine.prepare (ε := ε) workspace sample trajectories prior out)
      fun outcome => outcome.engine.Holds states divisors := by
  unfold prepare
  cases engine.admitPreparation (ε := ε) workspace sample trajectories prior out with
  | error cause => exact coincide_ok holds
  | ok _ =>
    exact (prepareStep_coincide problems holds divides _ _ _ _ _).bind
      fun result kept => coincide_ok kept

theorem multiply_coincide (step : Prepared K) (decision direction out : Vec K) :
    Coincide
      (letI _ := first; letI _ := division; engine.multiply (ε := ε) step decision direction out)
      (letI _ := second; letI _ := other; engine.multiply (ε := ε) step decision direction out)
      fun outcome => outcome.engine.Holds states divisors := by
  unfold multiply
  cases engine.admitProduct (ε := ε) step decision direction out with
  | error cause => exact coincide_ok holds
  | ok _ =>
    refine (respond_coincide problems holds _ _ _ _).bind fun ⟨next, change⟩ kept => ?_
    simp only [kept.div_increment divides]
    exact coincide_ok kept

theorem advanceStep_coincide [Zero K] [Sub K] (buffers : Buffers K) (decision direction : Vec K)
    (trajectories : Trajectories K) (elapsed : K) :
    Coincide
      (letI _ := first; letI _ := division
        engine.advanceStep buffers decision direction trajectories elapsed)
      (letI _ := second; letI _ := other
        engine.advanceStep buffers decision direction trajectories elapsed)
      fun result => result.1.Holds states divisors := by
  unfold advanceStep
  refine (coincide_refl _).bind fun moved _ => ?_
  have after : Holds states divisors
      { engine with scratch := { engine.scratch with decision := moved } } :=
    ⟨holds.problem, holds.increment⟩
  refine (rebuildDecayed_coincide problems after _ _).bind fun rebuilt kept => ?_
  rw [holds.div_increment divides]
  refine (coincide_refl _).bind fun reached _ => ?_
  refine (coincide_refl _).bind fun followed _ => ?_
  exact coincide_ok kept

theorem advance_coincide [Zero K] [Sub K] (step : Prepared K) (decision direction : Vec K)
    (trajectories : Trajectories K) (elapsed : K) :
    Coincide
      (letI _ := first; letI _ := division
        engine.advance (ε := ε) step decision direction trajectories elapsed)
      (letI _ := second; letI _ := other
        engine.advance (ε := ε) step decision direction trajectories elapsed)
      fun outcome => outcome.engine.Holds states divisors := by
  unfold advance
  cases engine.admitAdvance (ε := ε) step decision direction trajectories with
  | error cause => exact coincide_ok holds
  | ok _ =>
    exact (advanceStep_coincide problems holds divides _ _ _ _ _).bind
      fun result kept => coincide_ok kept

end Divisions

/-! ### Resets and construction -/

section Resets

omit holds

theorem reportedDimensions_coincide (problem : σ) :
    (letI _ := first; reportedDimensions (ε := ε) problem) =
      (letI _ := second; reportedDimensions (ε := ε) problem) := by
  unfold reportedDimensions
  rw [problems.dimensions]

theorem afterReset_coincide (engine : Engine σ K) (event : Event K) (answer : σ × Except ε Unit) :
    (letI _ := first; engine.afterReset event answer) =
      (letI _ := second; engine.afterReset event answer) := by
  obtain ⟨problem, accepted⟩ := answer
  cases accepted with
  | error cause => rfl
  | ok _ =>
    unfold afterReset checkDimensions
    simp only [reportedDimensions_coincide problems]

theorem reset_coincide (engine : Engine σ K) (horizon : Horizon.Settings K) :
    (letI _ := first; engine.reset (ε := ε) horizon) =
      (letI _ := second; engine.reset (ε := ε) horizon) := by
  unfold reset
  rw [problems.reset]
  exact afterReset_coincide problems _ _ _

theorem moveOrigin_coincide (engine : Engine σ K) (origin : K) :
    (letI _ := first; engine.moveOrigin (ε := ε) origin) =
      (letI _ := second; engine.moveOrigin (ε := ε) origin) := by
  unfold moveOrigin
  rw [problems.moveOrigin]
  exact afterReset_coincide problems _ _ _

theorem build_coincide [Zero K] [LT K] [DecidableLT K] [LE K] [DecidableLE K] [ScalarFunctions K]
    (id : Nat) (problem : σ) (settings : Settings K) :
    (letI _ := first; build (ε := ε) id problem settings) =
      (letI _ := second; build (ε := ε) id problem settings) := by
  unfold build
  simp only [reportedDimensions_coincide problems]

omit problems

theorem Holds.afterReset [Problem σ K ε] (holds : engine.Holds states divisors) (event : Event K)
    {answer : σ × Except ε Unit} (held : states answer.1) :
    (engine.afterReset event answer).engine.Holds states divisors where
  problem := by
    rw [afterReset_problem]
    exact held
  increment := by
    rw [afterReset_settings]
    exact holds.increment

/-- A new engine divides by a positive increment. -/
theorem holds_of_build [Problem σ K ε] [Zero K] [LT K] [DecidableLT K] [LE K] [DecidableLE K]
    [ScalarFunctions K] (positive : ∀ y : K, 0 < y → divisors y) {id : Nat} {problem : σ}
    {settings : Settings K} (held : states problem)
    (built : build (ε := ε) id problem settings = .ok engine) : engine.Holds states divisors := by
  obtain ⟨valid, _, _, rfl⟩ := build_eq_ok_iff.mp built
  exact ⟨held, positive _ (Settings.validate_eq_ok_iff.mp valid).1.2⟩

end Resets

end Tracking.Engine

end RecedingHorizon
