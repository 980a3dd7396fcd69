/-
**The optimality norm is zero at optimality only.**

An engine at work is asked for the optimality norm at any point that it accepts. The reply is the
root of a sum, and the sum says how far the point is from first-order optimality.

* `Measures`: the engine computes a sum at a point, and replies with its root;
* `optimality_measured`: the sum gauges the point, over every problem that rebuilds exactly, and
  over every regulator. The trajectories without defects are those that the regulator shoots.
-/

import RecedingHorizon.Proofs.Tracking.Optimality
import RecedingHorizon.Proofs.Session.Stabilisation

set_option linter.unusedSectionVars false

namespace RecedingHorizon.Session

open Tracking Regulator

universe u

/-! ### What an engine replies -/

section Measures

variable {σ K ε : Type u} [Problem σ K ε] [Field K] [LinearOrder K] [ScalarFunctions K]

/-- **A sum is measured**: the engine computes it at the point, and a session that is asked for the
optimality norm replies with its root. -/
structure Measures (session : Session σ K) (name : String) (engine : Engine σ K)
    (sample : Sample K) (trajectories : Trajectories K) (squared : K) : Prop where
  computes : ∃ next, engine.squaredResidual sample trajectories = .ok (next, squared)
  replies : ∃ answer : Answer σ K ε,
    session.step (.measure name sample trajectories) = .ok answer ∧
      answer.reply = .measured (.ok (ScalarFunctions.sqrt squared))

variable {values : σ → Evaluations K} {states : σ → Prop}
  (functional : Problem.Functional values states) {session : Session σ K} {name : String}
  {engine : Engine σ K} (employs : session.Employs (ε := ε) states name engine)
  {sample : Sample K} {trajectories : Trajectories K}
  (admitted : engine.admitPoint (ε := ε) sample trajectories = .ok ())
include functional employs admitted

/-- What is measured is the sum of the squares of the residuals. -/
theorem measures_squaredOf : session.Measures (ε := ε) name engine sample trajectories
    ((values engine.problem).squaredOf sample trajectories) := by
  have total := functional.evaluates (employs.intact functional.lawful).problem
  have ready := employs.ready functional
  obtain ⟨sampleFits, fits⟩ := Engine.admitPoint_eq_ok_iff.mp admitted
  obtain ⟨next, _, computed⟩ := Engine.squaredResidual_value total ready sampleFits fits
  refine ⟨⟨next, computed⟩, ?_⟩
  obtain ⟨last, _, ran⟩ := Engine.optimalityNorm_value total ready admitted
  simp only [step, employs.found]
  rw [ran]
  exact ⟨_, rfl, rfl⟩

end Measures

/-! ### What the reply says -/

/-- **The optimality norm says whether a point is optimal.** Take any engine at work, over a problem
whose rebuilding inverts its defects at every sample, and any point that the engine accepts. The
norm that is replied is the root of a sum. The sum adds up the squares of all entries of the three
residuals; it is not negative; it is the squared norm of the stationarity residual if the
trajectories are those rebuilt from zero; and it is zero if and only if they are, and the
stationarity residual is zero. Over a regulator, rebuilding always inverts the defects, and the
trajectories rebuilt from zero are those that it shoots. -/
theorem optimality_measured {K : Type u} [Field K] [LinearOrder K] [IsStrictOrderedRing K]
    [ScalarFunctions K] {sample : Sample K} {trajectories : Trajectories K} :
    (∀ {σ ε : Type u} [Problem σ K ε] {values : σ → Evaluations K} {states : σ → Prop}
        {session : Session σ K} {name : String} {engine : Engine σ K},
      Problem.Functional values states → session.Employs (ε := ε) states name engine →
      (values engine.problem).Prescribes → (values engine.problem).Restores →
      engine.admitPoint (ε := ε) sample trajectories = .ok () →
      ∃ squared, session.Measures (ε := ε) name engine sample trajectories squared ∧
        (values engine.problem).Gauges sample trajectories
          ((values engine.problem).rebuild sample (Trajectories.zeros engine.dimensions))
          squared) ∧
    ∀ {session : Session (Regulator K) K} {name : String} {engine : Engine (Regulator K) K},
      session.Employs (ε := Horizon.Invalid K) Regulator.Sound name engine →
      engine.admitPoint (ε := Horizon.Invalid K) sample trajectories = .ok () →
      ∃ (next : Regulator K) (consistent : Trajectories K) (squared : K),
        engine.problem.shoot sample = .ok (next, consistent) ∧
        session.Measures (ε := Horizon.Invalid K) name engine sample trajectories squared ∧
        engine.problem.evaluations.Gauges sample trajectories consistent squared := by
  constructor
  · intro σ ε _ values states session name engine functional employs prescribes restores admitted
    have total := functional.evaluates (employs.intact functional.lawful).problem
    have dimensions := (employs.ready functional).dimensions
    obtain ⟨sampleFits, fits⟩ := Engine.admitPoint_eq_ok_iff.mp admitted
    rw [dimensions] at sampleFits fits ⊢
    exact ⟨_, measures_squaredOf functional employs admitted,
      total.gauges sampleFits fits prescribes restores⟩
  · intro session name engine employs admitted
    have sound : engine.problem.Sound := (employs.intact functional.lawful).problem
    have dimensions := (employs.ready functional).dimensions
    obtain ⟨sampleFits, fits⟩ := Engine.admitPoint_eq_ok_iff.mp admitted
    rw [dimensions] at sampleFits fits
    obtain ⟨next, shoots, _⟩ := shoot_value sound sampleFits
    exact ⟨next, _, _, shoots, measures_squaredOf functional employs admitted,
      (evaluates sound).gauges sampleFits fits (prescribes_of_sound sound)
        (restores_of_sound sound)⟩

/-! ### The norm of the cart -/

section Cart

/-- The cart is measured at its sample, over both kinds of problems. -/
theorem optimality_measured_cart :
    cart.evaluations.Prescribes ∧ cart.evaluations.Restores ∧
    ∃ (next : Regulator ℚ) (consistent : Trajectories ℚ) (squared general : ℚ),
      cart.shoot cartSample = .ok (next, consistent) ∧
      cartSession.Measures (ε := Horizon.Invalid ℚ) "first" cartEngine cartSample cartTrajectories
        squared ∧
      cart.evaluations.Gauges cartSample cartTrajectories consistent squared ∧
      cartSession.Measures (ε := Horizon.Invalid ℚ) "first" cartEngine cartSample cartTrajectories
        general := by
  have prescribes := prescribes_of_sound accepted_cart.sound
  have restores := restores_of_sound accepted_cart.sound
  have admitted : cartEngine.admitPoint (ε := Horizon.Invalid ℚ) cartSample cartTrajectories =
      .ok () :=
    Engine.admitPoint_eq_ok_iff.mpr ⟨fits_cartSample, fits_cartTrajectories⟩
  obtain ⟨next, consistent, squared, shoots, measures, gauges⟩ :=
    optimality_measured.2 employs_cartEngine admitted
  obtain ⟨general, measured, _⟩ :=
    optimality_measured.1 functional employs_cartEngine prescribes restores admitted
  exact ⟨prescribes, restores, next, consistent, squared, general, shoots, measures, gauges,
    measured⟩

end Cart

end RecedingHorizon.Session
