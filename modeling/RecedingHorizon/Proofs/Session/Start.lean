/-
**The loop starts at an optimum.**

A regulator offers a decision to start from, for the time when its horizon has not opened yet. Along
the trajectories that it shoots from there, nothing is left to do, and an engine that is asked for
the optimality norm says so.

* `StartsAt`: a decision is the only optimal one, and every engine over the regulator replies with
  the norm zero;
* `starts_at_optimum`: so is the start, with any exact solver, and with the elimination.
-/

import RecedingHorizon.Proofs.Regulator.Start
import RecedingHorizon.Proofs.Session.Optimality

set_option linter.unusedSectionVars false

namespace RecedingHorizon.Session

open Tracking Regulator

universe u

/-! ### Where the loop starts -/

section Start

variable {K : Type u} [Field K] [LinearOrder K] [ScalarFunctions K]

/-- **The loop starts at a decision**: it is optimal, no other decision is, and along the
trajectories that are shot from it, every engine over the regulator measures the norm zero. -/
structure StartsAt (model : Regulator K) (time : K) (state decision : Vec K) : Prop where
  optimal : model.Optimal time state decision
  only : ∀ other : Vec K, model.Optimal time state other → other = decision
  measured : ∃ (next : Regulator K) (pair : Trajectories K),
    model.shoot { time, state, decision } = .ok (next, pair) ∧
    ∀ {session : Session (Regulator K) K} {name : String} {engine : Engine (Regulator K) K},
      session.Employs (ε := Horizon.Invalid K) Regulator.Sound name engine →
      model.Storing engine.problem →
      ∃ answer : Answer (Regulator K) K (Horizon.Invalid K),
        session.step (.measure name { time, state, decision } pair) = .ok answer ∧
          answer.reply = .measured (.ok 0)

variable {model : Regulator K} (sound : model.Sound) {time : K} {state decision : Vec K}
include sound

/-- Along the trajectories of an optimal decision, an engine measures the norm zero. -/
theorem measured_of_optimal (root : ScalarFunctions.sqrt (0 : K) = 0)
    (fits : Sample.Fits { time, state, decision } model.dimensions)
    (optimal : model.Optimal time state decision) {session : Session (Regulator K) K}
    {name : String} {engine : Engine (Regulator K) K}
    (employs : session.Employs (ε := Horizon.Invalid K) Regulator.Sound name engine)
    (own : model.Storing engine.problem) :
    ∃ answer : Answer (Regulator K) K (Horizon.Invalid K),
      session.step (.measure name { time, state, decision }
          (model.shot { time, state, decision })) = .ok answer ∧
        answer.reply = .measured (.ok 0) := by
  have same : engine.problem.evaluations = model.evaluations := evaluations_of_storing own
  have dimensions : engine.dimensions = model.dimensions :=
    (employs.ready functional).dimensions.trans (congrArg Evaluations.dimensions same)
  have shotFits := fits_shot sound fits
  have admitted : engine.admitPoint (ε := Horizon.Invalid K) { time, state, decision }
      (model.shot { time, state, decision }) = .ok () := by
    rw [Engine.admitPoint_eq_ok_iff, dimensions]
    exact ⟨fits, shotFits⟩
  obtain ⟨answer, stepped, replied⟩ := (measures_squaredOf functional employs admitted).replies
  have squared : model.evaluations.squaredOf { time, state, decision }
      (model.shot { time, state, decision }) = 0 := by
    have none := evaluations_defects_rebuild sound fits (Trajectories.fits_zeros model.dimensions)
    rw [(evaluates sound).squaredOf_of_defects fits shotFits none]
    exact (congrArg Vec.normSq ((optimal_iff sound fits).mp optimal)).trans (Vec.normSq_zeros _)
  rw [same, squared, root] at replied
  exact ⟨answer, stepped, replied⟩

/-- **The start is an optimum, and the only one.** Take any sound regulator whose stages have
variables, constrained or not, and any time at which its stages have length zero. If it offers a
decision to start from, in any state and with any exact solver, then all residuals vanish along the
trajectories shot from that decision, they do so for no other decision, and every engine over the
regulator replies with the norm zero. The elimination is an exact solver. -/
theorem starts_at_optimum (decides : 0 < model.width) (still : model.stageSpan time = 0)
    (root : ScalarFunctions.sqrt (0 : K) = 0) :
    (∀ {solve : Mat K → Vec K → Option (Vec K)}, Mat.ExactSolver solve →
      model.startWith solve state = .ok (.ok decision) → StartsAt model time state decision) ∧
    (model.startDecision state = .ok (.ok decision) → StartsAt model time state decision) := by
  have starts : ∀ {solve : Mat K → Vec K → Option (Vec K)}, Mat.ExactSolver solve →
      model.startWith solve state = .ok (.ok decision) →
      StartsAt model time state decision := by
    intro solve exact started
    have optimal := (optimal_iff_eq_of_startWith sound decides exact started still).mpr rfl
    obtain ⟨_, _, size, _⟩ := solution_of_startWith sound started
    have fits : Sample.Fits { time, state, decision } model.dimensions := ⟨size, optimal.size⟩
    obtain ⟨next, shoots, _⟩ := shoot_value sound fits
    exact {
      optimal := optimal
      only := fun _ => (optimal_iff_eq_of_startWith sound decides exact started still).mp
      measured := ⟨next, _, shoots, measured_of_optimal sound root fits optimal⟩ }
  refine ⟨starts, fun started => starts Mat.exactSolver_solve? ?_⟩
  rwa [startWith_elimination sound]

end Start

/-! ### The start of the cart -/

section Cart

/-- The cart starts at the origin of its horizon, and its engine measures the norm zero there. -/
theorem starts_at_optimum_cart :
    0 < cart.width ∧ cart.stageSpan 0 = 0 ∧ ScalarFunctions.sqrt (0 : ℚ) = 0 ∧
    Mat.ExactSolver (K := ℚ) Mat.solve? ∧
    cart.startWith Mat.solve? #[1, -1] = .ok (.ok #[1, 5 / 2, 1, 5 / 2]) ∧
    StartsAt cart 0 #[1, -1] #[1, 5 / 2, 1, 5 / 2] ∧
    ∃ (pair : Trajectories ℚ) (answer : Answer (Regulator ℚ) ℚ (Horizon.Invalid ℚ)),
      cartSession.step (.measure "first"
          { time := 0, state := #[1, -1], decision := #[1, 5 / 2, 1, 5 / 2] } pair) = .ok answer ∧
        answer.reply = .measured (.ok 0) := by
  have decides : 0 < cart.width := by decide
  have still : cart.stageSpan 0 = 0 := by decide +kernel
  have root : ScalarFunctions.sqrt (0 : ℚ) = 0 := by decide +kernel
  have exact : Mat.ExactSolver (K := ℚ) Mat.solve? := Mat.exactSolver_solve?
  have started : cart.startWith Mat.solve? #[1, -1] = .ok (.ok #[1, 5 / 2, 1, 5 / 2]) := by
    decide +kernel
  have starts := (starts_at_optimum accepted_cart.sound decides still root).1 exact started
  obtain ⟨_, pair, _, measured⟩ := starts.measured
  exact ⟨decides, still, root, exact, started, starts, pair,
    measured employs_cartEngine accepted_cart.sound.storing_self⟩

end Cart

end RecedingHorizon.Session
