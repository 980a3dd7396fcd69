/-
**What the problems of a session are handed.**

Put a watched problem under an engine, and its record says whether everything it was handed had the
shapes of the dimensions that it reported then.

* `handed_fitting`: for an engine at work the record stays clean, whatever the operands of the
  commands. But the engine keeps the dimensions it was built for, and goes on after a reset that has
  changed those of its problem: the next measurement that it accepts spoils the record;
* `handed_misfit` is such a run. The reset is refused for the new dimensions, and the measurement
  after it is answered all the same.
-/

import RecedingHorizon.CubicRing
import RecedingHorizon.Proofs.Tracking.Shapes
import RecedingHorizon.Proofs.Session.Soundness

set_option linter.unusedSectionVars false

namespace RecedingHorizon

open Tracking

universe u

/-! ### Dimensions with the same shapes -/

/-- The dimensions give states, decisions and trajectories the same shapes. -/
structure Dimensions.SameShapes (dimensions other : Dimensions) : Prop where
  trajectory : other.trajectory = dimensions.trajectory
  decisionSize : other.decisionSize = dimensions.decisionSize

variable {σ K ε : Type u}

/-- A point that fits two dimensions shows that these agree on the shapes. -/
theorem sameShapes_of_fits {dimensions other : Dimensions} {sample : Sample K}
    {trajectories : Trajectories K} (fitsSample : sample.Fits dimensions)
    (fits : trajectories.Fits dimensions) (otherSample : sample.Fits other)
    (otherFits : trajectories.Fits other) : dimensions.SameShapes other :=
  ⟨otherFits.state.symm.trans fits.state, otherSample.decision.symm.trans fitsSample.decision⟩

/-! ### Records -/

section Records

variable [Problem σ K ε]

/-- An evaluation adds to the record whether its arguments fitted. -/
theorem Watched.fitting_of_record {α : Type u} {watched next : Watched σ} {fits : Bool}
    {result : Checked (σ × α)} {value : α} (ran : watched.record fits result = .ok (next, value)) :
    next.fitting = (watched.fitting && fits) := by
  unfold record at ran
  cases result with
  | error fault => cases ran
  | ok reached =>
    cases ran
    rfl

variable [Zero K] [One K] [Add K] [Sub K] [Mul K] [Div K] [Neg K] [ScalarFunctions K]
  {engine : Engine (Watched σ) K}

/-- A measurement that the engine accepts goes on record as a misfit, if the problem reports other
shapes than the engine was built for. -/
theorem Tracking.Engine.misfit_of_optimalityNorm {sample : Sample K}
    {trajectories : Trajectories K} {outcome : Outcome (Watched σ) K ε Unit K}
    (differ : ¬engine.dimensions.SameShapes (Problem.dimensions engine.problem))
    (admitted : engine.admitPoint (ε := ε) sample trajectories = .ok ())
    (ran : engine.optimalityNorm sample trajectories = .ok outcome) :
    (∃ norm, outcome.result = .ok norm) ∧ outcome.engine.problem.fitting = false := by
  unfold Engine.optimalityNorm at ran
  rw [admitted] at ran
  obtain ⟨⟨measuring, squared⟩, summed, ran⟩ := bind_eq_ok_iff.mp ran
  cases ran
  refine ⟨⟨_, rfl⟩, ?_⟩
  unfold Engine.squaredResidual at summed
  obtain ⟨⟨first, optimality⟩, residual, summed⟩ := bind_eq_ok_iff.mp summed
  obtain ⟨⟨last, defects⟩, equations, summed⟩ := bind_eq_ok_iff.mp summed
  cases summed
  obtain ⟨fitsSample, fits⟩ := Engine.admitPoint_eq_ok_iff.mp admitted
  have misfit : ¬(sample.Fits (Problem.dimensions engine.problem) ∧
      trajectories.Fits (Problem.dimensions engine.problem) ∧
      engine.scratch.optimality.size = (Problem.dimensions engine.problem).decisionSize) :=
    fun given => differ (sameShapes_of_fits fitsSample fits given.1 given.2.1)
  have spoiled : first.fitting = false := by
    rw [Watched.fitting_of_record residual]
    exact (congrArg _ (decide_eq_false misfit)).trans (Bool.and_false _)
  exact (Watched.fitting_of_record equations).trans (by rw [spoiled, Bool.false_and])

end Records

namespace Session

/-! ### Sessions over watched problems -/

section Watching

variable [Problem σ K ε] [Zero K] [One K] [Add K] [Sub K] [Mul K] [Div K] [Neg K]
  [LT K] [DecidableLT K] [LE K] [DecidableLE K] [ScalarFunctions K]

/-- An engine whose problem reports other shapes than it was built for still accepts points. The
problem is handed arguments that do not fit. -/
theorem misfit_of_measure {session : Session (Watched σ) K} {name : String}
    {engine : Engine (Watched σ) K} {sample : Sample K} {trajectories : Trajectories K}
    {answer : Answer (Watched σ) K ε} (found : session.engines.get? name = some engine)
    (differ : ¬engine.dimensions.SameShapes (Problem.dimensions engine.problem))
    (fitsSample : sample.Fits engine.dimensions) (fits : trajectories.Fits engine.dimensions)
    (ran : session.step (.measure name sample trajectories) = .ok answer) :
    (∃ norm, answer.reply = .measured (.ok norm)) ∧
      ∃ next, answer.session.engines.get? name = some next ∧ next.problem.fitting = false := by
  simp only [step, found] at ran
  obtain ⟨outcome, measured, ran⟩ := bind_eq_ok_iff.mp ran
  cases ran
  obtain ⟨⟨norm, returned⟩, spoiled⟩ := Engine.misfit_of_optimalityNorm differ
    (Engine.admitPoint_eq_ok_iff.mpr ⟨fitsSample, fits⟩) measured
  exact ⟨⟨norm, congrArg Reply.measured returned⟩, outcome.engine,
    Registry.get?_put_self _ _ _, spoiled⟩

/-- **What a problem is handed.** Let an engine be at work over a watched problem. Whatever the
problem has been handed had the shapes of the dimensions that it reported then, and so has whatever
the next command hands it, which is answered. This ends with a reset that gives the problem other
shapes: whether it is refused or not, the engine accepts the points that it accepted before, and a
measurement of one of them hands its problem arguments that do not fit. -/
theorem handed_fitting {states : σ → Prop} (lawful : Problem.Lawful states)
    {session : Session (Watched σ) K} {name : String} {engine : Engine (Watched σ) K}
    (employs : session.Employs (Watched.Content states) name engine) :
    engine.problem.fitting = true ∧
    (∀ command : Command (Watched σ) K, command.evaluates = some name →
      Succeeds (session.step (ε := ε) command) fun answer =>
        ∀ next, answer.session.engines.get? name = some next → next.problem.fitting = true) ∧
    ∀ (horizon : Horizon.Settings K) (sample : Sample K) (trajectories : Trajectories K)
      (final : Session (Watched σ) K) (first last : Answer (Watched σ) K ε),
      ¬engine.dimensions.SameShapes (Problem.dimensions (Problem.reset engine.problem horizon).1) →
      sample.Fits engine.dimensions → trajectories.Fits engine.dimensions →
      session.run [.reset name horizon, .measure name sample trajectories] =
        .ok (final, [first, last]) →
      (∃ norm, last.reply = .measured (.ok norm)) ∧
        ∃ next, final.engines.get? name = some next ∧ next.problem.fitting = false := by
  have watched := Watched.lawful lawful
  refine ⟨(employs.intact watched).problem.2, fun command calls => ?_, ?_⟩
  · exact (employs.step_returns watched calls).mono fun answer intact next found =>
      (intact next found).problem.2
  · intro horizon sample trajectories final first last differ fitsSample fits ran
    obtain ⟨reset, rest, stepped, ran, answered⟩ := run_cons_eq_ok_iff.mp ran
    obtain ⟨measured, others, measuring, ran, answeredLast⟩ := run_cons_eq_ok_iff.mp ran
    cases ran
    cases answeredLast
    cases answered
    simp only [step, employs.found] at stepped
    cases stepped
    -- the engine takes the problem that the reset has left, and keeps its dimensions
    have problem : (engine.reset horizon).engine.problem =
        (Problem.reset engine.problem horizon).1 := Engine.afterReset_problem engine _ _
    have dimensions : (engine.reset horizon).engine.dimensions = engine.dimensions :=
      Engine.afterReset_dimensions engine _ _
    refine misfit_of_measure (Registry.get?_put_self _ _ _) ?_ ?_ ?_ measuring
    · rwa [dimensions, problem]
    · rwa [dimensions]
    · rwa [dimensions]

end Watching

/-! ### A watched cart -/

section Cart

open Regulator

/-- A step is prepared for a watched cart, and its horizon is reset. -/
def watchedCart : List (Command (Watched (Regulator ℚ)) ℚ) :=
  [.construct "cart" { problem := cart, fitting := true } cartEngine.settings none,
    .allocate "cart" "workspace",
    .prepare "cart" "workspace" "step" cartSample cartTrajectories (Vec.zeros 4) (Vec.zeros 4),
    .reset "cart" { finalLength := 2, growthRate := 1, origin := 0 }]

theorem brings_watchedCart :
    ∀ command ∈ watchedCart, command.Brings (Watched.Content Regulator.Sound) := by
  intro command member
  simp only [watchedCart, List.mem_cons, List.not_mem_nil, or_false] at member
  rcases member with rfl | rfl | rfl | rfl
  · exact ⟨accepted_cart.sound, rfl⟩
  all_goals trivial

/-- The run ends, and the engine is there. -/
def watchedCartRuns : Bool :=
  match Session.empty.run (ε := Horizon.Invalid ℚ) watchedCart with
  | .error _ => false
  | .ok (session, _) => (session.engines.get? "cart").isSome

/-- Nothing that did not fit has been handed to the cart, nor is it by the next measurement. -/
theorem handed_fitting_cart :
    ∃ (session : Session (Watched (Regulator ℚ)) ℚ) (engine : Engine (Watched (Regulator ℚ)) ℚ)
      (answers : List (Answer (Watched (Regulator ℚ)) ℚ (Horizon.Invalid ℚ))),
      Session.empty.run watchedCart = .ok (session, answers) ∧
      session.engines.get? "cart" = some engine ∧ engine.problem.fitting = true ∧
      Succeeds (session.step (ε := Horizon.Invalid ℚ)
        (.measure "cart" cartSample cartTrajectories)) fun answer =>
          ∀ next, answer.session.engines.get? "cart" = some next →
            next.problem.fitting = true := by
  have runs : watchedCartRuns = true := by decide +kernel
  unfold watchedCartRuns at runs
  split at runs
  · cases runs
  rename_i session answers ran
  obtain ⟨engine, found⟩ := Option.isSome_iff_exists.mp runs
  have employs := employs_of_rigid (Watched.lawful functional.lawful)
    (Watched.rigid Regulator.rigid) brings_watchedCart ran found
  obtain ⟨clean, answered, _⟩ := handed_fitting functional.lawful employs
  exact ⟨session, engine, answers, ran, found, clean, answered _ rfl⟩

end Cart

/-! ### A ring that is stretched -/

section Ring

open Regulator

/-- The dimensions of a ring with one cell. -/
def ringLayout : Dimensions where
  state := 1
  input := 1
  constraints := 0
  stages := 1

/-- A ring with one cell over one stage, which reports two stages after a reset. -/
def stretchedRing : CubicRing ℚ :=
  .ofLayout ringLayout
    { coupling := 0, damping := 0, modulation := 0, forcing := 0, inputCost := 1,
      terminalCost := 1 }
    (1 / 2) (some { ringLayout with stages := 2 })

/-- A sample for one stage. -/
def ringSample : Sample ℚ where
  time := 0
  state := #[1]
  decision := #[1]

/-- Trajectories for one stage. -/
def ringTrajectories : Trajectories ℚ where
  state := Mat.ofFn 1 1 fun _ _ => 1
  costate := Mat.ofFn 1 1 fun _ _ => 1

/-- The ring is reset, and then measured along one stage. -/
def stretchedRun : List (Command (Watched (CubicRing ℚ)) ℚ) :=
  [.construct "ring" { problem := stretchedRing, fitting := true }
      { increment := 1 / 2, gain := 1 } none,
    .reset "ring" { finalLength := 1, growthRate := 0, origin := 0 },
    .measure "ring" ringSample ringTrajectories]

/-- The reset is refused, the measurement is answered, and the record is spoiled. -/
def stretchedRunSpoils : Bool :=
  match Session.empty.run (ε := CubicRing.Invalid ℚ) stretchedRun with
  | .ok (session, [_, reset, measured]) =>
    match reset.reply, measured.reply, session.engines.get? "ring" with
    | .done (.error (.length .decisionAfterReset 1 2)), .measured (.ok _), some engine =>
      !engine.problem.fitting
    | _, _, _ => false
  | _ => false

/-- **The ring is handed arguments that do not fit.** Its reset is refused, since it asks for two
decisions now, but a measurement with one decision is answered. -/
theorem handed_misfit :
    ∃ (session : Session (Watched (CubicRing ℚ)) ℚ) (engine : Engine (Watched (CubicRing ℚ)) ℚ)
      (constructed reset measured : Answer (Watched (CubicRing ℚ)) ℚ (CubicRing.Invalid ℚ))
      (norm : ℚ),
      Session.empty.run stretchedRun = .ok (session, [constructed, reset, measured]) ∧
      reset.reply = .done (.error (.length .decisionAfterReset 1 2)) ∧
      measured.reply = .measured (.ok norm) ∧
      session.engines.get? "ring" = some engine ∧ engine.problem.fitting = false := by
  have spoils : stretchedRunSpoils = true := by decide +kernel
  unfold stretchedRunSpoils at spoils
  split at spoils
  · rename_i session constructed reset measured ran
    split at spoils
    · rename_i norm engine refused answered found
      exact ⟨session, engine, constructed, reset, measured, norm, ran, refused, answered, found,
        by simpa using spoils⟩
    · cases spoils
  · cases spoils

end Ring

end Session

end RecedingHorizon
