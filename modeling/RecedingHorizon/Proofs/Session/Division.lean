/-
**What a session divides by.**

In a session over problems of one class, the engines divide by their increments, which are positive,
and the problems by divisors of their own. A run comes out the same with another division, and over
another implementation of the problems, if they agree there.

* `Session.runWith` is a run with a division and an implementation given;
* `stepWith_coincide` is its step lemma and `runWith_coincide` that for a run.
-/

import RecedingHorizon.Proofs.Tracking.Division
import RecedingHorizon.Proofs.Session.Keeping

set_option linter.unusedSectionVars false

namespace RecedingHorizon.Session

open Tracking

universe u

variable {σ K ε : Type u} [Zero K] [One K] [Add K] [Sub K] [Mul K] [Neg K]
  [LT K] [DecidableLT K] [LE K] [DecidableLE K] [ScalarFunctions K]

/-- One command, with the evaluations of an implementation of the interface and with a division. -/
def stepWith (interface : Problem σ K ε) (division : Div K) (session : Session σ K)
    (command : Command σ K) : Checked (Answer σ K ε) :=
  session.step command

/-- A run, with the evaluations of an implementation of the interface and with a division. -/
def runWith (interface : Problem σ K ε) (division : Div K) (session : Session σ K)
    (commands : List (Command σ K)) : Checked (Session σ K × List (Answer σ K ε)) :=
  session.run commands

variable {first second : Problem σ K ε} {states : σ → Prop}
  (problems : Problem.Coincide first second states) {division other : Div K} {divisors : K → Prop}
  (divides : ∀ x y, divisors y → division.div x y = other.div x y)
  (positive : ∀ y : K, 0 < y → divisors y)
  {session : Session σ K} (all : session.engines.All (Engine.Holds states divisors))
include problems positive all

/-- The construction of an engine. -/
theorem construct_coincide (name : String) {problem : σ} (held : states problem)
    (settings : Tracking.Settings K) (horizon : Option (Horizon.Settings K)) :
    (letI _ := first; session.construct (ε := ε) name problem settings horizon) =
        (letI _ := second; session.construct (ε := ε) name problem settings horizon) ∧
      (letI _ := first;
        (session.construct (ε := ε) name problem settings horizon).session.engines.All
          (Engine.Holds states divisors)) := by
  unfold construct
  rw [Engine.build_coincide problems]
  cases built : (letI _ := second; Engine.build (ε := ε) session.nextEngine problem settings) with
  | error cause => exact ⟨rfl, all⟩
  | ok engine =>
    have holds : engine.Holds states divisors :=
      letI _ := second
      Engine.holds_of_build positive held built
    cases horizon with
    | none => exact ⟨rfl, all.put name holds⟩
    | some horizon =>
      refine ⟨by simp only [Engine.reset_coincide problems], ?_⟩
      dsimp only
      cases (letI _ := first; engine.reset (ε := ε) horizon).result with
      | error cause => exact all
      | ok _ =>
        exact all.put name (letI _ := first
          holds.afterReset _ (problems.states_reset _ holds.problem horizon))

include divides

/-- **One command** comes out the same, and leaves engines that divide by the same divisors. -/
theorem stepWith_coincide {command : Command σ K} (brings : command.Brings states) :
    Coincide (session.stepWith first division command) (session.stepWith second other command)
      fun answer => answer.session.engines.All (Engine.Holds states divisors) := by
  unfold stepWith
  cases command with
  | construct name problem settings horizon =>
    obtain ⟨same, kept⟩ := construct_coincide problems positive all name brings settings horizon
    simp only [step]
    rw [← same]
    exact coincide_ok kept
  | allocate name workspace =>
    simp only [step]
    split <;> exact coincide_ok all
  | measure name sample trajectories =>
    simp only [step]
    split
    · exact coincide_ok all
    · rename_i engine found
      exact (Engine.optimalityNorm_coincide problems (all _ _ found) sample trajectories).bind
        fun outcome kept => coincide_ok (all.put name kept)
  | prepare name workspace target sample trajectories prior out =>
    simp only [step]
    split
    · rename_i engine storage found stored
      refine (Engine.prepare_coincide problems (all _ _ found) divides storage sample trajectories
        prior out).bind fun outcome kept => coincide_ok ?_
      cases outcome.result <;> exact all.put name kept
    · exact coincide_ok all
  | multiply name source decision direction out =>
    simp only [step]
    split
    · rename_i engine prepared found held
      exact (Engine.multiply_coincide problems (all _ _ found) divides prepared decision direction
        out).bind fun outcome kept => coincide_ok (all.put name kept)
    · exact coincide_ok all
  | advance name source workspace decision direction trajectories elapsed =>
    simp only [step]
    split
    · rename_i engine prepared found held
      refine (Engine.advance_coincide problems (all _ _ found) divides prepared decision direction
        trajectories elapsed).bind fun outcome kept => coincide_ok ?_
      cases outcome.result <;> exact all.put name kept
    · exact coincide_ok all
  | reset name horizon =>
    simp only [step]
    split
    · exact coincide_ok all
    · rename_i engine found
      rw [← Engine.reset_coincide problems]
      have holds := all _ _ found
      exact coincide_ok (all.put name (letI _ := first
        holds.afterReset _ (problems.states_reset _ holds.problem horizon)))
  | moveOrigin name origin =>
    simp only [step]
    split
    · exact coincide_ok all
    · rename_i engine found
      rw [← Engine.moveOrigin_coincide problems]
      have holds := all _ _ found
      exact coincide_ok (all.put name (letI _ := first
        holds.afterReset _ (problems.states_moveOrigin _ holds.problem origin)))
  | release source workspace =>
    simp only [step]
    split <;> exact coincide_ok all
  | copyStep source target =>
    simp only [step]
    split <;> exact coincide_ok all
  | copyWorkspace source target =>
    simp only [step]
    split <;> exact coincide_ok all

/-- **A run** comes out the same. -/
theorem runWith_coincide {commands : List (Command σ K)}
    (brings : ∀ command ∈ commands, command.Brings states) :
    Coincide (session.runWith first division commands) (session.runWith second other commands)
      fun result => result.1.engines.All (Engine.Holds states divisors) := by
  induction commands generalizing session with
  | nil => exact coincide_ok all
  | cons command commands hypothesis =>
    have stepped := stepWith_coincide problems divides positive all
      (brings command List.mem_cons_self)
    refine stepped.bind fun answer kept => ?_
    refine (hypothesis kept fun later inRest =>
      brings later (List.mem_cons_of_mem _ inRest)).bind fun result held => ?_
    exact coincide_ok held

end RecedingHorizon.Session
