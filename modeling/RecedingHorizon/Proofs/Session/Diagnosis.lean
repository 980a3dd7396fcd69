/-
**Mismatches that a session reports.**

A command that is refused for a size is told two different sizes, and a reset that changes the
dimensions of a problem is refused. There is one exception to the first: the refusal of such a reset
names the lengths of a decision, and these are the same if the dimensions have changed without
changing their product.

* `Reply.refusal?` is the cause of a reply that refuses, and `Session.resetting` the engine that a
  command resets, with the answer of its problem;
* `mismatches_truthful` is the statement for every session and every command;
* `mismatch_without_difference`: a ring that has grown from one cell to two is refused for asking for
  one decision in the place of one.
-/

import RecedingHorizon.Proofs.Tracking.Diagnosis
import RecedingHorizon.Proofs.Session.Watching
import RecedingHorizon.Proofs.Session.Step

set_option linter.unusedSectionVars false

namespace RecedingHorizon

open Tracking

universe u

variable {σ K ε : Type u}

/-- The cause of a reply that refuses. -/
def Reply.refusal? : Reply ε K → Option (Refusal ε K)
  | .done (.error cause) | .measured (.error cause) | .prepared (.error cause) _
  | .multiplied (.error cause) _ | .advanced (.error cause) _ _ => some cause
  | _ => none

theorem Reply.refusal?_done_eq_some_iff {result : Except (Refusal ε K) Unit} {cause : Refusal ε K} :
    (Reply.done result).refusal? = some cause ↔ result = .error cause := by
  cases result <;> simp [refusal?]

namespace Session

variable [Problem σ K ε] [Zero K] [One K] [Add K] [Sub K] [Mul K] [Div K] [Neg K]
  [LT K] [DecidableLT K] [LE K] [DecidableLE K] [ScalarFunctions K]

/-- The engine that a command resets, also right after its construction, and the answer of its
problem. -/
def resetting (session : Session σ K) : Command σ K → Option (Engine σ K × σ × Except ε Unit)
  | .construct _ problem settings (some horizon) =>
    match Engine.build (ε := ε) session.nextEngine problem settings with
    | .ok engine => some (engine, Problem.reset engine.problem horizon)
    | .error _ => none
  | .reset name horizon =>
    (session.engines.get? name).map fun engine => (engine, Problem.reset engine.problem horizon)
  | .moveOrigin name origin =>
    (session.engines.get? name).map fun engine =>
      (engine, Problem.moveOrigin engine.problem origin)
  | _ => none

variable {session : Session σ K} {command : Command σ K} {answer : Answer σ K ε}

/-! ### Commands that reset no engine -/

/-- The construction of an engine whose horizon is left alone is refused truthfully. -/
theorem truthful_of_construct {name : String} {problem : σ} {settings : Settings K}
    {horizon : Option (Horizon.Settings K)} {cause : Refusal ε K}
    (quiet : session.resetting (.construct name problem settings horizon) = none)
    (refused : (session.construct name problem settings horizon).reply.refusal? = some cause) :
    cause.Truthful := by
  have candid := Engine.candid_build (ε := ε) session.nextEngine problem settings
  unfold construct at refused
  cases built : Engine.build (ε := ε) session.nextEngine problem settings with
  | error failure =>
    rw [built] at refused
    cases refused
    exact candid _ built
  | ok engine =>
    rw [built] at refused
    cases horizon with
    | none => cases refused
    | some horizon =>
      simp only [resetting, built] at quiet
      cases quiet

/-- **Whatever resets no engine is refused truthfully**, if it is refused. -/
theorem truthful_of_quiet {cause : Refusal ε K} (ran : session.step command = .ok answer)
    (quiet : session.resetting command = none) (refused : answer.reply.refusal? = some cause) :
    cause.Truthful := by
  cases carries_of_step ran with
  | constructed name problem settings horizon => exact truthful_of_construct quiet refused
  | measured found called =>
    rename_i outcome
    cases result : outcome.result with
    | ok norm =>
      rw [result] at refused
      cases refused
    | error failure =>
      rw [result] at refused
      cases refused
      exact Engine.candid_of_optimalityNorm called _ result
  | unprepared found stored called failed =>
    cases refused
    exact Engine.candid_of_prepare called _ failed
  | multiplied found held called =>
    rename_i outcome
    cases result : outcome.result with
    | ok _ =>
      rw [result] at refused
      cases refused
    | error failure =>
      rw [result] at refused
      cases refused
      exact Engine.candid_of_multiply called _ result
  | unadvanced found held called failed =>
    cases refused
    exact Engine.candid_of_advance called _ failed
  | reset horizon found =>
    simp only [resetting, found] at quiet
    cases quiet
  | moved origin found =>
    simp only [resetting, found] at quiet
    cases quiet
  | _ => cases refused

/-! ### Commands that reset an engine -/

/-- **A reset is answered**, with what becomes of it. -/
theorem reply_of_resetting {engine : Engine σ K} {answered : σ × Except ε Unit}
    (resets : session.resetting command = some (engine, answered)) :
    ∃ answer : Answer σ K ε, session.step command = .ok answer ∧
      answer.reply = .done (engine.verdict answered) := by
  cases command with
  | construct name given settings horizon =>
    cases horizon with
    | none => cases resets
    | some horizon =>
      refine ⟨_, rfl, ?_⟩
      cases built : Engine.build (ε := ε) session.nextEngine given settings with
      | error failure =>
        simp only [resetting, built] at resets
        cases resets
      | ok engine =>
        simp only [resetting, built] at resets
        cases resets
        simp only [construct, built]
        exact congrArg Reply.done (Engine.result_afterReset _ _ _)
  | reset name horizon =>
    obtain ⟨engine, found, ⟨⟩⟩ := Option.map_eq_some_iff.mp resets
    simp only [step, found]
    exact ⟨_, rfl, congrArg Reply.done (Engine.result_afterReset _ _ _)⟩
  | moveOrigin name origin =>
    obtain ⟨engine, found, ⟨⟩⟩ := Option.map_eq_some_iff.mp resets
    simp only [step, found]
    exact ⟨_, rfl, congrArg Reply.done (Engine.result_afterReset _ _ _)⟩
  | _ => cases resets

/-- The refusal of a reset is not truthful exactly if the problem has accepted it and then reports
dimensions that cannot be told apart from those of the engine. -/
theorem not_truthful_of_resetting {engine : Engine σ K} {answered : σ × Except ε Unit}
    {cause : Refusal ε K} (ran : session.step command = .ok answer)
    (resets : session.resetting command = some (engine, answered))
    (refused : answer.reply.refusal? = some cause) :
    ¬cause.Truthful ↔ answered.2 = .ok () ∧
      engine.dimensions.Indistinct (Problem.dimensions answered.1) := by
  obtain ⟨given, ranGiven, replied⟩ := reply_of_resetting resets
  obtain rfl : given = answer := Except.ok.inj (ranGiven.symm.trans ran)
  rw [replied, Reply.refusal?_done_eq_some_iff] at refused
  exact Engine.not_truthful_verdict_iff refused

/-! ### Mismatches -/

variable (session command) in
/-- **Mismatches are reported truthfully**, with one exception. Whatever the problem and the state
of its engine, a command that is answered with a refusal is told two different sizes, if it is told
any, unless its problem has accepted a reset from which on it reports other dimensions that ask for
a decision of the same length. And wherever a problem accepts a reset and then reports dimensions
that the engine was not built for, the command is refused: if none of them is missing, then for the
two lengths of a decision. -/
theorem mismatches_truthful :
    (∀ answer : Answer σ K ε, session.step command = .ok answer →
      ∀ cause, answer.reply.refusal? = some cause →
      (¬cause.Truthful ↔ ∃ engine problem,
        session.resetting command = some (engine, problem, .ok ()) ∧
        engine.dimensions.Indistinct (Problem.dimensions problem))) ∧
    ∀ engine problem, session.resetting command = some (engine, problem, .ok ()) →
      Problem.dimensions problem ≠ engine.dimensions →
      ∃ (answer : Answer σ K ε) (cause : Refusal ε K), session.step command = .ok answer ∧
        answer.reply = .done (.error cause) ∧
        ((Problem.dimensions problem).validate = .ok () →
          cause = .length .decisionAfterReset engine.dimensions.decisionSize
            (Problem.dimensions problem).decisionSize) := by
  constructor
  · intro answer ran cause refused
    cases resets : session.resetting command with
    | none =>
      refine ⟨fun untruthful => absurd (truthful_of_quiet ran resets refused) untruthful, ?_⟩
      rintro ⟨_, _, same, _⟩
      cases same
    | some reset =>
      obtain ⟨engine, problem, accepted⟩ := reset
      rw [not_truthful_of_resetting ran resets refused]
      constructor
      · rintro ⟨rfl, indistinct⟩
        exact ⟨engine, problem, rfl, indistinct⟩
      · rintro ⟨_, _, ⟨⟩, indistinct⟩
        exact ⟨rfl, indistinct⟩
  · intro engine problem resets differ
    obtain ⟨cause, result, named⟩ :=
      (Engine.compares_checkDimensions { engine with problem }).refused differ
    obtain ⟨answer, ran, replied⟩ := reply_of_resetting resets
    exact ⟨answer, cause, ran, replied.trans (congrArg Reply.done result), named⟩

/-! ### A ring that grows -/

section Ring

/-- A ring with one cell over one stage, which reports two cells after a reset. -/
def grownRing : CubicRing ℚ :=
  { stretchedRing with afterReset := some { ringLayout with state := 2 } }

/-- A horizon of length one. -/
def unitHorizon : Horizon.Settings ℚ where
  finalLength := 1
  growthRate := 0
  origin := 0

/-- An engine as it was built for the ring. -/
def grownEngine : Engine (CubicRing ℚ) ℚ where
  problem := grownRing
  settings := { increment := 1 / 2, gain := 1 }
  dimensions := ringLayout
  id := 0
  sequence := 0
  scratch := Scratch.zeros ringLayout

/-- A session with that engine. -/
def grownSession : Session (CubicRing ℚ) ℚ :=
  Session.empty.putEngine "ring" grownEngine

/-- The reset of the ring is refused, and since the ring has grown, not truthfully. -/
theorem mismatches_truthful_grown :
    ∃ answer : Answer (CubicRing ℚ) ℚ (CubicRing.Invalid ℚ),
      grownSession.step (.reset "ring" unitHorizon) = .ok answer ∧
      ∃ cause, answer.reply = .done (.error cause) ∧ ¬cause.Truthful := by
  have accepted : (grownRing.reset unitHorizon).2 = .ok () := by
    unfold CubicRing.reset
    rw [if_pos (by norm_num [unitHorizon])]
  have reported : Problem.dimensions (grownRing.reset unitHorizon).1 =
      { ringLayout with state := 2 } := by
    unfold CubicRing.reset
    rw [if_pos (by norm_num [unitHorizon])]
    rfl
  have indistinct : grownEngine.dimensions.Indistinct
      (Problem.dimensions (grownRing.reset unitHorizon).1) := by
    rw [reported]
    exact ⟨rfl, by decide, rfl⟩
  have resets : grownSession.resetting (.reset "ring" unitHorizon) =
      some (grownEngine, (grownRing.reset unitHorizon).1, .ok ()) := by
    rw [← accepted]
    rfl
  obtain ⟨truthful_unless, refuses⟩ :=
    mismatches_truthful grownSession (.reset "ring" unitHorizon)
  obtain ⟨answer, cause, ran, replied, _⟩ := refuses _ _ resets indistinct.changed
  have refused := (congrArg Reply.refusal? replied).trans
    (Reply.refusal?_done_eq_some_iff.mpr rfl)
  exact ⟨answer, ran, cause, replied, (truthful_unless answer ran cause refused).mpr
    ⟨_, _, resets, indistinct⟩⟩

/-- The ring is built, and then reset. -/
def grownRun : List (Command (CubicRing ℚ) ℚ) :=
  [.construct "ring" grownRing grownEngine.settings none, .reset "ring" unitHorizon]

/-- The reset is refused for a length that has not changed. -/
def grownRunRefused : Bool :=
  match Session.empty.run (ε := CubicRing.Invalid ℚ) grownRun with
  | .ok (_, [_, reset]) =>
    match reset.reply with
    | .done (.error (.length .decisionAfterReset 1 1)) => true
    | _ => false
  | _ => false

/-- **One decision in the place of one.** The ring that has grown is refused for the length of its
decision, which has not changed. -/
theorem mismatch_without_difference :
    ∃ (session : Session (CubicRing ℚ) ℚ)
      (constructed reset : Answer (CubicRing ℚ) ℚ (CubicRing.Invalid ℚ)) (cause : _),
      Session.empty.run grownRun = .ok (session, [constructed, reset]) ∧
      reset.reply = .done (.error cause) ∧ cause = .length .decisionAfterReset 1 1 ∧
      ¬cause.Truthful := by
  have refused : grownRunRefused = true := by decide +kernel
  unfold grownRunRefused at refused
  split at refused
  · rename_i session constructed reset ran
    split at refused
    · rename_i replied
      exact ⟨session, constructed, reset, _, ran, replied, rfl, fun truthful => truthful rfl⟩
    · cases refused
  · cases refused

end Ring

end Session

end RecedingHorizon
