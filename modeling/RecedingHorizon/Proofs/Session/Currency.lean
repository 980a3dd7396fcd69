/-
**How long a step stays valid.**

The check of a step compares two numbers. `step_validity` says what the comparison is worth: over
every run of a session, with any number of engines and any copies of steps and workspaces, exactly
the steps of the same engine pass that nothing has superseded since they were prepared.

* `Distinct`: no two engines share an identity, and identities are given out in order;
* `Follows` ties a step to the engine that prepared it, given whether the engine has been replaced
  and whether the step has been superseded. One command carries it on (`Follows.step`), and with it
  a whole run (`Follows.run`);
* `step_validity` reads the answer of the check off.

A copy of a step is the same value under another name, so that the statement is about copies as
well, and `held_of_run` says that a session holds no other steps.
-/

import RecedingHorizon.Proofs.Regulator.Recurrence
import RecedingHorizon.Proofs.Session.Effect

set_option linter.unusedSectionVars false

namespace RecedingHorizon.Session

open Tracking

universe u

variable {σ K ε : Type u} [Problem σ K ε]

/-! ### Identities -/

/-- The engines have identities of their own, all of which have been given out. -/
structure Distinct (session : Session σ K) : Prop where
  below : ∀ name engine, session.engines.get? name = some engine → engine.id < session.nextEngine
  apart : ∀ name other engine holder, session.engines.get? name = some engine →
    session.engines.get? other = some holder → engine.id = holder.id → name = other

theorem distinct_empty : (Session.empty : Session σ K).Distinct :=
  ⟨nofun, nofun⟩

section Identities

variable {session : Session σ K}

omit [Problem σ K ε] in
/-- An engine with the next identity may take any name. -/
theorem Distinct.construct {after : Session σ K} (distinct : session.Distinct) {name : String}
    {engine : Engine σ K} (identity : engine.id = session.nextEngine)
    (next : after.nextEngine = session.nextEngine + 1)
    (engines : after.engines = session.engines.put name engine) : after.Distinct := by
  constructor
  · intro other holder found
    rw [engines] at found
    rw [next]
    rcases Registry.get?_put_cases found with ⟨_, rfl⟩ | ⟨_, kept⟩
    · rw [identity]
      exact Nat.lt_succ_self _
    · exact Nat.lt_succ_of_lt (distinct.below other holder kept)
  · intro first second holder other foundFirst foundSecond same
    rw [engines] at foundFirst foundSecond
    rcases Registry.get?_put_cases foundFirst with ⟨rfl, rfl⟩ | ⟨_, keptFirst⟩
    · rcases Registry.get?_put_cases foundSecond with ⟨rfl, _⟩ | ⟨_, keptSecond⟩
      · rfl
      · exact absurd (identity.symm.trans same) (Nat.ne_of_gt (distinct.below _ _ keptSecond))
    · rcases Registry.get?_put_cases foundSecond with ⟨_, rfl⟩ | ⟨_, keptSecond⟩
      · exact absurd (same.trans identity) (Nat.ne_of_lt (distinct.below _ _ keptFirst))
      · exact distinct.apart _ _ _ _ keptFirst keptSecond same

omit [Problem σ K ε] in
/-- An engine may change under its name as long as it keeps its identity. -/
theorem Distinct.call {after : Session σ K} (distinct : session.Distinct) {name : String}
    {before engine : Engine σ K} (found : session.engines.get? name = some before)
    (identity : engine.id = before.id) (next : after.nextEngine = session.nextEngine)
    (engines : after.engines = session.engines.put name engine) : after.Distinct := by
  have origin : ∀ other holder, after.engines.get? other = some holder →
      ∃ earlier, session.engines.get? other = some earlier ∧ holder.id = earlier.id := by
    intro other holder foundOther
    rw [engines] at foundOther
    rcases Registry.get?_put_cases foundOther with ⟨rfl, rfl⟩ | ⟨_, kept⟩
    · exact ⟨before, found, identity⟩
    · exact ⟨holder, kept, rfl⟩
  constructor
  · intro other holder foundOther
    obtain ⟨earlier, kept, same⟩ := origin other holder foundOther
    rw [same, next]
    exact distinct.below other earlier kept
  · intro first second holder other foundFirst foundSecond same
    obtain ⟨earlier, keptFirst, sameFirst⟩ := origin first holder foundFirst
    obtain ⟨sooner, keptSecond, sameSecond⟩ := origin second other foundSecond
    exact distinct.apart _ _ _ _ keptFirst keptSecond
      (sameFirst.symm.trans (same.trans sameSecond))

/-- **Every command keeps the identities apart.** -/
theorem Distinct.step {command : Command σ K} {answer : Answer σ K ε}
    (distinct : session.Distinct) (effect : Effect session command answer) :
    answer.session.Distinct := by
  cases effect with
  | constructed name engine _ _ identity next engines =>
    exact distinct.construct identity next engines
  | none _ _ next engines =>
    refine ⟨fun name engine found => ?_, ?_⟩
    · rw [engines] at found
      exact Nat.lt_of_lt_of_le (distinct.below name engine found) next
    · rw [engines]
      exact distinct.apart
  | called name before after _ _ found identity _ next engines =>
    exact distinct.call found identity next engines
  | superseded name before after _ _ found identity _ next engines =>
    exact distinct.call found identity next engines

end Identities

/-! ### Following a step -/

/-- The session has the engine of the step under the name, unless it has been replaced. Its sequence
number is that of the step, or a later one if the step has been superseded. -/
structure Follows (session : Session σ K) (name : String) (prepared : Prepared K)
    (replaced superseded : Prop) : Prop where
  distinct : session.Distinct
  used : prepared.engine < session.nextEngine
  owner : ∀ other engine, session.engines.get? other = some engine → engine.id = prepared.engine →
    other = name ∧ ¬replaced
  present : ¬replaced → ∃ engine, session.engines.get? name = some engine ∧
    engine.id = prepared.engine ∧ (¬superseded → engine.sequence = prepared.sequence) ∧
    (superseded → prepared.sequence < engine.sequence)

section Following

variable {session : Session σ K} {name : String} {prepared : Prepared K}
  {replaced superseded : Prop}

/-- A new engine under a name. -/
theorem Follows.construct {after : Session σ K}
    (follows : session.Follows name prepared replaced superseded) {target : String}
    {engine : Engine σ K} (identity : engine.id = session.nextEngine)
    (next : after.nextEngine = session.nextEngine + 1)
    (engines : after.engines = session.engines.put target engine) :
    after.Follows name prepared (replaced ∨ name = target) superseded := by
  have foreign : engine.id ≠ prepared.engine := by
    rw [identity]
    exact Nat.ne_of_gt follows.used
  refine ⟨follows.distinct.construct identity next engines, ?_, fun other holder found same => ?_,
    fun kept => ?_⟩
  · rw [next]
    exact Nat.lt_succ_of_lt follows.used
  · rw [engines] at found
    rcases Registry.get?_put_cases found with ⟨_, rfl⟩ | ⟨elsewhere, held⟩
    · exact absurd same foreign
    · obtain ⟨rfl, standing⟩ := follows.owner other holder held same
      exact ⟨rfl, not_or.mpr ⟨standing, elsewhere⟩⟩
  · obtain ⟨standing, elsewhere⟩ := not_or.mp kept
    obtain ⟨holder, held, rest⟩ := follows.present standing
    refine ⟨holder, ?_, rest⟩
    rw [engines, Registry.get?_put_of_ne _ _ elsewhere]
    exact held

/-- An engine goes on, with the next sequence number if it supersedes its steps. -/
theorem Follows.call {after : Session σ K}
    (follows : session.Follows name prepared replaced superseded) {target : String}
    {before engine : Engine σ K} (found : session.engines.get? target = some before)
    (identity : engine.id = before.id) {moved : Prop}
    (sequence : (¬moved ∧ engine.sequence = before.sequence) ∨
      (moved ∧ engine.sequence = before.sequence + 1))
    (next : after.nextEngine = session.nextEngine)
    (engines : after.engines = session.engines.put target engine) :
    after.Follows name prepared replaced (superseded ∨ (name = target ∧ moved)) := by
  refine ⟨follows.distinct.call found identity next engines, ?_, fun other holder held same => ?_,
    fun standing => ?_⟩
  · rw [next]
    exact follows.used
  · rw [engines] at held
    rcases Registry.get?_put_cases held with ⟨rfl, rfl⟩ | ⟨_, kept⟩
    · exact follows.owner _ _ found (identity.symm.trans same)
    · exact follows.owner _ _ kept same
  · obtain ⟨holder, held, same, current, overtaken⟩ := follows.present standing
    rw [engines]
    by_cases here : name = target
    · rw [here] at held ⊢
      rw [found] at held
      cases held
      refine ⟨engine, Registry.get?_put_self _ _ _, identity.trans same, ?_, ?_⟩
      · intro fresh
        obtain ⟨valid, unmoved⟩ := not_or.mp fresh
        rcases sequence with ⟨_, stays⟩ | ⟨moves, _⟩
        · exact stays.trans (current valid)
        · exact absurd ⟨rfl, moves⟩ unmoved
      · intro late
        by_cases before : superseded
        · have earlier := overtaken before
          rcases sequence with ⟨_, stays⟩ | ⟨_, moves⟩ <;> omega
        · have equal := current before
          rcases sequence with ⟨unmoved, _⟩ | ⟨_, moves⟩
          · exact absurd (late.resolve_left before).2 unmoved
          · omega
    · refine ⟨holder, ?_, same, ?_, ?_⟩
      · rw [Registry.get?_put_of_ne _ _ here]
        exact held
      · exact fun fresh => current (not_or.mp fresh).1
      · exact fun late => overtaken (late.resolve_right fun moved => here moved.1)

/-- **Following a step over one command.** -/
theorem Follows.step {command : Command σ K} {answer : Answer σ K ε}
    (follows : session.Follows name prepared replaced superseded)
    (effect : Effect session command answer) :
    answer.session.Follows name prepared (replaced ∨ Replaces name session command answer)
      (superseded ∨ Supersedes name session command answer) := by
  cases effect with
  | constructed target engine replaces supersedes identity next engines =>
    rw [or_iff_left (supersedes name), replaces name]
    exact follows.construct identity next engines
  | none replaces supersedes next engines =>
    rw [or_iff_left (supersedes name), or_iff_left (replaces name)]
    refine ⟨follows.distinct.step (.none replaces supersedes next engines),
      Nat.lt_of_lt_of_le follows.used next, ?_, ?_⟩
    · rw [engines]
      exact follows.owner
    · rw [engines]
      exact follows.present
  | called target before after replaces supersedes found identity sequence next engines =>
    have carried := follows.call found identity (Or.inl ⟨not_false, sequence⟩) next engines
    rw [or_iff_left (supersedes name), or_iff_left (replaces name)]
    rwa [or_iff_left fun moved => moved.2] at carried
  | superseded target before after replaces supersedes found identity sequence next engines =>
    have carried := follows.call found identity (Or.inr ⟨trivial, sequence⟩) next engines
    rw [supersedes name, or_iff_left (replaces name)]
    rwa [and_iff_left trivial] at carried

end Following

/-! ### Runs -/

section Runs

variable [Zero K] [One K] [Add K] [Sub K] [Mul K] [Div K] [Neg K]
  [LT K] [DecidableLT K] [LE K] [DecidableLE K] [ScalarFunctions K]
  {session final : Session σ K}

/-- **Every run keeps the identities apart.** -/
theorem Distinct.run {commands : List (Command σ K)} {answers : List (Answer σ K ε)}
    (distinct : session.Distinct) (ran : session.run commands = .ok (final, answers)) :
    final.Distinct := by
  induction commands generalizing session answers with
  | nil =>
    cases ran
    exact distinct
  | cons command commands hypothesis =>
    obtain ⟨answer, rest, stepped, went, _⟩ := run_cons_eq_ok_iff.mp ran
    exact hypothesis (distinct.step (effect_of_step stepped)) went

/-- **Following a step over a run.** -/
theorem Follows.run {name : String} {prepared : Prepared K} {replaced superseded : Prop}
    {commands : List (Command σ K)} {answers : List (Answer σ K ε)}
    (follows : session.Follows name prepared replaced superseded)
    (ran : session.run commands = .ok (final, answers)) :
    final.Follows name prepared (replaced ∨ Meets (Replaces name) session commands)
      (superseded ∨ Meets (Supersedes name) session commands) := by
  induction commands generalizing session answers replaced superseded with
  | nil =>
    cases ran
    simpa only [Meets, or_false] using follows
  | cons command commands hypothesis =>
    obtain ⟨answer, rest, stepped, went, _⟩ := run_cons_eq_ok_iff.mp ran
    have carried := hypothesis (follows.step (effect_of_step stepped)) went
    rwa [or_assoc, or_assoc, ← meets_cons_iff stepped, ← meets_cons_iff stepped] at carried

/-- A step that a session holds after a command was held before it, or is what the command has
prepared. -/
theorem held_of_step {command : Command σ K} {answer : Answer σ K ε} {name : String}
    {prepared : Prepared K} (stepped : session.step command = .ok answer)
    (held : answer.session.steps.get? name = some prepared) :
    (∃ earlier, session.steps.get? earlier = some prepared) ∨
      preparedBy session command answer = some prepared := by
  cases handling_of_step stepped with
  | none _ _ steps =>
    rw [steps] at held
    exact Or.inl ⟨name, held⟩
  | prepared _ _ target _ _ _ _ step _ made _ steps =>
    rw [steps] at held
    rcases Registry.get?_put_cases held with ⟨_, rfl⟩ | ⟨_, kept⟩
    · exact Or.inr made
    · exact Or.inl ⟨name, kept⟩
  | copied source target step _ _ _ found steps =>
    rw [steps] at held
    rcases Registry.get?_put_cases held with ⟨_, rfl⟩ | ⟨_, kept⟩
    · exact Or.inl ⟨source, found⟩
    · exact Or.inl ⟨name, kept⟩
  | removed source _ _ steps =>
    rw [steps] at held
    exact Or.inl ⟨name, Registry.get?_of_remove held⟩

/-- **Every step comes from a preparation.** What a session holds at the end of a run was held at
its start, or is what a command of the run has prepared, so that copies are steps like the first. -/
theorem held_of_run {commands : List (Command σ K)} {answers : List (Answer σ K ε)} {name : String}
    {prepared : Prepared K} (ran : session.run commands = .ok (final, answers))
    (held : final.steps.get? name = some prepared) :
    (∃ earlier, session.steps.get? earlier = some prepared) ∨
      prepared ∈ trace (ε := ε) preparedBy session commands := by
  induction commands generalizing session answers with
  | nil =>
    cases ran
    exact Or.inl ⟨name, held⟩
  | cons command commands hypothesis =>
    obtain ⟨answer, rest, stepped, went, rfl⟩ := run_cons_eq_ok_iff.mp ran
    rw [mem_trace_cons_iff commands stepped, ← or_assoc]
    exact (hypothesis went).imp_left fun ⟨earlier, kept⟩ => held_of_step stepped kept

/-- A step that has just been prepared is followed. -/
theorem follows_of_prepare {name workspace target : String} {sample : Sample K}
    {trajectories : Trajectories K} {prior out rightHandSide : Vec K} {prepared : Prepared K}
    {answer : Answer σ K ε} (distinct : session.Distinct)
    (stepped : session.step (.prepare name workspace target sample trajectories prior out) =
      .ok answer)
    (replied : answer.reply = .prepared (.ok prepared) rightHandSide) :
    answer.session.Follows name prepared False False := by
  have kept := distinct.step (effect_of_step stepped)
  obtain ⟨engine, storage, outcome, found, _, called, result, _, after⟩ :=
    called_of_prepare stepped replied
  rcases Engine.prepare_frame called with ⟨cause, refused, _⟩ | ⟨made, done, owner, current, goes⟩
  · rw [refused] at result
    cases result
  · rw [done] at result
    cases result
    rw [after] at kept ⊢
    have here : (session.engines.put name outcome.engine).get? name = some outcome.engine :=
      Registry.get?_put_self _ _ _
    have identity : outcome.engine.id = prepared.engine := goes.id.trans owner.symm
    refine ⟨kept, ?_, fun other holder held same => ⟨?_, not_false⟩, fun _ =>
      ⟨outcome.engine, here, identity, fun _ => goes.sequence.trans current.symm, False.elim⟩⟩
    · rw [owner]
      exact distinct.below name engine found
    · exact kept.apart _ _ _ _ held here (same.trans identity.symm)

/-- What the check of a step answers, for a step that is followed. -/
theorem Follows.verdict {name other : String} {prepared : Prepared K} {replaced superseded : Prop}
    {engine : Engine σ K} (follows : session.Follows name prepared replaced superseded)
    (present : session.engines.get? other = some engine) :
    (engine.admitStep (ε := ε) prepared = .ok () ↔ (other = name ∧ ¬replaced) ∧ ¬superseded) ∧
      (¬(other = name ∧ ¬replaced) → engine.admitStep (ε := ε) prepared = .error .foreignStep) ∧
      (other = name ∧ ¬replaced → superseded → prepared.sequence < engine.sequence ∧
        engine.admitStep (ε := ε) prepared =
          .error (.staleStep prepared.sequence engine.sequence)) := by
  have owned : engine.id = prepared.engine ↔ other = name ∧ ¬replaced := by
    refine ⟨follows.owner other engine present, ?_⟩
    rintro ⟨rfl, standing⟩
    obtain ⟨holder, held, identity, _⟩ := follows.present standing
    rw [present] at held
    cases held
    exact identity
  have numbered : other = name ∧ ¬replaced →
      (¬superseded → engine.sequence = prepared.sequence) ∧
        (superseded → prepared.sequence < engine.sequence) := by
    rintro ⟨rfl, standing⟩
    obtain ⟨holder, held, _, numbers⟩ := follows.present standing
    rw [present] at held
    cases held
    exact numbers
  have foreign : ¬(other = name ∧ ¬replaced) →
      engine.admitStep (ε := ε) prepared = .error .foreignStep := by
    intro elsewhere
    unfold Engine.admitStep
    rw [if_neg fun same => elsewhere (owned.mp same.symm)]
  have stale : other = name ∧ ¬replaced → superseded → prepared.sequence < engine.sequence ∧
      engine.admitStep (ε := ε) prepared =
        .error (.staleStep prepared.sequence engine.sequence) := by
    intro here overtaken
    have earlier := (numbered here).2 overtaken
    refine ⟨earlier, ?_⟩
    unfold Engine.admitStep
    rw [if_pos (owned.mpr here).symm, if_neg (Nat.ne_of_lt earlier)]
  refine ⟨?_, foreign, stale⟩
  rw [Engine.admitStep_eq_ok_iff, eq_comm, owned]
  refine and_congr_right fun here => ⟨fun equal overtaken => ?_, fun current => ?_⟩
  · exact Nat.ne_of_lt ((numbered here).2 overtaken) equal
  · exact ((numbered here).1 current).symm

/-- **A step is valid until its engine moves on.** A session runs any commands, prepares a step on
an engine, and runs any commands again. The check of an engine that is there in the end lets the
step pass if and only if it is the engine that prepared it, and no preparation on this engine has
succeeded and no reset of it has been accepted since. Another engine calls the step foreign. The
engine of the step calls it stale if it has moved on, with a sequence number past that of the step.
Both calls that take a step then refuse it. -/
theorem step_validity {past future : List (Command σ K)} {before final : Session σ K}
    {pastAnswers futureAnswers : List (Answer σ K ε)} {answer : Answer σ K ε}
    {name workspace target other : String} {sample : Sample K} {trajectories : Trajectories K}
    {prior out rightHandSide : Vec K} {prepared : Prepared K} {engine : Engine σ K}
    (began : Session.empty.run past = .ok (before, pastAnswers))
    (stepped : before.step (.prepare name workspace target sample trajectories prior out) =
      .ok answer)
    (replied : answer.reply = .prepared (.ok prepared) rightHandSide)
    (went : answer.session.run future = .ok (final, futureAnswers))
    (present : final.engines.get? other = some engine) :
    let own := other = name ∧ ¬Meets (ε := ε) (Replaces name) answer.session future
    let overtaken := Meets (ε := ε) (Supersedes name) answer.session future
    (engine.admitStep (ε := ε) prepared = .ok () ↔ own ∧ ¬overtaken) ∧
      (¬own → engine.admitStep (ε := ε) prepared = .error .foreignStep ∧
        engine.Refuses (ε := ε) prepared .foreignStep) ∧
      (own → overtaken → prepared.sequence < engine.sequence ∧
        engine.admitStep (ε := ε) prepared =
          .error (.staleStep prepared.sequence engine.sequence) ∧
        engine.Refuses (ε := ε) prepared (.staleStep prepared.sequence engine.sequence)) := by
  intro own overtaken
  have follows := (follows_of_prepare (distinct_empty.run began) stepped replied).run went
  rw [false_or, false_or] at follows
  obtain ⟨valid, foreign, stale⟩ := follows.verdict (ε := ε) present
  refine ⟨valid, fun elsewhere => ?_, fun here moved => ?_⟩
  · exact ⟨foreign elsewhere, Engine.refuses_of_admitStep (foreign elsewhere)⟩
  · obtain ⟨earlier, refused⟩ := stale here moved
    exact ⟨earlier, refused, Engine.refuses_of_admitStep refused⟩

end Runs

/-! ### A session of two carts -/

section Carts

open Regulator

/-- Two engines for the cart, and a workspace of the first. -/
def cartEngines : List (Command (Regulator ℚ) ℚ) :=
  [.construct "first" cart cartEngine.settings none,
    .construct "second" cart cartEngine.settings none,
    .allocate "first" "workspace"]

/-- The session with these engines and this workspace. -/
def cartSession : Session (Regulator ℚ) ℚ where
  nextEngine := 2
  engines := [("second", { cartEngine with id := 1 }), ("first", cartEngine)]
  workspaces := [("workspace", cartEngine.workspace)]
  steps := []

theorem run_cartEngines :
    ∃ answers, Session.empty.run (ε := Horizon.Invalid ℚ) cartEngines =
      .ok (cartSession, answers) := by
  refine ⟨?answers, ?ran⟩
  case ran =>
    simp only [cartEngines, run, step, construct, empty, build_cartEngine]
    rfl

/-- The first engine prepares a step. -/
def cartPreparation : Command (Regulator ℚ) ℚ :=
  .prepare "first" "workspace" "step" cartSample cartTrajectories (Vec.zeros 4) (Vec.zeros 4)

/-- The step is prepared and copied, and both engines are there. -/
def cartRuns : Bool :=
  match Session.empty.run (ε := Horizon.Invalid ℚ) cartEngines with
  | .error _ => false
  | .ok (before, _) =>
    match before.step (ε := Horizon.Invalid ℚ) cartPreparation with
    | .error _ => false
    | .ok answer =>
      match answer.reply, answer.session.run (ε := Horizon.Invalid ℚ) [.copyStep "step" "copy"] with
      | .prepared (.ok _) _, .ok (final, _) =>
        (final.engines.get? "first").isSome && (final.engines.get? "second").isSome
      | _, _ => false

/-- The first cart accepts its step after it has been copied, and the second calls it foreign. -/
theorem step_validity_cart :
    ∃ (before final : Session (Regulator ℚ) ℚ)
      (pastAnswers futureAnswers : List (Answer (Regulator ℚ) ℚ (Horizon.Invalid ℚ)))
      (answer : Answer (Regulator ℚ) ℚ (Horizon.Invalid ℚ)) (prepared : Prepared ℚ)
      (rightHandSide : Vec ℚ) (first second : Engine (Regulator ℚ) ℚ),
      Session.empty.run cartEngines = .ok (before, pastAnswers) ∧
      before.step cartPreparation = .ok answer ∧
      answer.reply = .prepared (.ok prepared) rightHandSide ∧
      answer.session.run [.copyStep "step" "copy"] = .ok (final, futureAnswers) ∧
      final.engines.get? "first" = some first ∧ final.engines.get? "second" = some second ∧
      first.admitStep (ε := Horizon.Invalid ℚ) prepared = .ok () ∧
      second.admitStep (ε := Horizon.Invalid ℚ) prepared = .error .foreignStep := by
  have runs : cartRuns = true := by decide +kernel
  unfold cartRuns at runs
  split at runs
  · cases runs
  rename_i before pastAnswers began
  split at runs
  · cases runs
  rename_i answer stepped
  split at runs
  · rename_i prepared rightHandSide final futureAnswers replied went
    obtain ⟨hasFirst, hasSecond⟩ := Bool.and_eq_true_iff.mp runs
    obtain ⟨first, foundFirst⟩ := Option.isSome_iff_exists.mp hasFirst
    obtain ⟨second, foundSecond⟩ := Option.isSome_iff_exists.mp hasSecond
    have standing : ¬Meets (ε := Horizon.Invalid ℚ) (Replaces "first") answer.session
        [.copyStep "step" "copy"] := by
      rintro ⟨_, _, met | met⟩ <;> exact met
    have current : ¬Meets (ε := Horizon.Invalid ℚ) (Supersedes "first") answer.session
        [.copyStep "step" "copy"] := by
      rintro ⟨_, _, met | met⟩ <;> exact met
    refine ⟨before, final, pastAnswers, futureAnswers, answer, prepared, rightHandSide, first,
      second, began, stepped, replied, went, foundFirst, foundSecond, ?_, ?_⟩
    · exact (step_validity began stepped replied went foundFirst).1.mpr
        ⟨⟨rfl, standing⟩, current⟩
    · refine ((step_validity began stepped replied went foundSecond).2.1 fun own => ?_).1
      exact absurd own.1 (by decide)
  · cases runs

end Carts

end RecedingHorizon.Session
