/-
**How often a step is advanced by.**

An advance does not move the sequence number of its engine. What keeps a step from being used twice
is that the advance takes it away, so that every copy of a step can be used once more.

* `Prepared.stamp`: the engine and the sequence number of a step. `Exhausted` says that a stamp will
  not be given again, and `nodup_stamps` that no run gives a stamp twice;
* `stock` counts the steps at hand with a stamp. A successful advance is paid for with one of them,
  and only preparations and copies make new ones (`advanced_add_stock_le` for a command, and
  `advanced_le` for a run);
* `advances_le_copies`: a step is advanced by at most once, and once more for every copy of it;
* `admitStep_of_advance`: an advance does not make the copies of its step stale, and
  `advanced_twice_cart` is a run that advances by a step twice.
-/

import RecedingHorizon.Proofs.Session.Currency

set_option linter.unusedSectionVars false

namespace RecedingHorizon

open Tracking

universe u

/-! ### Counting in a registry -/

namespace Registry

variable {α : Type u} (registry : Registry α) (name : String) (value : α) (counted : α → Bool)

/-- How many values of the registry are counted. -/
def count : Nat :=
  registry.countP fun entry => counted entry.2

theorem count_remove_le : (registry.remove name).count counted ≤ registry.count counted :=
  List.filter_sublist.countP_le

/-- A new value counts for itself at most. -/
theorem count_put_le :
    (registry.put name value).count counted ≤ registry.count counted + [value].countP counted := by
  have kept := count_remove_le registry name counted
  unfold count put at *
  rw [List.countP_cons, List.countP_singleton]
  exact Nat.add_le_add_right kept _

variable {registry name value}

/-- A value that is removed no longer counts. -/
theorem count_remove_add_le (found : registry.get? name = some value) :
    (registry.remove name).count counted + [value].countP counted ≤ registry.count counted := by
  obtain ⟨earlier, later, rfl, _⟩ := List.lookup_eq_some_iff.mp found
  have split : remove (earlier ++ (name, value) :: later) name =
      remove earlier name ++ remove later name := by
    simp [remove]
  have before := count_remove_le earlier name counted
  have after := count_remove_le later name counted
  rw [split]
  unfold count at *
  rw [List.countP_append, List.countP_append, List.countP_singleton, List.countP_cons]
  dsimp only
  omega

end Registry

/-! ### Stamps -/

variable {σ K ε : Type u}

/-- The engine of a step, and the number that the engine gave it. -/
def Tracking.Prepared.stamp (step : Prepared K) : Nat × Nat :=
  (step.engine, step.sequence)

/-- Whether a step has the stamp. -/
def Tracking.Prepared.bears (stamp : Nat × Nat) (step : Prepared K) : Bool :=
  step.stamp == stamp

namespace Session

/-- How many of the steps at hand have the stamp. -/
def stock (session : Session σ K) (stamp : Nat × Nat) : Nat :=
  session.steps.count (Prepared.bears stamp)

/-- The stamp will not be given again: its engine has come as far, or is gone. -/
structure Exhausted (session : Session σ K) (stamp : Nat × Nat) : Prop where
  below : stamp.1 < session.nextEngine
  reached : session.engines.All fun engine => engine.id = stamp.1 → stamp.2 ≤ engine.sequence

variable [Problem σ K ε] {session : Session σ K} {command : Command σ K} {answer : Answer σ K ε}

/-- **A stamp stays exhausted.** -/
theorem Exhausted.step {stamp : Nat × Nat} (exhausted : session.Exhausted stamp)
    (effect : Effect session command answer) : answer.session.Exhausted stamp := by
  obtain ⟨below, reached⟩ := exhausted
  cases effect with
  | constructed name engine _ _ identity next engines =>
    refine ⟨next ▸ Nat.lt_succ_of_lt below, engines ▸ reached.put name fun same => ?_⟩
    -- identities are given out in order, and that of the stamp has been given out
    exact absurd (identity.symm.trans same) (Nat.ne_of_gt below)
  | none _ _ next engines => exact ⟨Nat.lt_of_lt_of_le below next, engines ▸ reached⟩
  | called name before after _ _ found identity sequence next engines =>
    refine ⟨next ▸ below, engines ▸ reached.put name fun same => ?_⟩
    rw [sequence]
    exact reached _ _ found (identity.symm.trans same)
  | superseded name before after _ _ found identity sequence next engines =>
    refine ⟨next ▸ below, engines ▸ reached.put name fun same => ?_⟩
    rw [sequence]
    exact Nat.le_succ_of_le (reached _ _ found (identity.symm.trans same))

variable [Zero K] [One K] [Add K] [Sub K] [Mul K] [Div K] [Neg K]
  [LT K] [DecidableLT K] [LE K] [DecidableLE K] [ScalarFunctions K]

/-- A preparation exhausts the stamp that it gives. -/
theorem exhausted_of_preparedBy {step : Prepared K} (distinct : session.Distinct)
    (ran : session.step command = .ok answer)
    (made : preparedBy session command answer = some step) :
    answer.session.Exhausted step.stamp := by
  obtain ⟨name, workspace, target, sample, trajectories, prior, out, rightHandSide, rfl, replied⟩ :=
    prepare_of_preparedBy ran made
  have follows := follows_of_prepare distinct ran replied
  refine ⟨follows.used, fun holder engine found same => ?_⟩
  obtain ⟨rfl, _⟩ := follows.owner holder engine found same
  obtain ⟨owner, here, _, current, _⟩ := follows.present not_false
  rw [found] at here
  cases here
  exact Nat.le_of_eq (current not_false).symm

/-- A preparation gives no stamp that is exhausted. -/
theorem stamp_ne_of_preparedBy {step : Prepared K} {stamp : Nat × Nat}
    (exhausted : session.Exhausted stamp) (ran : session.step command = .ok answer)
    (made : preparedBy session command answer = some step) : step.stamp ≠ stamp := by
  obtain ⟨name, workspace, target, sample, trajectories, prior, out, rightHandSide, rfl, replied⟩ :=
    prepare_of_preparedBy ran made
  obtain ⟨engine, storage, outcome, found, _, called, result, _⟩ := called_of_prepare ran replied
  rcases Engine.prepare_frame called with ⟨_, refused, _⟩ | ⟨_, done, owner, current, _⟩
  · rw [refused] at result
    cases result
  · rw [done] at result
    cases result
    rintro rfl
    have reached := exhausted.reached _ _ found owner.symm
    rw [Prepared.stamp, current] at reached
    exact absurd reached (Nat.not_succ_le_self _)

/-- An exhausted stamp is not given by the rest of a run. -/
theorem not_mem_stamps {stamp : Nat × Nat} (exhausted : session.Exhausted stamp)
    (commands : List (Command σ K)) :
    stamp ∉ (trace (ε := ε) preparedBy session commands).map Prepared.stamp := by
  induction commands generalizing session with
  | nil => exact List.not_mem_nil
  | cons command commands hypothesis =>
    cases ran : session.step (ε := ε) command with
    | error fault =>
      rw [trace_cons_of_error commands ran]
      exact List.not_mem_nil
    | ok answer =>
      intro member
      obtain ⟨step, given, rfl⟩ := List.mem_map.mp member
      rcases (mem_trace_cons_iff commands ran).mp given with made | later
      · exact stamp_ne_of_preparedBy exhausted ran made rfl
      · exact hypothesis (exhausted.step (effect_of_step ran)) (List.mem_map_of_mem later)

/-- **No run gives a stamp twice.** -/
theorem nodup_stamps (distinct : session.Distinct) (commands : List (Command σ K)) :
    ((trace (ε := ε) preparedBy session commands).map Prepared.stamp).Nodup := by
  induction commands generalizing session with
  | nil => exact List.nodup_nil
  | cons command commands hypothesis =>
    cases ran : session.step (ε := ε) command with
    | error fault =>
      rw [trace_cons_of_error commands ran]
      exact List.nodup_nil
    | ok answer =>
      have rest := hypothesis (distinct.step (effect_of_step ran))
      rw [trace_cons commands ran]
      cases made : preparedBy session command answer with
      | none => exact rest
      | some step =>
        exact List.nodup_cons.mpr
          ⟨not_mem_stamps (exhausted_of_preparedBy distinct ran made) commands, rest⟩

/-! ### What an advance costs -/

/-- **A successful advance is paid for with a step at hand.** -/
theorem advanced_add_stock_le (ran : session.step command = .ok answer)
    (stamp : Nat × Nat) :
    (advancedBy session command answer).toList.countP (Prepared.bears stamp) +
        answer.session.stock stamp ≤
      session.stock stamp +
        (preparedBy session command answer).toList.countP (Prepared.bears stamp) +
        (copiedBy session command answer).toList.countP (Prepared.bears stamp) := by
  unfold stock
  cases handling_of_step ran with
  | none _ advanced steps =>
    rw [advanced, steps, Option.toList_none, List.countP_nil]
    omega
  | prepared name workspace target sample trajectories prior out step _ prepared advanced steps =>
    have grown := Registry.count_put_le session.steps target step (Prepared.bears stamp)
    rw [advanced, prepared, steps, Option.toList_none, List.countP_nil, Option.toList_some]
    omega
  | copied source target step _ advanced copied found steps =>
    have grown := Registry.count_put_le session.steps target step (Prepared.bears stamp)
    rw [advanced, copied, steps, Option.toList_none, List.countP_nil, Option.toList_some]
    omega
  | removed source _ advanced steps =>
    rw [steps]
    cases taken : advancedBy session command answer with
    | none =>
      have kept := Registry.count_remove_le session.steps source (Prepared.bears stamp)
      rw [Option.toList_none, List.countP_nil]
      omega
    | some step =>
      have paid := Registry.count_remove_add_le (Prepared.bears stamp) (advanced step taken)
      rw [Option.toList_some]
      omega

/-- **The advances of a run are paid for**, with the steps at hand at its start, and those that the
run prepares and copies. -/
theorem advanced_le (session : Session σ K) (commands : List (Command σ K)) (stamp : Nat × Nat) :
    (trace (ε := ε) advancedBy session commands).countP (Prepared.bears stamp) ≤
      session.stock stamp +
        (trace (ε := ε) preparedBy session commands).countP (Prepared.bears stamp) +
        (trace (ε := ε) copiedBy session commands).countP (Prepared.bears stamp) := by
  induction commands generalizing session with
  | nil => exact Nat.zero_le _
  | cons command commands hypothesis =>
    cases ran : session.step (ε := ε) command with
    | error fault =>
      rw [trace_cons_of_error commands ran]
      exact Nat.zero_le _
    | ok answer =>
      have first := advanced_add_stock_le ran stamp
      have rest := hypothesis answer.session
      rw [trace_cons commands ran, trace_cons commands ran, trace_cons commands ran,
        List.countP_append, List.countP_append, List.countP_append]
      omega

/-- What a command advances by was at hand. -/
theorem found_of_advancedBy {step : Prepared K} (ran : session.step command = .ok answer)
    (advanced : advancedBy session command answer = some step) :
    ∃ name, session.steps.get? name = some step := by
  cases handling_of_step ran with
  | removed source _ found => exact ⟨source, found step advanced⟩
  | none _ quiet | copied _ _ _ _ quiet | prepared _ _ _ _ _ _ _ _ _ _ quiet =>
    rw [quiet] at advanced
    cases advanced

/-- What a run advances by was at hand at its start, or is what the run has prepared. -/
theorem prepared_of_advanced {commands : List (Command σ K)} {step : Prepared K}
    (advanced : step ∈ trace (ε := ε) advancedBy session commands) :
    (∃ name, session.steps.get? name = some step) ∨
      step ∈ trace (ε := ε) preparedBy session commands := by
  induction commands generalizing session with
  | nil => cases advanced
  | cons command commands hypothesis =>
    cases ran : session.step (ε := ε) command with
    | error fault =>
      rw [trace_cons_of_error commands ran] at advanced
      cases advanced
    | ok answer =>
      rw [mem_trace_cons_iff commands ran, ← or_assoc]
      rcases (mem_trace_cons_iff commands ran).mp advanced with now | later
      · exact Or.inl (Or.inl (found_of_advancedBy ran now))
      · exact (hypothesis later).imp_left fun ⟨name, kept⟩ => held_of_step ran kept

/-- **A step is advanced by at most once, and once more for every copy.** Over any run from the
empty session, the steps that have been prepared have different stamps, and every successful advance
is by one of them. The advances by steps with one stamp outnumber the copies made of such steps by
one at most. -/
theorem advances_le_copies (commands : List (Command σ K)) :
    ((trace (ε := ε) preparedBy Session.empty commands).map Prepared.stamp).Nodup ∧
    (∀ step ∈ trace (ε := ε) advancedBy Session.empty commands,
      step ∈ trace (ε := ε) preparedBy Session.empty commands) ∧
    ∀ stamp : Nat × Nat,
      (trace (ε := ε) advancedBy Session.empty commands).countP (Prepared.bears stamp) ≤
        (trace (ε := ε) copiedBy Session.empty commands).countP (Prepared.bears stamp) + 1 := by
  have once := nodup_stamps (ε := ε) distinct_empty commands
  refine ⟨once, fun step advanced => ?_, fun stamp => ?_⟩
  · exact (prepared_of_advanced advanced).resolve_left nofun
  · have paid := advanced_le (ε := ε) (Session.empty : Session σ K) commands stamp
    have nothing : (Session.empty : Session σ K).stock stamp = 0 := rfl
    have given : (trace (ε := ε) preparedBy Session.empty commands).countP
        (Prepared.bears stamp) ≤ 1 := by
      have single := List.nodup_iff_count_le_one.mp once stamp
      rwa [List.count, List.countP_map] at single
    omega

/-! ### A step that is copied -/

/-- **Copies are not in vain.** An advance leaves the other steps of its engine as valid as they
were, so that a copy of the step it has used up can be advanced by next. -/
theorem admitStep_of_advance {name source workspace other : String} {decision direction : Vec K}
    {trajectories : Trajectories K} {elapsed : K} {engine : Engine σ K} {step : Prepared K}
    (ran : session.step (.advance name source workspace decision direction trajectories elapsed) =
      .ok answer)
    (found : session.engines.get? name = some engine) (apart : other ≠ source)
    (stored : session.steps.get? other = some step)
    (accepted : engine.admitStep (ε := ε) step = .ok ()) :
    ∃ after, answer.session.engines.get? name = some after ∧
      answer.session.steps.get? other = some step ∧ after.admitStep (ε := ε) step = .ok () := by
  simp only [Session.step, found] at ran
  split at ran
  · rename_i holder used same _
    cases same
    obtain ⟨outcome, called, ran⟩ := bind_eq_ok_iff.mp ran
    cases ran
    have continues := Engine.advance_continues called
    have kept : (session.steps.remove source).get? other = some step :=
      (Registry.get?_remove_of_ne _ apart).trans stored
    obtain ⟨own, current⟩ := Engine.admitStep_eq_ok_iff.mp accepted
    have still : outcome.engine.admitStep (ε := ε) step = .ok () :=
      Engine.admitStep_eq_ok_iff.mpr
        ⟨own.trans continues.id.symm, current.trans continues.sequence.symm⟩
    refine ⟨outcome.engine, ?_, ?_, still⟩
    · cases outcome.result <;> exact Registry.get?_put_self _ _ _
    · cases outcome.result <;> exact kept
  · cases ran
    exact ⟨engine, found, stored, accepted⟩

section Cart

open Regulator

/-- A step of the first cart is prepared and copied, and both are advanced by. -/
def cartCopies : List (Command (Regulator ℚ) ℚ) :=
  cartEngines ++ [cartPreparation, .copyStep "step" "copy",
    .advance "first" "step" "workspace" cartSample.decision (Vec.zeros 4) cartTrajectories (1 / 10),
    .advance "first" "copy" "spare" cartSample.decision (Vec.zeros 4) cartTrajectories (1 / 10)]

/-- **A step is advanced by twice**, through a copy that was made before. -/
theorem advanced_twice_cart :
    (trace (ε := Horizon.Invalid ℚ) preparedBy Session.empty cartCopies).map Prepared.stamp =
        [(0, 1)] ∧
      (trace (ε := Horizon.Invalid ℚ) advancedBy Session.empty cartCopies).map Prepared.stamp =
        [(0, 1), (0, 1)] := by
  decide +kernel

end Cart

end Session

end RecedingHorizon
