/-
**What a session keeps in shape.**

A session keeps workspaces and steps of many engines, and the checks of an engine read whom they
belong to and not what shape they have. That the shapes are right is an invariant of the session:
as long as an engine works, whatever the session keeps for it has the shapes of its dimensions. An
engine may stop working, when a reset gives its problem other dimensions, and the other engines are
none the worse for it.

* `Engine.Operates` is what is asked of the engines: calls on a working engine return, and leave it
  working, up to a reset that spoils it. `operates_of_lawful` shows it of engines over a lawful
  problem, which are `Intact` or `Estranged`;
* `Session.Keeps` is the invariant, up to the identities that are lost;
* `Keeps.step_returns` and `Keeps.step` are its step lemmas, `Keeps.run` that for a run;
* `Session.Employs` says of an engine that it has come about in a run and is at work, and
  `Employs.keeps` that the invariant holds of it.
-/

import RecedingHorizon.Proofs.Tracking.Totality
import RecedingHorizon.Proofs.Session.Effect

set_option linter.unusedSectionVars false

namespace RecedingHorizon

open Tracking

universe u

variable {σ K ε : Type u}

/-! ### Engines that work -/

namespace Tracking.Engine

section Operates

variable [Problem σ K ε] [Zero K] [One K] [Add K] [Sub K] [Mul K] [Div K] [Neg K]
  [ScalarFunctions K]

/-- Calls on an engine that works return. They leave it working, and what they prepare fits it. A
reset may spoil it. -/
structure Operates (works spoiled : Engine σ K → Prop) : Prop where
  optimalityNorm : ∀ engine, works engine → ∀ (sample : Sample K) (trajectories : Trajectories K),
    Succeeds (engine.optimalityNorm sample trajectories) fun outcome => works outcome.engine
  prepare : ∀ engine, works engine → ∀ (workspace : Workspace K) (sample : Sample K)
    (trajectories : Trajectories K) (prior out : Vec K),
    (workspace.engine = engine.id → workspace.buffers.Fits engine.dimensions) →
    Succeeds (engine.prepare workspace sample trajectories prior out) fun outcome =>
      works outcome.engine ∧
        ∀ step, outcome.result = .ok step → step.buffers.Fits engine.dimensions
  multiply : ∀ engine, works engine → ∀ (step : Prepared K) (decision direction out : Vec K),
    (step.engine = engine.id → step.buffers.Fits engine.dimensions) →
    Succeeds (engine.multiply step decision direction out) fun outcome => works outcome.engine
  advance : ∀ engine, works engine → ∀ (step : Prepared K) (decision direction : Vec K)
    (trajectories : Trajectories K) (elapsed : K),
    (step.engine = engine.id → step.buffers.Fits engine.dimensions) →
    Succeeds (engine.advance step decision direction trajectories elapsed) fun outcome =>
      works outcome.engine
  reset : ∀ engine, works engine → ∀ horizon : Horizon.Settings K,
    works (engine.reset horizon).engine ∨ spoiled (engine.reset horizon).engine
  moveOrigin : ∀ engine, works engine → ∀ origin : K,
    works (engine.moveOrigin origin).engine ∨ spoiled (engine.moveOrigin origin).engine

end Operates

/-! ### Engines over lawful problems -/

section Lawful

variable [Problem σ K ε]

/-- The problem of the engine reports other dimensions than the engine was built for. -/
def Estranged (engine : Engine σ K) : Prop :=
  Problem.dimensions engine.problem ≠ engine.dimensions

/-- The engine has not been estranged from its problem, and its storage has the right shapes. -/
structure Intact (states : σ → Prop) (engine : Engine σ K) : Prop where
  problem : states engine.problem
  dimensions : Problem.dimensions engine.problem = engine.dimensions
  scratch : engine.scratch.Fits engine.dimensions

variable {states : σ → Prop} {engine : Engine σ K}

theorem Intact.able (intact : engine.Intact states) (lawful : Problem.Lawful states) :
    engine.Able .any fun next =>
      states next ∧ Problem.dimensions next = Problem.dimensions engine.problem where
  serves problem := by
    rintro ⟨held, same⟩
    have serves := lawful.serves problem held
    rw [intact.dimensions] at same ⊢
    rwa [same] at serves
  problem := ⟨intact.problem, rfl⟩
  scratch := intact.scratch

theorem Intact.withSequence (intact : engine.Intact states) (sequence : Nat) :
    Intact states { engine with sequence } :=
  ⟨intact.problem, intact.dimensions, intact.scratch⟩

theorem Intact.of_storing {next : Engine σ K} (intact : engine.Intact states)
    (storing : engine.Storing (fun next =>
      states next ∧ Problem.dimensions next = Problem.dimensions engine.problem) next) :
    next.Intact states := by
  obtain ⟨problem, scratch, ⟨held, same⟩, fits, rfl⟩ := storing
  exact ⟨held, same.trans intact.dimensions, fits⟩

/-- A new engine is intact. -/
theorem intact_of_build [Zero K] [LT K] [DecidableLT K] [LE K] [DecidableLE K] [ScalarFunctions K]
    {id : Nat} {problem : σ} {settings : Settings K} (held : states problem)
    (built : build (ε := ε) id problem settings = .ok engine) : engine.Intact states := by
  obtain ⟨_, dimensions, reported, rfl⟩ := build_eq_ok_iff.mp built
  obtain ⟨rfl, _⟩ := reportedDimensions_eq_ok_iff.mp reported
  exact ⟨held, rfl, Scratch.fits_zeros _⟩

/-- After a reset the engine is intact, if the problem still reports its dimensions. -/
theorem Intact.afterReset (intact : engine.Intact states) (event : Event K)
    {answer : σ × Except ε Unit} (held : states answer.1)
    (same : Problem.dimensions answer.1 = engine.dimensions) :
    (engine.afterReset event answer).engine.Intact states := by
  obtain ⟨problem, accepted⟩ := answer
  cases accepted <;> exact ⟨held, same, intact.scratch⟩

/-- After a reset the engine is intact or estranged. -/
theorem Intact.afterReset_cases (intact : engine.Intact states) (event : Event K)
    {answer : σ × Except ε Unit} (held : states answer.1) :
    (engine.afterReset event answer).engine.Intact states ∨
      (engine.afterReset event answer).engine.Estranged := by
  by_cases same : Problem.dimensions answer.1 = engine.dimensions
  · exact Or.inl (intact.afterReset event held same)
  · obtain ⟨problem, accepted⟩ := answer
    right
    cases accepted <;> exact same

variable [Zero K] [One K] [Add K] [Sub K] [Mul K] [Div K] [Neg K] [ScalarFunctions K]

/-- **Engines over a lawful problem operate.** A call either refuses its operands, or hands the
problem arguments that fit. -/
theorem operates_of_lawful (lawful : Problem.Lawful states) :
    Operates (σ := σ) (Intact states) Estranged where
  optimalityNorm engine intact sample trajectories := by
    cases admitted : engine.admitPoint (ε := ε) sample trajectories with
    | error cause =>
      rw [optimalityNorm_of_error admitted]
      exact succeeds_ok intact
    | ok _ =>
      refine (optimalityNorm_returns (intact.able lawful) admitted).mono ?_
      rintro outcome ⟨_, storing, _⟩
      exact intact.of_storing storing
  prepare engine intact workspace sample trajectories prior out fits := by
    cases admitted : engine.admitPreparation (ε := ε) workspace sample trajectories prior out with
    | error cause =>
      rw [prepare_of_error admitted]
      exact succeeds_ok ⟨intact, nofun⟩
    | ok _ =>
      have own := (admitPreparation_eq_ok_iff.mp admitted).1
      refine (prepare_returns (intact.able lawful) admitted (fits own)).mono ?_
      rintro outcome ⟨step, storing, _, result, _, _, stepFits, _⟩
      refine ⟨(intact.withSequence _).of_storing storing, fun other made => ?_⟩
      rw [result] at made
      cases made
      exact stepFits
  multiply engine intact step decision direction out fits := by
    cases admitted : engine.admitProduct (ε := ε) step decision direction out with
    | error cause =>
      rw [multiply_of_error admitted]
      exact succeeds_ok intact
    | ok _ =>
      have own := (admitProduct_eq_ok_iff.mp admitted).1.1
      refine (multiply_returns (intact.able lawful) admitted (fits own)).mono ?_
      rintro outcome ⟨storing, _⟩
      exact intact.of_storing storing
  advance engine intact step decision direction trajectories elapsed fits := by
    cases admitted : engine.admitAdvance (ε := ε) step decision direction trajectories with
    | error cause =>
      rw [advance_of_error elapsed admitted]
      exact succeeds_ok intact
    | ok _ =>
      have own := (admitAdvance_eq_ok_iff.mp admitted).1.1
      refine (advance_returns (intact.able lawful) elapsed admitted (fits own)).mono ?_
      rintro outcome ⟨storing, _⟩
      exact intact.of_storing storing
  reset engine intact horizon :=
    intact.afterReset_cases _ (lawful.reset engine.problem horizon intact.problem)
  moveOrigin engine intact origin :=
    intact.afterReset_cases _ (lawful.moveOrigin engine.problem origin intact.problem)

/-- If the problem is rigid, nothing spoils its engines. -/
theorem operates_of_rigid (lawful : Problem.Lawful states) (rigid : Problem.Rigid states) :
    Operates (σ := σ) (Intact states) fun _ => False :=
  { operates_of_lawful lawful with
    reset := fun engine intact horizon => Or.inl <|
      intact.afterReset _ (lawful.reset engine.problem horizon intact.problem)
        ((rigid.reset engine.problem horizon intact.problem).trans intact.dimensions)
    moveOrigin := fun engine intact origin => Or.inl <|
      intact.afterReset _ (lawful.moveOrigin engine.problem origin intact.problem)
        ((rigid.moveOrigin engine.problem origin intact.problem).trans intact.dimensions) }

end Lawful

end Tracking.Engine

namespace Session

/-! ### The invariant -/

section Keeps

/-- Storage of an engine is kept: its engine has been given out, and if it is not lost the storage
has the shapes of its dimensions. -/
structure Stored (next : Nat) (lost : Nat → Prop) (shapes : Nat → Dimensions) (engine : Nat)
    (buffers : Buffers K) : Prop where
  below : engine < next
  fits : ¬lost engine → buffers.Fits (shapes engine)

/-- **What a session keeps.** Every engine has the dimensions of its identity, and works unless its
identity is lost. Workspaces and steps fit the engine that they belong to. -/
structure Keeps (session : Session σ K) (works : Engine σ K → Prop) (lost : Nat → Prop)
    (shapes : Nat → Dimensions) : Prop where
  engines : session.engines.All fun engine => engine.id < session.nextEngine ∧
    engine.dimensions = shapes engine.id ∧ (¬lost engine.id → works engine)
  workspaces : session.workspaces.All fun workspace =>
    Stored session.nextEngine lost shapes workspace.engine workspace.buffers
  steps : session.steps.All fun step =>
    Stored session.nextEngine lost shapes step.engine step.buffers

variable {works : Engine σ K → Prop} {lost : Nat → Prop} {shapes : Nat → Dimensions}

theorem keeps_empty : (Session.empty : Session σ K).Keeps works lost shapes :=
  ⟨Registry.all_nil, Registry.all_nil, Registry.all_nil⟩

variable {session : Session σ K} (keeps : session.Keeps works lost shapes) {name : String}
  {engine next : Engine σ K}
include keeps

/-- Storage of an engine fits the engine. -/
theorem Keeps.workspace_fits {held : String} {workspace : Workspace K}
    (found : session.engines.get? name = some engine) (present : ¬lost engine.id)
    (stored : session.workspaces.get? held = some workspace) (own : workspace.engine = engine.id) :
    workspace.buffers.Fits engine.dimensions := by
  rw [(keeps.engines _ _ found).2.1, ← own]
  exact (keeps.workspaces _ _ stored).fits (own ▸ present)

/-- A step of an engine fits the engine. -/
theorem Keeps.step_fits {held : String} {step : Prepared K}
    (found : session.engines.get? name = some engine) (present : ¬lost engine.id)
    (stored : session.steps.get? held = some step) (own : step.engine = engine.id) :
    step.buffers.Fits engine.dimensions := by
  rw [(keeps.engines _ _ found).2.1, ← own]
  exact (keeps.steps _ _ stored).fits (own ▸ present)

/-- More identities may be given up. -/
theorem Keeps.lose (more : Nat → Prop) (implies : ∀ id, lost id → more id) :
    session.Keeps works more shapes := by
  refine ⟨keeps.engines.mono ?_, keeps.workspaces.mono ?_, keeps.steps.mono ?_⟩
  · rintro engine ⟨below, shape, working⟩
    exact ⟨below, shape, fun present => working fun gone => present (implies _ gone)⟩
  · exact fun workspace stored =>
      ⟨stored.below, fun present => stored.fits fun gone => present (implies _ gone)⟩
  · exact fun step stored =>
      ⟨stored.below, fun present => stored.fits fun gone => present (implies _ gone)⟩

/-- An engine goes on. -/
theorem Keeps.putEngine (found : session.engines.get? name = some engine)
    (identity : next.id = engine.id) (dimensions : next.dimensions = engine.dimensions)
    (working : ¬lost engine.id → works next) :
    (session.putEngine name next).Keeps works lost shapes := by
  obtain ⟨below, shape, _⟩ := keeps.engines _ _ found
  refine ⟨keeps.engines.put name ?_, keeps.workspaces, keeps.steps⟩
  rw [identity, dimensions]
  exact ⟨below, shape, working⟩

theorem Keeps.putWorkspace (name : String) {workspace : Workspace K}
    (stored : Stored session.nextEngine lost shapes workspace.engine workspace.buffers) :
    Keeps { session with workspaces := session.workspaces.put name workspace } works lost shapes :=
  ⟨keeps.engines, keeps.workspaces.put name stored, keeps.steps⟩

theorem Keeps.removeWorkspace (name : String) :
    Keeps { session with workspaces := session.workspaces.remove name } works lost shapes :=
  ⟨keeps.engines, keeps.workspaces.remove name, keeps.steps⟩

theorem Keeps.putStep (name : String) {step : Prepared K}
    (stored : Stored session.nextEngine lost shapes step.engine step.buffers) :
    Keeps { session with steps := session.steps.put name step } works lost shapes :=
  ⟨keeps.engines, keeps.workspaces, keeps.steps.put name stored⟩

theorem Keeps.removeStep (name : String) :
    Keeps { session with steps := session.steps.remove name } works lost shapes :=
  ⟨keeps.engines, keeps.workspaces, keeps.steps.remove name⟩

/-- An identity is used up, for an engine of the given dimensions. -/
theorem Keeps.identify (dimensions : Dimensions) :
    Keeps { session with nextEngine := session.nextEngine + 1 } works lost
      (fun id => if id = session.nextEngine then dimensions else shapes id) := by
  have kept : ∀ id, id < session.nextEngine →
      (if id = session.nextEngine then dimensions else shapes id) = shapes id :=
    fun id below => if_neg (Nat.ne_of_lt below)
  have widen : ∀ (id : Nat) (buffers : Buffers K),
      Stored session.nextEngine lost shapes id buffers →
      Stored (session.nextEngine + 1) lost
        (fun id => if id = session.nextEngine then dimensions else shapes id) id buffers := by
    intro id buffers stored
    refine ⟨Nat.lt_succ_of_lt stored.below, ?_⟩
    rw [kept _ stored.below]
    exact stored.fits
  refine ⟨keeps.engines.mono ?_, keeps.workspaces.mono fun _ => widen _ _,
    keeps.steps.mono fun _ => widen _ _⟩
  rintro engine ⟨below, shape, working⟩
  exact ⟨Nat.lt_succ_of_lt below, shape.trans (kept _ below).symm, working⟩

/-- A new engine takes the next identity. -/
theorem Keeps.construct (name : String) (identity : next.id = session.nextEngine)
    (working : ¬lost next.id → works next) :
    ∃ after, (Session.putEngine { session with nextEngine := session.nextEngine + 1 } name
      next).Keeps works lost after := by
  have identified := keeps.identify next.dimensions
  refine ⟨fun id => if id = session.nextEngine then next.dimensions else shapes id,
    identified.engines.put name ⟨?_, ?_, working⟩, identified.workspaces, identified.steps⟩
  · rw [identity]
    exact Nat.lt_succ_self _
  · exact (if_pos identity).symm

end Keeps

end Session

/-! ### Commands -/

/-- The name of the engine whose problem a command has evaluated. -/
def Command.evaluates : Command σ K → Option String
  | .measure name _ _ => some name
  | .prepare name _ _ _ _ _ _ => some name
  | .multiply name _ _ _ _ => some name
  | .advance name _ _ _ _ _ _ => some name
  | _ => none

/-- The problem that a command brings is one of those allowed. -/
def Command.Brings (allowed : σ → Prop) : Command σ K → Prop
  | .construct _ problem _ _ => allowed problem
  | _ => True

namespace Session

variable [Problem σ K ε]

/-- After the command there is a spoilt engine with the identity. -/
def Spoils (spoiled : Engine σ K → Prop) (id : Nat) (_session : Session σ K)
    (_command : Command σ K) (answer : Answer σ K ε) : Prop :=
  ∃ name engine, answer.session.engines.get? name = some engine ∧ engine.id = id ∧ spoiled engine

variable [Zero K] [One K] [Add K] [Sub K] [Mul K] [Div K] [Neg K]
  [LT K] [DecidableLT K] [LE K] [DecidableLE K] [ScalarFunctions K]
  {works spoiled : Engine σ K → Prop} {lost : Nat → Prop} {shapes : Nat → Dimensions}
  {session : Session σ K} (operates : Engine.Operates works spoiled)
include operates

omit operates in
/-- A reset of an engine, after which the engine works or is spoilt. -/
theorem Keeps.answerReset (keeps : session.Keeps works lost shapes) {name : String}
    {engine : Engine σ K} (found : session.engines.get? name = some engine)
    (command : Command σ K) (event : Event K) {accepted : σ × Except ε Unit}
    (ends : works engine → works (engine.afterReset event accepted).engine ∨
      spoiled (engine.afterReset event accepted).engine) :
    (session.answerReset name (engine.afterReset event accepted)).session.Keeps works
      (fun id => lost id ∨ Spoils spoiled id session command
        (session.answerReset name (engine.afterReset event accepted))) shapes := by
  have wide := keeps.lose (fun id => lost id ∨ Spoils spoiled id session command
    (session.answerReset name (engine.afterReset event accepted))) fun _ => Or.inl
  have identity := (Engine.afterReset_frame engine event accepted).1
  refine wide.putEngine found identity (Engine.afterReset_dimensions engine event accepted)
    fun standing => ?_
  rcases ends ((keeps.engines _ _ found).2.2 fun gone => standing (Or.inl gone)) with kept | spoilt
  · exact kept
  -- an engine that is spoilt counts as lost
  · exact absurd (Or.inr ⟨name, _, Registry.get?_put_self _ _ _, identity, spoilt⟩) standing

/-- **No command on an engine that works faults**, and an evaluation leaves its engine working. -/
theorem Keeps.step_returns (keeps : session.Keeps works lost shapes) (command : Command σ K)
    (present : ∀ name, command.evaluates = some name → ∀ engine,
      session.engines.get? name = some engine → ¬lost engine.id) :
    Succeeds (session.step (ε := ε) command) fun answer =>
      ∀ name, command.evaluates = some name → ∀ engine,
        answer.session.engines.get? name = some engine → works engine := by
  have working : ∀ name, command.evaluates = some name → ∀ engine,
      session.engines.get? name = some engine → works engine :=
    fun name calls engine found =>
      (keeps.engines _ _ found).2.2 (present name calls engine found)
  have called : ∀ {name : String} {engine : Engine σ K}, works engine →
      command.evaluates = some name → ∀ other, command.evaluates = some other → ∀ holder,
        (session.engines.put name engine).get? other = some holder → works holder := by
    intro name engine kept calls other same holder held
    rw [calls] at same
    cases same
    rw [Registry.get?_put_self] at held
    cases held
    exact kept
  cases command with
  | measure name sample trajectories =>
    simp only [step]
    split
    · exact succeeds_ok working
    · rename_i engine found
      obtain ⟨outcome, ran, kept⟩ := operates.optimalityNorm engine
        (working name rfl engine found) sample trajectories
      rw [ran]
      exact succeeds_ok (called kept rfl)
  | prepare name workspace target sample trajectories prior out =>
    simp only [step]
    split
    · rename_i engine storage found stored
      obtain ⟨outcome, ran, kept, _⟩ := operates.prepare engine
        (working name rfl engine found) storage sample trajectories prior out
        (keeps.workspace_fits found (present name rfl engine found) stored)
      rw [ran]
      refine succeeds_ok ?_
      cases outcome.result <;> exact called kept rfl
    · exact succeeds_ok working
  | multiply name source decision direction out =>
    simp only [step]
    split
    · rename_i engine prepared found held
      obtain ⟨outcome, ran, kept⟩ := operates.multiply engine
        (working name rfl engine found) prepared decision direction out
        (keeps.step_fits found (present name rfl engine found) held)
      rw [ran]
      exact succeeds_ok (called kept rfl)
    · exact succeeds_ok working
  | advance name source workspace decision direction trajectories elapsed =>
    simp only [step]
    split
    · rename_i engine prepared found held
      obtain ⟨outcome, ran, kept⟩ := operates.advance engine
        (working name rfl engine found) prepared decision direction trajectories elapsed
        (keeps.step_fits found (present name rfl engine found) held)
      rw [ran]
      refine succeeds_ok ?_
      cases outcome.result <;> exact called kept rfl
    · exact succeeds_ok working
  | construct => exact succeeds_ok fun _ calls => by cases calls
  | allocate | reset | moveOrigin | release | copyStep | copyWorkspace =>
    simp only [step]
    split <;> exact succeeds_ok fun _ calls => by cases calls

variable {allowed : σ → Prop}
  (new : ∀ (id : Nat) (problem : σ) (settings : Tracking.Settings K) (engine : Engine σ K),
    allowed problem → Engine.build (ε := ε) id problem settings = .ok engine → works engine)
include new

/-- The construction of an engine. -/
theorem Keeps.constructed (keeps : session.Keeps works lost shapes) (name : String) {problem : σ}
    (brought : allowed problem) (settings : Tracking.Settings K)
    (horizon : Option (Horizon.Settings K)) :
    ∃ after, (session.construct (ε := ε) name problem settings horizon).session.Keeps works
      (fun id => lost id ∨ Spoils spoiled id session (.construct name problem settings horizon)
        (session.construct (ε := ε) name problem settings horizon)) after := by
  have wide := keeps.lose
    (fun id => lost id ∨ Spoils spoiled id session (.construct name problem settings horizon)
      (session.construct (ε := ε) name problem settings horizon)) fun _ => Or.inl
  revert wide
  unfold Session.construct
  cases built : Engine.build (ε := ε) session.nextEngine problem settings with
  | error cause => exact fun wide => ⟨shapes, wide⟩
  | ok engine =>
    have working := new _ _ _ _ brought built
    have identity : engine.id = session.nextEngine := Engine.id_of_build built
    cases horizon with
    | none => exact fun wide => wide.construct name identity fun _ => working
    | some horizon =>
      simp only
      cases reached : (engine.reset horizon).result with
      | error cause => exact fun wide => ⟨_, wide.identify engine.dimensions⟩
      | ok _ =>
        intro wide
        have same : (engine.reset horizon).engine.id = engine.id :=
          (Engine.afterReset_frame engine _ _).1
        refine wide.construct name (same.trans identity) fun standing => ?_
        rcases operates.reset engine working horizon with kept | spoilt
        · exact kept
        · exact absurd (Or.inr ⟨name, _, Registry.get?_put_self _ _ _, rfl, spoilt⟩) standing

/-- **Every command keeps what is kept**, up to the engines that it spoils. -/
theorem Keeps.step (keeps : session.Keeps works lost shapes) {command : Command σ K}
    (brings : command.Brings allowed) {answer : Answer σ K ε}
    (ran : session.step command = .ok answer) :
    ∃ after, answer.session.Keeps works
      (fun id => lost id ∨ Spoils spoiled id session command answer) after := by
  have wide := keeps.lose (fun id => lost id ∨ Spoils spoiled id session command answer)
    fun _ => Or.inl
  have working : ∀ name engine, session.engines.get? name = some engine →
      ¬(lost engine.id ∨ Spoils spoiled engine.id session command answer) → works engine :=
    fun name engine found standing =>
      (keeps.engines _ _ found).2.2 fun gone => standing (Or.inl gone)
  cases carries_of_step ran with
  | unknown => exact ⟨shapes, wide⟩
  | constructed name problem settings horizon =>
    exact keeps.constructed operates new name brings settings horizon
  | allocated workspace found =>
    obtain ⟨below, shape, _⟩ := keeps.engines _ _ found
    exact ⟨shapes, wide.putWorkspace workspace ⟨below, fun _ => shape ▸ Buffers.fits_zeros _⟩⟩
  | measured found called =>
    have continues := Engine.optimalityNorm_continues called
    refine ⟨shapes, wide.putEngine found continues.id continues.dimensions fun standing => ?_⟩
    exact (operates.optimalityNorm _ (working _ _ found standing) _ _).of_ok called
  | unprepared found stored called _ same =>
    have kept := wide.putEngine found (congrArg Engine.id same) (congrArg Engine.dimensions same)
      fun standing => ((operates.prepare _ (working _ _ found standing) _ _ _ _ _
        (wide.workspace_fits found standing stored)).of_ok called).1
    exact ⟨shapes, kept.removeWorkspace _⟩
  | prepared found stored called made owner continues =>
    obtain ⟨below, shape, _⟩ := keeps.engines _ _ found
    have kept := wide.putEngine found continues.id continues.dimensions fun standing =>
      ((operates.prepare _ (working _ _ found standing) _ _ _ _ _
        (wide.workspace_fits found standing stored)).of_ok called).1
    refine ⟨shapes, (kept.removeWorkspace _).putStep _ ⟨?_, fun standing => ?_⟩⟩
    · rw [owner]
      exact below
    · rw [owner] at standing ⊢
      rw [← shape]
      exact ((operates.prepare _ (working _ _ found standing) _ _ _ _ _
        (wide.workspace_fits found standing stored)).of_ok called).2 _ made
  | multiplied found held called =>
    have continues := Engine.multiply_continues called
    refine ⟨shapes, wide.putEngine found continues.id continues.dimensions fun standing => ?_⟩
    exact (operates.multiply _ (working _ _ found standing) _ _ _ _
      (wide.step_fits found standing held)).of_ok called
  | unadvanced found held called =>
    have continues := Engine.advance_continues called
    have kept := wide.putEngine found continues.id continues.dimensions fun standing =>
      (operates.advance _ (working _ _ found standing) _ _ _ _ _
        (wide.step_fits found standing held)).of_ok called
    exact ⟨shapes, kept.removeStep _⟩
  | advanced found held called =>
    have continues := Engine.advance_continues called
    have kept := wide.putEngine found continues.id continues.dimensions fun standing =>
      (operates.advance _ (working _ _ found standing) _ _ _ _ _
        (wide.step_fits found standing held)).of_ok called
    exact ⟨shapes, (kept.removeStep _).putWorkspace _ (wide.steps _ _ held)⟩
  | reset horizon found =>
    exact ⟨shapes, keeps.answerReset found _ _ fun working => operates.reset _ working horizon⟩
  | moved origin found =>
    exact ⟨shapes, keeps.answerReset found _ _ fun working => operates.moveOrigin _ working origin⟩
  | released workspace held =>
    exact ⟨shapes, (wide.removeStep _).putWorkspace workspace (wide.steps _ _ held)⟩
  | stepCopied target held => exact ⟨shapes, wide.putStep target (wide.steps _ _ held)⟩
  | workspaceCopied target stored =>
    exact ⟨shapes, wide.putWorkspace target (wide.workspaces _ _ stored)⟩

/-- **Every run keeps what is kept**, up to the engines that it spoils. -/
theorem Keeps.run (keeps : session.Keeps works lost shapes) {commands : List (Command σ K)}
    {final : Session σ K} {answers : List (Answer σ K ε)}
    (brings : ∀ command ∈ commands, command.Brings allowed)
    (ran : session.run commands = .ok (final, answers)) :
    ∃ after, final.Keeps works
      (fun id => lost id ∨ Meets (ε := ε) (Spoils spoiled id) session commands) after := by
  induction commands generalizing session answers lost shapes with
  | nil =>
    cases ran
    exact ⟨shapes, keeps.lose _ fun _ => Or.inl⟩
  | cons command commands hypothesis =>
    obtain ⟨answer, rest, stepped, went, _⟩ := run_cons_eq_ok_iff.mp ran
    obtain ⟨middle, kept⟩ :=
      keeps.step operates new (brings command List.mem_cons_self) stepped
    obtain ⟨after, final⟩ :=
      hypothesis kept (fun later inRest => brings later (List.mem_cons_of_mem _ inRest)) went
    refine ⟨after, final.lose _ fun id gone => ?_⟩
    rwa [meets_cons_iff stepped, ← or_assoc]

/-! ### Engines at work -/

omit operates new

/-- **The engine under the name is at work.** Commands that bring problems in `states` have led from
the empty session to this one, and at no point of the run has the engine been estranged from its
problem. What has become of other engines does not matter. -/
structure Employs (states : σ → Prop) (session : Session σ K) (name : String)
    (engine : Engine σ K) : Prop where
  reached : ∃ (commands : List (Command σ K)) (answers : List (Answer σ K ε)),
    (∀ command ∈ commands, command.Brings states) ∧
      Session.empty.run commands = .ok (session, answers) ∧
      ¬Meets (ε := ε) (Spoils Engine.Estranged engine.id) Session.empty commands
  found : session.engines.get? name = some engine

variable {states : σ → Prop} (lawful : Problem.Lawful states) {name : String}
  {engine : Engine σ K}
include lawful

/-- No engine over a rigid problem is ever estranged. -/
theorem not_meets_estranged (rigid : Problem.Rigid states) {commands : List (Command σ K)}
    (keeps : session.Keeps (Engine.Intact states) (fun _ => False) shapes)
    (brings : ∀ command ∈ commands, command.Brings states) (id : Nat) :
    ¬Meets (ε := ε) (Spoils Engine.Estranged id) session commands := by
  induction commands generalizing session shapes with
  | nil => exact not_false
  | cons command commands hypothesis =>
    rintro ⟨answer, ran, met⟩
    obtain ⟨after, kept⟩ := keeps.step (Engine.operates_of_rigid lawful rigid)
      (fun _ _ _ _ => Engine.intact_of_build) (brings command List.mem_cons_self) ran
    have unspoiled := kept.lose (fun _ => False) fun _ gone =>
      gone.elim False.elim fun ⟨_, _, _, _, spoiled⟩ => spoiled
    rcases met with ⟨name, engine, found, _, estranged⟩ | later
    · exact estranged ((unspoiled.engines _ _ found).2.2 not_false).dimensions
    · exact hypothesis unspoiled
        (fun next inRest => brings next (List.mem_cons_of_mem _ inRest)) later

/-- Every engine over a rigid problem is at work. -/
theorem employs_of_rigid (rigid : Problem.Rigid states) {commands : List (Command σ K)}
    {answers : List (Answer σ K ε)} (brings : ∀ command ∈ commands, command.Brings states)
    (ran : Session.empty.run commands = .ok (session, answers))
    (found : session.engines.get? name = some engine) : session.Employs states name engine := by
  have start : Session.empty.Keeps (Engine.Intact states) (fun _ => False) fun _ => default :=
    keeps_empty
  exact ⟨⟨commands, answers, brings, ran,
    not_meets_estranged lawful rigid start brings engine.id⟩, found⟩

variable (employs : session.Employs states name engine)
include employs

/-- A session keeps what it keeps for an engine at work. -/
theorem Employs.keeps : ∃ lost after,
    session.Keeps (Engine.Intact states) lost after ∧ ¬lost engine.id := by
  obtain ⟨commands, answers, brings, ran, never⟩ := employs.reached
  have start : Session.empty.Keeps (Engine.Intact states) (fun _ => False) fun _ => default :=
    keeps_empty
  obtain ⟨after, kept⟩ := start.run (Engine.operates_of_lawful lawful)
    (fun _ _ _ _ => Engine.intact_of_build) brings ran
  exact ⟨_, after, kept, fun gone => never (gone.resolve_left not_false)⟩

theorem Employs.intact : engine.Intact states := by
  obtain ⟨lost, after, keeps, present⟩ := employs.keeps lawful
  exact (keeps.engines _ _ employs.found).2.2 present

theorem Employs.workspace_fits {held : String} {workspace : Workspace K}
    (stored : session.workspaces.get? held = some workspace)
    (own : workspace.engine = engine.id) : workspace.buffers.Fits engine.dimensions := by
  obtain ⟨lost, after, keeps, present⟩ := employs.keeps lawful
  exact keeps.workspace_fits employs.found present stored own

theorem Employs.step_fits {held : String} {step : Prepared K}
    (stored : session.steps.get? held = some step) (own : step.engine = engine.id) :
    step.buffers.Fits engine.dimensions := by
  obtain ⟨lost, after, keeps, present⟩ := employs.keeps lawful
  exact keeps.step_fits employs.found present stored own

/-- **No command on an engine at work faults**, and an evaluation leaves it intact. -/
theorem Employs.step_returns {command : Command σ K} (calls : command.evaluates = some name) :
    Succeeds (session.step (ε := ε) command) fun answer =>
      ∀ next, answer.session.engines.get? name = some next → next.Intact states := by
  obtain ⟨lost, after, keeps, present⟩ := employs.keeps lawful
  refine (keeps.step_returns (Engine.operates_of_lawful lawful) command ?_).mono
    fun answer intact => intact name calls
  intro other same holder held
  rw [calls] at same
  cases same
  rw [employs.found] at held
  cases held
  exact present

end Session

end RecedingHorizon
