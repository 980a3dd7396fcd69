/-
**What an implementation of the interface owes its callers.**

The interface of a problem leaves its evaluations open, be they nonlinear, and with storage of their
own. What callers rely on is this: on arguments of the shapes that go with its dimensions an
evaluation returns, what it returns has the shape of the storage it was given, and the dimensions
stay as they are.

* `Serves`: evaluations return values of the right shapes, with what is known of them besides;
* `Problem.Lawful` is the promise of the interface, for a class of problems, and `Problem.Rigid` is
  what many problems keep to besides: resets that do not change the dimensions;
* `Problem.Functional` is that of problems whose evaluations are functions of their arguments;
* `Watched` records whether all arguments that a problem is handed have the shapes of the dimensions
  that it reports at that moment. Watching a lawful problem gives a lawful problem.
-/

import RecedingHorizon.Proofs.Evaluations

set_option linter.unusedSectionVars false

namespace RecedingHorizon

universe u

variable {σ K ε : Type u}

/-! ### Evaluations that return -/

/-- What is known of the values of the evaluations, given their arguments. -/
structure Relations (K : Type u) where
  predict : Sample K → K → Vec K → Prop
  stationarity : Sample K → Trajectories K → Vec K → Prop
  defects : Sample K → Trajectories K → Trajectories K → Prop
  rebuild : Sample K → Trajectories K → Trajectories K → Prop

/-- Nothing is known. -/
def Relations.any : Relations K where
  predict _ _ _ := True
  stationarity _ _ _ := True
  defects _ _ _ := True
  rebuild _ _ _ := True

/-- The values are those of functions. -/
def Evaluations.relations (evaluations : Evaluations K) : Relations K where
  predict sample elapsed value := value = evaluations.predict sample elapsed
  stationarity sample trajectories value := value = evaluations.stationarity sample trajectories
  defects sample trajectories value := value = evaluations.defects sample trajectories
  rebuild sample targets value := value = evaluations.rebuild sample targets

/-- On arguments that fit the dimensions, every evaluation of the problem returns. It leaves a
problem in `after`, and its value fits the dimensions and is related to the arguments. -/
structure Serves [Problem σ K ε] (problem : σ) (dimensions : Dimensions)
    (relations : Relations K) (after : σ → Prop) : Prop where
  predict : ∀ (sample : Sample K) (elapsed : K) (out : Vec K),
    sample.Fits dimensions → out.size = dimensions.state →
    Succeeds (Problem.predict problem sample elapsed out) fun reached =>
      after reached.1 ∧ reached.2.size = dimensions.state ∧
        relations.predict sample elapsed reached.2
  stationarity : ∀ (sample : Sample K) (trajectories : Trajectories K) (out : Vec K),
    sample.Fits dimensions → trajectories.Fits dimensions → out.size = dimensions.decisionSize →
    Succeeds (Problem.stationarity problem sample trajectories out) fun reached =>
      after reached.1 ∧ reached.2.size = dimensions.decisionSize ∧
        relations.stationarity sample trajectories reached.2
  defects : ∀ (sample : Sample K) (trajectories out : Trajectories K),
    sample.Fits dimensions → trajectories.Fits dimensions → out.Fits dimensions →
    Succeeds (Problem.defects problem sample trajectories out) fun reached =>
      after reached.1 ∧ reached.2.Fits dimensions ∧
        relations.defects sample trajectories reached.2
  rebuild : ∀ (sample : Sample K) (targets out : Trajectories K),
    sample.Fits dimensions → targets.Fits dimensions → out.Fits dimensions →
    Succeeds (Problem.rebuild problem sample targets out) fun reached =>
      after reached.1 ∧ reached.2.Fits dimensions ∧ relations.rebuild sample targets reached.2

section Serves

variable [Problem σ K ε] {problem : σ} {dimensions : Dimensions} {relations : Relations K}
  {after : σ → Prop}

theorem Serves.mono {weaker : σ → Prop} (serves : Serves problem dimensions relations after)
    (implies : ∀ next, after next → weaker next) :
    Serves problem dimensions relations weaker where
  predict sample elapsed out fits room :=
    (serves.predict sample elapsed out fits room).mono fun _ ⟨next, known⟩ =>
      ⟨implies _ next, known⟩
  stationarity sample trajectories out sampleFits fits room :=
    (serves.stationarity sample trajectories out sampleFits fits room).mono
      fun _ ⟨next, known⟩ => ⟨implies _ next, known⟩
  defects sample trajectories out sampleFits fits room :=
    (serves.defects sample trajectories out sampleFits fits room).mono
      fun _ ⟨next, known⟩ => ⟨implies _ next, known⟩
  rebuild sample targets out sampleFits fits room :=
    (serves.rebuild sample targets out sampleFits fits room).mono
      fun _ ⟨next, known⟩ => ⟨implies _ next, known⟩

/-- What is known of the values may be forgotten. -/
theorem Serves.forget (serves : Serves problem dimensions relations after) :
    Serves problem dimensions .any after where
  predict sample elapsed out fits room :=
    (serves.predict sample elapsed out fits room).mono fun _ ⟨next, size, _⟩ =>
      ⟨next, size, trivial⟩
  stationarity sample trajectories out sampleFits fits room :=
    (serves.stationarity sample trajectories out sampleFits fits room).mono
      fun _ ⟨next, size, _⟩ => ⟨next, size, trivial⟩
  defects sample trajectories out sampleFits fits room :=
    (serves.defects sample trajectories out sampleFits fits room).mono
      fun _ ⟨next, fits, _⟩ => ⟨next, fits, trivial⟩
  rebuild sample targets out sampleFits fits room :=
    (serves.rebuild sample targets out sampleFits fits room).mono
      fun _ ⟨next, fits, _⟩ => ⟨next, fits, trivial⟩

/-- Evaluations without history return the values of their functions. -/
theorem Evaluates.serves {evaluations : Evaluations K} {states : σ → Prop}
    (total : Evaluates evaluations states) (held : states problem) :
    Serves problem evaluations.dimensions evaluations.relations states where
  predict sample elapsed out fits room := by
    obtain ⟨next, ran, kept⟩ := total.predict problem sample elapsed out held fits room
    exact ⟨_, ran, kept, total.size_predict sample elapsed fits, rfl⟩
  stationarity sample trajectories out sampleFits fits room := by
    obtain ⟨next, ran, kept⟩ :=
      total.stationarity problem sample trajectories out held sampleFits fits room
    exact ⟨_, ran, kept, total.size_stationarity sample trajectories sampleFits fits, rfl⟩
  defects sample trajectories out sampleFits fits room := by
    obtain ⟨next, ran, kept⟩ :=
      total.defects problem sample trajectories out held sampleFits fits room
    exact ⟨_, ran, kept, total.fits_defects sample trajectories sampleFits fits, rfl⟩
  rebuild sample targets out sampleFits fits room := by
    obtain ⟨next, ran, kept⟩ := total.rebuild problem sample targets out held sampleFits fits room
    exact ⟨_, ran, kept, total.fits_rebuild sample targets sampleFits fits, rfl⟩

end Serves

/-! ### The promise of the interface -/

namespace Problem

/-- **Lawful problems.** The evaluations of a problem in `states` return on arguments that fit the
dimensions it reports, and do not change these dimensions. A reset may change them, accepted or
not, but stays in `states`. -/
structure Lawful [Problem σ K ε] (states : σ → Prop) : Prop where
  serves : ∀ problem, states problem → Serves problem (dimensions problem) .any fun next =>
    states next ∧ dimensions next = dimensions problem
  reset : ∀ problem (horizon : Horizon.Settings K), states problem →
    states (reset problem horizon).1
  moveOrigin : ∀ problem (origin : K), states problem → states (moveOrigin problem origin).1

/-- **Rigid problems.** No reset of a problem in `states` changes the dimensions it reports. -/
structure Rigid [Problem σ K ε] (states : σ → Prop) : Prop where
  reset : ∀ problem (horizon : Horizon.Settings K), states problem →
    dimensions (reset problem horizon).1 = dimensions problem
  moveOrigin : ∀ problem (origin : K), states problem →
    dimensions (moveOrigin problem origin).1 = dimensions problem

/-- **Functional problems.** The evaluations of a problem in `states` are the functions `values` of
their arguments, which they do not change. A reset may change them. -/
structure Functional [Problem σ K ε] (values : σ → Evaluations K) (states : σ → Prop) : Prop where
  dimensions : ∀ problem, states problem → dimensions problem = (values problem).dimensions
  serves : ∀ problem, states problem →
    Serves problem (values problem).dimensions (values problem).relations fun next =>
      states next ∧ values next = values problem
  reset : ∀ problem (horizon : Horizon.Settings K), states problem →
    states (reset problem horizon).1
  moveOrigin : ∀ problem (origin : K), states problem → states (moveOrigin problem origin).1

namespace Functional

variable [Problem σ K ε] {values : σ → Evaluations K} {states : σ → Prop}
  (functional : Functional values states)
include functional

/-- Functional problems keep the promise of the interface. -/
theorem lawful : Lawful states where
  serves problem held := by
    have same := functional.dimensions problem held
    rw [same]
    refine (functional.serves problem held).forget.mono ?_
    rintro next ⟨kept, fixed⟩
    exact ⟨kept, (functional.dimensions next kept).trans (congrArg Evaluations.dimensions fixed)⟩
  reset := functional.reset
  moveOrigin := functional.moveOrigin

/-- The problems with the functions of one problem evaluate to these. -/
theorem evaluates [Zero K] {problem : σ} (held : states problem) :
    Evaluates (values problem) fun next => states next ∧ values next = values problem := by
  have serves : ∀ other, states other ∧ values other = values problem →
      Serves other (values problem).dimensions (values problem).relations fun next =>
        states next ∧ values next = values problem := by
    rintro other ⟨heldOther, same⟩
    rw [← same]
    exact functional.serves other heldOther
  have own := serves problem ⟨held, rfl⟩
  constructor
  · rintro other ⟨heldOther, same⟩
    rw [functional.dimensions other heldOther, same]
  · intro other sample elapsed out member fits room
    obtain ⟨⟨next, _⟩, ran, kept, _, rfl⟩ := (serves other member).predict sample elapsed out
      fits room
    exact ⟨next, ran, kept⟩
  · intro sample elapsed fits
    obtain ⟨⟨_, _⟩, _, _, size, rfl⟩ := own.predict sample elapsed (Vec.zeros _) fits
      (Vec.size_zeros _)
    exact size
  · intro other sample trajectories out member sampleFits fits room
    obtain ⟨⟨next, _⟩, ran, kept, _, rfl⟩ := (serves other member).stationarity sample
      trajectories out sampleFits fits room
    exact ⟨next, ran, kept⟩
  · intro sample trajectories sampleFits fits
    obtain ⟨⟨_, _⟩, _, _, size, rfl⟩ := own.stationarity sample trajectories (Vec.zeros _)
      sampleFits fits (Vec.size_zeros _)
    exact size
  · intro other sample trajectories out member sampleFits fits room
    obtain ⟨⟨next, _⟩, ran, kept, _, rfl⟩ := (serves other member).defects sample
      trajectories out sampleFits fits room
    exact ⟨next, ran, kept⟩
  · intro sample trajectories sampleFits fits
    obtain ⟨⟨_, _⟩, _, _, valueFits, rfl⟩ := own.defects sample trajectories _ sampleFits fits fits
    exact valueFits
  · intro other sample targets out member sampleFits fits room
    obtain ⟨⟨next, _⟩, ran, kept, _, rfl⟩ := (serves other member).rebuild sample
      targets out sampleFits fits room
    exact ⟨next, ran, kept⟩
  · intro sample targets sampleFits fits
    obtain ⟨⟨_, _⟩, _, _, valueFits, rfl⟩ := own.rebuild sample targets _ sampleFits fits fits
    exact valueFits

end Functional

end Problem

/-! ### Problems that are watched -/

instance (sample : Sample K) (dimensions : Dimensions) : Decidable (sample.Fits dimensions) :=
  decidable_of_iff
    (sample.state.size = dimensions.state ∧ sample.decision.size = dimensions.decisionSize)
    ⟨fun fits => ⟨fits.1, fits.2⟩, fun fits => ⟨fits.state, fits.decision⟩⟩

instance (trajectories : Trajectories K) (dimensions : Dimensions) :
    Decidable (trajectories.Fits dimensions) :=
  decidable_of_iff
    (trajectories.state.shape = dimensions.trajectory ∧
      trajectories.costate.shape = dimensions.trajectory)
    ⟨fun fits => ⟨fits.1, fits.2⟩, fun fits => ⟨fits.state, fits.costate⟩⟩

/-- A problem that is watched by a record of what it has been handed. -/
structure Watched (σ : Type u) where
  problem : σ
  /-- So far, every argument of an evaluation fitted the dimensions that the problem reported. -/
  fitting : Bool

namespace Watched

/-- The result of an evaluation whose arguments fitted or did not. -/
def record {α : Type u} (watched : Watched σ) (fits : Bool) (result : Checked (σ × α)) :
    Checked (Watched σ × α) :=
  result.map fun (problem, value) => ({ problem, fitting := watched.fitting && fits }, value)

/-- The evaluations of a watched problem are those of the problem, whatever its arguments. -/
instance problemWatched [Problem σ K ε] : Problem (Watched σ) K ε where
  dimensions watched := Problem.dimensions watched.problem
  predict watched sample elapsed out :=
    let dimensions := Problem.dimensions watched.problem
    watched.record (sample.Fits dimensions ∧ out.size = dimensions.state)
      (Problem.predict watched.problem sample elapsed out)
  stationarity watched sample trajectories out :=
    let dimensions := Problem.dimensions watched.problem
    watched.record (sample.Fits dimensions ∧ trajectories.Fits dimensions ∧
        out.size = dimensions.decisionSize)
      (Problem.stationarity watched.problem sample trajectories out)
  defects watched sample trajectories out :=
    let dimensions := Problem.dimensions watched.problem
    watched.record (sample.Fits dimensions ∧ trajectories.Fits dimensions ∧ out.Fits dimensions)
      (Problem.defects watched.problem sample trajectories out)
  rebuild watched sample targets out :=
    let dimensions := Problem.dimensions watched.problem
    watched.record (sample.Fits dimensions ∧ targets.Fits dimensions ∧ out.Fits dimensions)
      (Problem.rebuild watched.problem sample targets out)
  reset watched horizon :=
    let (problem, accepted) := Problem.reset watched.problem horizon
    ({ watched with problem }, accepted)
  moveOrigin watched origin :=
    let (problem, accepted) := Problem.moveOrigin watched.problem origin
    ({ watched with problem }, accepted)

/-- The watched problem is in `states`, and nothing that it has been handed did not fit. -/
def Content (states : σ → Prop) (watched : Watched σ) : Prop :=
  states watched.problem ∧ watched.fitting = true

variable [Problem σ K ε] {states : σ → Prop}

/-- An evaluation whose arguments fit goes on record as such. -/
theorem succeeds_record {α : Type u} {watched : Watched σ} {fits : Prop} [Decidable fits]
    {result : Checked (σ × α)} {holds : σ × α → Prop} (fitting : watched.fitting = true)
    (given : fits) (ran : Succeeds result holds) :
    Succeeds (watched.record fits result) fun reached =>
      holds (reached.1.problem, reached.2) ∧ reached.1.fitting = true := by
  obtain ⟨⟨next, value⟩, rfl, held⟩ := ran
  exact ⟨_, rfl, held, Bool.and_eq_true_iff.mpr ⟨fitting, decide_eq_true given⟩⟩

/-- **Watching a lawful problem gives a lawful problem.** As long as the arguments fit, that is what
the record says. -/
theorem lawful (inner : Problem.Lawful states) : Problem.Lawful (Content states) where
  serves watched content := by
    obtain ⟨held, fitting⟩ := content
    have serves := inner.serves watched.problem held
    constructor
    · intro sample elapsed out fits room
      refine (succeeds_record fitting (And.intro fits room)
        (serves.predict sample elapsed out fits room)).mono ?_
      rintro reached ⟨⟨⟨kept, same⟩, known⟩, still⟩
      exact ⟨⟨⟨kept, still⟩, same⟩, known⟩
    · intro sample trajectories out sampleFits fits room
      refine (succeeds_record fitting (And.intro sampleFits (And.intro fits room))
        (serves.stationarity sample trajectories out sampleFits fits room)).mono ?_
      rintro reached ⟨⟨⟨kept, same⟩, known⟩, still⟩
      exact ⟨⟨⟨kept, still⟩, same⟩, known⟩
    · intro sample trajectories out sampleFits fits room
      refine (succeeds_record fitting (And.intro sampleFits (And.intro fits room))
        (serves.defects sample trajectories out sampleFits fits room)).mono ?_
      rintro reached ⟨⟨⟨kept, same⟩, known⟩, still⟩
      exact ⟨⟨⟨kept, still⟩, same⟩, known⟩
    · intro sample targets out sampleFits fits room
      refine (succeeds_record fitting (And.intro sampleFits (And.intro fits room))
        (serves.rebuild sample targets out sampleFits fits room)).mono ?_
      rintro reached ⟨⟨⟨kept, same⟩, known⟩, still⟩
      exact ⟨⟨⟨kept, still⟩, same⟩, known⟩
  reset watched horizon content := ⟨inner.reset watched.problem horizon content.1, content.2⟩
  moveOrigin watched origin content :=
    ⟨inner.moveOrigin watched.problem origin content.1, content.2⟩

theorem rigid (inner : Problem.Rigid states) : Problem.Rigid (Content states) where
  reset watched horizon content := inner.reset watched.problem horizon content.1
  moveOrigin watched origin content := inner.moveOrigin watched.problem origin content.1

end Watched

end RecedingHorizon
