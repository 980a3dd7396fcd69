/-
**No run over a regulator goes wrong.**

Whatever the commands are and whatever operands they bring, a session over regulators that the
constructors accepted faults nowhere: every row and every block that is asked for is there, and
every copy and every product of whole operands finds sizes that match. Only the copy of a row into
a vector or back takes what fits and does not fault for the rest. There the sizes match because all
that a session keeps is in the shapes of its engine, which no run changes. The same holds of a start
and of shooting. In exact arithmetic nothing is divided by zero, so that a division may give
anything there.

* `Session.run_sound`: a run faults nowhere and keeps the session sound;
* `never_faults` is the statement for runs, for starts and for shooting, with the shapes that they
  leave.
-/

import RecedingHorizon.Proofs.Regulator.Assembly
import RecedingHorizon.Proofs.Regulator.Division
import RecedingHorizon.Proofs.Regulator.Shooting
import RecedingHorizon.Proofs.Session.Division
import RecedingHorizon.Proofs.Session.Soundness

set_option linter.unusedSectionVars false

namespace RecedingHorizon.Session

open Tracking Regulator

universe u v

/-! ### Runs -/

section Runs

variable {K : Type u} [Zero K] [One K] [Add K] [Sub K] [Mul K] [Div K] [Neg K] [BEq K] [NatCast K]
  [LT K] [DecidableLT K] [LE K] [DecidableLE K] [ScalarFunctions K]

/-- **A run faults nowhere**, and it keeps the session sound. -/
theorem run_sound {session : Session (Regulator K) K} (sound : session.Sound)
    {commands : List (Command (Regulator K) K)} (proper : ∀ command ∈ commands, Proper command) :
    ∃ result, session.run (ε := Horizon.Invalid K) commands = .ok result ∧ result.1.Sound := by
  induction commands generalizing session with
  | nil => exact ⟨_, rfl, sound⟩
  | cons command commands hypothesis =>
    obtain ⟨answer, stepped, kept⟩ := step_sound sound (proper command List.mem_cons_self)
    obtain ⟨⟨final, answers⟩, ran, reached⟩ :=
      hypothesis kept fun later inRest => proper later (List.mem_cons_of_mem _ inRest)
    exact ⟨_, run_cons_eq_ok_iff.mpr ⟨answer, answers, stepped, ran, rfl⟩, reached⟩

/-- A run comes out the same with a division that agrees on all divisors. -/
theorem runWith_alike {division other : Div K} (alike : DivideAlike division other)
    {commands : List (Command (Regulator K) K)}
    (brings : ∀ command ∈ commands, command.Brings Accepted) :
    Session.empty.runWith (dividing division) division commands =
      Session.empty.runWith (dividing other) other commands := by
  refine (runWith_coincide (coincide_dividing alike) alike (fun _ => Or.inl) Registry.all_nil
    fun command member => ?_).same
  have brought := brings command member
  cases command with
  | construct name problem settings horizon => exact (Accepted.sound brought).stages
  | _ => trivial

end Runs

/-! ### Safety -/

/-- **Nothing faults, and nothing is divided by zero.** Over any scalars, a run of commands over
accepted regulators, with operands of any shapes, is carried out, and the session that it reaches is
sound. So is shooting from a sample that fits, which changes nothing but the content of the storage
and finds trajectories of the right shapes, and, if a stage has variables at all, a start from any
state with any solver whose solutions fit. The start with the elimination is the start of the model.
In an ordered field, a run and shooting come out the same with every division that agrees where the
divisor is not zero. -/
theorem never_faults {K : Type u} [Zero K] [One K] [Add K] [Sub K] [Mul K] [Div K] [Neg K] [BEq K]
    [NatCast K] [LT K] [DecidableLT K] [LE K] [DecidableLE K] [ScalarFunctions K]
    {L : Type v} [Field L] [LinearOrder L] [IsStrictOrderedRing L] [ScalarFunctions L] :
    (∀ commands : List (Command (Regulator K) K),
      (∀ command ∈ commands, command.Brings Accepted) →
      ∃ result, Session.empty.run (ε := Horizon.Invalid K) commands = .ok result ∧
        result.1.Sound) ∧
    (∀ model : Regulator K, Accepted model →
      (∀ sample : Sample K, sample.Fits model.dimensions →
        ∃ next pair, model.shoot sample = .ok (next, pair) ∧ model.Storing next ∧
          pair.Fits model.dimensions) ∧
      (∀ state, model.startWith Mat.solve? state = model.startDecision state) ∧
      (0 < model.width → ∀ solve, Conforms solve → ∀ state,
        ∃ answer, model.startWith solve state = .ok answer)) ∧
    ∀ divide : L → L → L, (∀ x y, y ≠ 0 → divide x y = x / y) →
      (∀ commands : List (Command (Regulator L) L),
        (∀ command ∈ commands, command.Brings Accepted) →
        Session.empty.runWith (dividing ⟨divide⟩) ⟨divide⟩ commands =
          Session.empty.run commands) ∧
      ∀ model : Regulator L, Accepted model → ∀ sample,
        model.shootDividing ⟨divide⟩ sample = model.shoot sample := by
  refine ⟨fun commands brings => ?_, fun model accepted => ⟨fun sample fits => ?_,
    fun state => startWith_elimination accepted.sound state, fun decides solve conforms state =>
    startWith_returns accepted.sound conforms decides state⟩, fun divide agrees => ?_⟩
  · exact run_sound sound_empty fun command member =>
      proper_of_brings (fun _ => Accepted.sound) (brings command member)
  · obtain ⟨next, ran, storing⟩ := shoot_value accepted.sound fits
    exact ⟨next, _, ran, storing, fits_shot accepted.sound fits⟩
  · have alike : DivideAlike ⟨divide⟩ (inferInstance : Div L) := fun x y divisor =>
      agrees x y divisor.ne_zero
    exact ⟨fun commands brings => runWith_alike alike brings, fun model accepted sample =>
      shootDividing_alike alike accepted.sound.stages sample⟩

/-! ### A run over the cart -/

/-- The engines of the two carts, a step of the first, a product with it, and a reset. -/
def cartCommands : List (Command (Regulator ℚ) ℚ) :=
  cartEngines ++ [cartPreparation, .multiply "first" "step" cartSample.decision #[1, 0, 2] #[],
    .reset "first" cart.horizon.settings]

theorem brings_cartCommands : ∀ command ∈ cartCommands, command.Brings Accepted := by
  intro command member
  simp only [cartCommands, cartEngines, List.mem_append, List.mem_cons, List.not_mem_nil,
    or_false] at member
  rcases member with (rfl | rfl | rfl) | (rfl | rfl | rfl)
  · exact accepted_cart
  · exact accepted_cart
  all_goals trivial

/-- A division that is of no use where the divisor is zero. -/
def spoiltDivide (x y : ℚ) : ℚ :=
  if y = 0 then 7 else x / y

/-- The run over the cart is carried out and reaches a sound session, and it comes out the same with
the spoilt division. Shooting and a start from a state that is too short are carried out as well. -/
theorem never_faults_cart :
    (∃ result, Session.empty.run (ε := Horizon.Invalid ℚ) cartCommands = .ok result ∧
      result.1.Sound) ∧
    (∃ next pair, cart.shoot cartSample = .ok (next, pair) ∧ cart.Storing next ∧
      pair.Fits cart.dimensions) ∧
    (∃ answer, cart.startWith Mat.solve? #[1] = .ok answer) ∧
    Session.empty.runWith (dividing ⟨spoiltDivide⟩) ⟨spoiltDivide⟩ cartCommands =
      Session.empty.run cartCommands := by
  obtain ⟨runs, calls, divides⟩ := never_faults (K := ℚ) (L := ℚ)
  obtain ⟨shoots, _, starts⟩ := calls cart accepted_cart
  refine ⟨runs cartCommands brings_cartCommands, shoots cartSample fits_cartSample,
    starts (by decide) Mat.solve? conforms_solve? #[1], ?_⟩
  exact (divides spoiltDivide fun x y nonzero => if_neg nonzero).1 cartCommands
    brings_cartCommands

end RecedingHorizon.Session
