/-
**Sessions without history.**

What a session over regulators answers does not depend on what its storage held before: not on the
storage of the engines and of their problems, not on which workspace of an engine a step is prepared
in, and not on the caller's storage. `no_history` compares two runs that share some commands, while
each of them may carry out further ones that take nothing from the shared ones.

* `Session.Move`: what the two runs do next, and `Session.Harmless` what is asked of it;
* `Session.SameAnswers`: the shared commands get the same answers;
* `Session.no_history` follows the two runs, from sessions that are alike to sessions that are
  alike.
-/

import RecedingHorizon.Proofs.Session.Currency
import RecedingHorizon.Proofs.Session.Alike

set_option linter.unusedSectionVars false

namespace RecedingHorizon

open Tracking

universe u

variable {K : Type u}

namespace Session

variable [Zero K]

/-! ### Two runs -/

/-- What the two runs do next. -/
inductive Move (K : Type u) where
  /-- Both carry out a command. -/
  | both (command second : Command (Regulator K) K)
  /-- The one carries out a command. -/
  | one (command : Command (Regulator K) K)
  /-- The other carries out a command. -/
  | other (command : Command (Regulator K) K)

/-- The commands of the one run. -/
def ofOne : List (Move K) → List (Command (Regulator K) K)
  | [] => []
  | .both command _ :: moves => command :: ofOne moves
  | .one command :: moves => command :: ofOne moves
  | .other _ :: moves => ofOne moves

/-- The commands of the other run. -/
def ofOther : List (Move K) → List (Command (Regulator K) K)
  | [] => []
  | .both _ second :: moves => second :: ofOther moves
  | .one _ :: moves => ofOther moves
  | .other command :: moves => command :: ofOther moves

/-- The commands that both runs carry out get the same answers, whatever the others get. -/
def SameAnswers {ε : Type u} : List (Move K) → List (Answer (Regulator K) K ε) →
    List (Answer (Regulator K) K ε) → Prop
  | [], [], [] => True
  | .both _ _ :: moves, answer :: answers, reached :: others =>
    SameAnswer answer reached ∧ SameAnswers moves answers others
  | .one _ :: moves, _ :: answers, others => SameAnswers moves answers others
  | .other _ :: moves, answers, _ :: others => SameAnswers moves answers others
  | _, _, _ => False

section Runs

variable [One K] [Add K] [Sub K] [Mul K] [Div K] [Neg K] [BEq K] [NatCast K]
  [LT K] [DecidableLT K] [LE K] [DecidableLE K] [ScalarFunctions K]

/-- Along the two runs, every pair of commands asks for the same, and every command of one run alone
takes nothing from the others. -/
def Harmless (spare : String → Prop) : Session (Regulator K) K → Session (Regulator K) K →
    List (Move K) → Prop
  | _, _, [] => True
  | session, other, .both command second :: moves =>
    Pairs spare session other command second ∧
      ∀ answer reached : Answer (Regulator K) K (Horizon.Invalid K),
        session.step command = .ok answer → other.step second = .ok reached →
        Harmless spare answer.session reached.session moves
  | session, other, .one command :: moves =>
    Proper command ∧ ∀ answer : Answer (Regulator K) K (Horizon.Invalid K),
      session.step command = .ok answer →
      Idle spare command answer ∧ Harmless spare answer.session other moves
  | session, other, .other command :: moves =>
    Proper command ∧ ∀ answer : Answer (Regulator K) K (Horizon.Invalid K),
      other.step command = .ok answer →
      Idle spare command answer ∧ Harmless spare session answer.session moves

/-- **What storage held before does not show.** Take two sessions over regulators with the same
engines and steps, and anything in the storage of their engines, problems and workspaces. Let them
carry out commands that ask for the same, preparing in any workspaces of the same engines and
writing into storage with any content, and let each of them carry out further commands in between
that measure, multiply, handle workspaces and spare steps, or are refused. No command faults, the
commands that ask for the same get the same answers, and the sessions are alike again. -/
theorem no_history {spare : String → Prop} {session other : Session (Regulator K) K}
    (sound : session.Sound) (otherSound : other.Sound) (alike : session.Alike spare other)
    {moves : List (Move K)} (harmless : Harmless spare session other moves) :
    ∃ (final last : Session (Regulator K) K)
      (answers others : List (Answer (Regulator K) K (Horizon.Invalid K))),
      session.run (ofOne moves) = .ok (final, answers) ∧
      other.run (ofOther moves) = .ok (last, others) ∧
      SameAnswers moves answers others ∧
      final.Sound ∧ last.Sound ∧ final.Alike spare last := by
  induction moves generalizing session other with
  | nil => exact ⟨session, other, [], [], rfl, rfl, trivial, sound, otherSound, alike⟩
  | cons move moves hypothesis =>
    cases move with
    | both command second =>
      obtain ⟨pairs, next⟩ := harmless
      obtain ⟨answer, reached, ran, otherRan, same, nextAlike⟩ :=
        step_agrees sound otherSound alike pairs
      have nextSound := sound_of_step sound pairs.proper.1 ran
      have otherNext := sound_of_step otherSound pairs.proper.2 otherRan
      obtain ⟨final, last, answers, others, went, otherWent, agreed, kept⟩ :=
        hypothesis nextSound otherNext nextAlike (next answer reached ran otherRan)
      exact ⟨final, last, answer :: answers, reached :: others,
        run_cons_eq_ok_iff.mpr ⟨answer, answers, ran, went, rfl⟩,
        run_cons_eq_ok_iff.mpr ⟨reached, others, otherRan, otherWent, rfl⟩, ⟨same, agreed⟩, kept⟩
    | one command =>
      obtain ⟨proper, next⟩ := harmless
      obtain ⟨answer, ran, nextSound⟩ := step_sound sound proper
      obtain ⟨idle, rest⟩ := next answer ran
      have nextAlike := (alike_of_idle sound ran idle).symm.trans alike
      obtain ⟨final, last, answers, others, went, otherWent, agreed, kept⟩ :=
        hypothesis nextSound otherSound nextAlike rest
      exact ⟨final, last, answer :: answers, others,
        run_cons_eq_ok_iff.mpr ⟨answer, answers, ran, went, rfl⟩, otherWent, agreed, kept⟩
    | other command =>
      obtain ⟨proper, next⟩ := harmless
      obtain ⟨answer, ran, nextSound⟩ := step_sound otherSound proper
      obtain ⟨idle, rest⟩ := next answer ran
      have nextAlike := alike.trans (alike_of_idle otherSound ran idle)
      obtain ⟨final, last, answers, others, went, otherWent, agreed, kept⟩ :=
        hypothesis sound nextSound nextAlike rest
      exact ⟨final, last, answers, answer :: others, went,
        run_cons_eq_ok_iff.mpr ⟨answer, others, ran, otherWent, rfl⟩, agreed, kept⟩

end Runs

/-! ### Two runs of the cart -/

section Cart

open Regulator

/-- The cart with storage that has been used. -/
def usedCart : Regulator ℚ :=
  { cart with
    scratch :=
      { rate := #[1, -2], start := #[3, 1 / 2], finish := #[0, 7], costate := #[5, 5]
        ahead := #[-1, 1 / 3] } }

/-- One run prepares its second step in fresh storage, the other one in storage of a copied step
that it has released. The other one also measures, and has used storage throughout. -/
def cartMoves : List (Move ℚ) :=
  [.both (.construct "cart" cart cartEngine.settings none)
      (.construct "cart" usedCart cartEngine.settings none),
    .both (.allocate "cart" "workspace") (.allocate "cart" "workspace"),
    .both
      (.prepare "cart" "workspace" "step" cartSample cartTrajectories #[1, 0, 2, 1] (Vec.zeros 4))
      (.prepare "cart" "workspace" "step" cartSample cartTrajectories #[1, 0, 2, 1] #[4, 3, 2, 1]),
    .other (.measure "cart" cartSample cartTrajectories),
    .other (.copyStep "step" "copy"),
    .other (.release "copy" "recycled"),
    .one (.allocate "cart" "fresh"),
    .both (.multiply "cart" "step" cartSample.decision #[1, 1, 0, 2] (Vec.zeros 4))
      (.multiply "cart" "step" cartSample.decision #[1, 1, 0, 2] #[9, 9, 9, 9]),
    .both (.prepare "cart" "fresh" "next" cartSample cartTrajectories (Vec.zeros 4) (Vec.zeros 4))
      (.prepare "cart" "recycled" "next" cartSample cartTrajectories (Vec.zeros 4) (Vec.zeros 4))]

/-- The session after a command that does not fault. -/
def after (session : Session (Regulator ℚ) ℚ) (command : Command (Regulator ℚ) ℚ) :
    Session (Regulator ℚ) ℚ :=
  match session.step (ε := Horizon.Invalid ℚ) command with
  | .ok answer => answer.session
  | .error _ => session

section After

variable {spare : String → Prop} {session other : Session (Regulator ℚ) ℚ}
  {command second : Command (Regulator ℚ) ℚ} {moves : List (Move ℚ)}

theorem after_of_step {answer : Answer (Regulator ℚ) ℚ (Horizon.Invalid ℚ)}
    (ran : session.step command = .ok answer) : session.after command = answer.session := by
  unfold after
  rw [ran]

theorem harmless_both (pairs : Pairs spare session other command second)
    (rest : Harmless spare (session.after command) (other.after second) moves) :
    Harmless spare session other (.both command second :: moves) := by
  refine ⟨pairs, fun answer reached ran otherRan => ?_⟩
  rw [← after_of_step ran, ← after_of_step otherRan]
  exact rest

theorem harmless_one (proper : Proper command)
    (idle : ∀ answer, session.step command = .ok answer → Idle spare command answer)
    (rest : Harmless spare (session.after command) other moves) :
    Harmless spare session other (.one command :: moves) := by
  refine ⟨proper, fun answer ran => ⟨idle answer ran, ?_⟩⟩
  rw [← after_of_step ran]
  exact rest

theorem harmless_other (proper : Proper command)
    (idle : ∀ answer, other.step command = .ok answer → Idle spare command answer)
    (rest : Harmless spare session (other.after command) moves) :
    Harmless spare session other (.other command :: moves) := by
  refine ⟨proper, fun answer ran => ⟨idle answer ran, ?_⟩⟩
  rw [← after_of_step ran]
  exact rest

end After

theorem harmless_cartMoves :
    Harmless (fun name => name = "copy") Session.empty Session.empty cartMoves := by
  have sound := accepted_cart.sound
  have used : usedCart.Sound := sound.withScratch ⟨rfl, rfl, rfl, rfl, rfl⟩
  have apart : ¬"step" = "copy" := by decide
  refine harmless_both (.construct "cart" _ _ sound used rfl rfl) ?_
  refine harmless_both (.allocate "cart" "workspace" "workspace") ?_
  refine harmless_both (.prepare "cart" "step" _ _ _ (by decide +kernel) rfl) ?_
  refine harmless_other trivial (fun _ _ => trivial) ?_
  refine harmless_other trivial (fun _ _ => Or.inr rfl) ?_
  refine harmless_other trivial (fun _ _ => Or.inr rfl) ?_
  refine harmless_one trivial (fun _ _ => trivial) ?_
  refine harmless_both (.multiply "cart" _ _ apart rfl) ?_
  exact harmless_both (.prepare "cart" "next" _ _ _ (by decide +kernel) rfl) trivial

/-- Two runs of the cart get the same answers, in fresh storage and in used storage. -/
theorem no_history_cart :
    Harmless (fun name => name = "copy") Session.empty Session.empty cartMoves ∧
      ∃ (final last : Session (Regulator ℚ) ℚ)
        (answers others : List (Answer (Regulator ℚ) ℚ (Horizon.Invalid ℚ))),
        Session.empty.run (ofOne cartMoves) = .ok (final, answers) ∧
        Session.empty.run (ofOther cartMoves) = .ok (last, others) ∧
        SameAnswers cartMoves answers others ∧
        final.Alike (fun name => name = "copy") last := by
  obtain ⟨final, last, answers, others, ran, otherRan, same, _, _, alike⟩ :=
    no_history sound_empty sound_empty (alike_refl Session.empty) harmless_cartMoves
  exact ⟨harmless_cartMoves, final, last, answers, others, ran, otherRan, same, alike⟩

end Cart

end Session

end RecedingHorizon
