/-
**The horizons of a session.**

A session passes the calls on a horizon on to the engine of the name, and the engine to its
regulator; preparations, products, advances and norms in between leave the horizon alone, and so
does a call that is rejected anywhere on the way. So the commands and the replies of a run say what
the horizon of an engine has been told.

* `Session.accountOf` reads that off a run, and `Session.Accounted` says that it is right for every
  engine of a session;
* `Accounted.step` and `accounted_of_run`: a command keeps it right, and so does a run;
* `unchanged_of_rejected`: a rejected call changes nothing in a session;
* `horizons_prescribed` is the statement for horizons, regulators and sessions, with the shape of
  the length curve.
-/

import RecedingHorizon.Proofs.Regulator.Horizon
import RecedingHorizon.Proofs.Session.Safety

set_option linter.unusedSectionVars false

namespace RecedingHorizon

open Tracking Horizon

universe u v

/-! ### Calls on an engine -/

section Calls

variable {σ K ε : Type u}

/-- The command that makes a call on the engine under a name. -/
def Horizon.Call.command (name : String) : Call K → Command σ K
  | .reset settings => .reset name settings
  | .moveOrigin origin => .moveOrigin name origin

/-- How an engine ends a call. -/
def Horizon.Call.onEngine [Problem σ K ε] (engine : Engine σ K) :
    Call K → Outcome σ K ε Unit Unit
  | .reset settings => engine.reset settings
  | .moveOrigin origin => engine.moveOrigin origin

/-- The engine goes on after the answer of its problem. -/
theorem Horizon.Call.onEngine_eq [Problem σ K ε] (engine : Engine σ K) (call : Call K) :
    ∃ event, call.onEngine engine = engine.afterReset event (call.onProblem engine.problem) := by
  cases call <;> exact ⟨_, rfl⟩

end Calls

variable {K : Type u} [Zero K] [One K] [Add K] [Sub K] [Mul K] [Div K] [Neg K] [BEq K] [NatCast K]
  [LT K] [DecidableLT K] [LE K] [DecidableLE K] [ScalarFunctions K]

namespace Tracking.Engine

/-- How an engine ends a call: it answers as its regulator does, and a rejection changes nothing. -/
structure Ends (engine : Engine (Regulator K) K) (call : Call K)
    (outcome : Outcome (Regulator K) K (Horizon.Invalid K) Unit Unit) : Prop where
  problem : outcome.engine.problem = (call.onProblem engine.problem).1
  accepted : outcome.result.isOk = (call.onProblem engine.problem).2.isOk
  rejected : ∀ cause, outcome.result = .error cause → outcome.engine = engine ∧ outcome.records = []

theorem Working.ends {engine : Engine (Regulator K) K} (working : engine.Working) (call : Call K) :
    engine.Ends call (call.onEngine engine) := by
  obtain ⟨event, same⟩ := call.onEngine_eq engine
  have answer := Regulator.onProblem_regulator engine.problem call
  rw [same]
  cases answered : call.onHorizon engine.problem.horizon with
  | error cause =>
    rw [answered] at answer
    constructor <;> rw [answer]
    · rfl
    · rfl
    · exact fun _ _ => ⟨rfl, rfl⟩
  | ok horizon =>
    rw [answered] at answer
    have passed := (working.withHorizon horizon).checkDimensions
    constructor <;> rw [answer]
    · rfl
    · exact congrArg Except.isOk passed
    · exact fun cause refused => nomatch passed.symm.trans refused

end Tracking.Engine

namespace Session

/-! ### What a run says about a horizon -/

/-- A problem that an engine was built over, and the calls on it since, the newest first, each with
whether it was accepted. -/
structure Account (σ K : Type u) where
  problem : σ
  calls : List (Call K × Bool)

section Account

variable {σ ε : Type u}

/-- The account with one more call. -/
def Account.add (account : Account σ K) (call : Call K) (accepted : Bool) : Account σ K :=
  { account with calls := (call, accepted) :: account.calls }

/-- Whether a reply says that an engine has been built or a call accepted. -/
def grants : Reply ε K → Bool
  | .done result => result.isOk
  | _ => false

/-- The account of the engine under a name after one more command. An engine that is built takes the
place of an earlier one, with the reset of its horizon, if any. One that is refused does not. -/
def recount (name : String) (account : Option (Account σ K)) (command : Command σ K)
    (answer : Answer σ K ε) : Option (Account σ K) :=
  match command with
  | .construct target problem _ horizon =>
    if target = name ∧ grants answer.reply = true then
      some { problem, calls := horizon.toList.map fun settings => (.reset settings, true) }
    else account
  | .reset target settings =>
    if target = name then account.map (·.add (.reset settings) (grants answer.reply)) else account
  | .moveOrigin target origin =>
    if target = name then account.map (·.add (.moveOrigin origin) (grants answer.reply))
    else account
  | _ => account

/-- The account of the engine under a name after the commands of a run, with their answers. -/
def accountOf (name : String) (account : Option (Account σ K)) :
    List (Command σ K) → List (Answer σ K ε) → Option (Account σ K)
  | command :: commands, answer :: answers =>
    accountOf name (recount name account command answer) commands answers
  | _, _ => account

theorem recount_command (name target : String) (account : Option (Account σ K)) (call : Call K)
    (answer : Answer σ K ε) :
    recount name account (call.command target) answer =
      if target = name then account.map (·.add call (grants answer.reply)) else account := by
  cases call <;> rfl

/-- A call on an engine that is there. -/
theorem step_command [Problem σ K ε] {session : Session σ K} {name : String} {engine : Engine σ K}
    (found : session.engines.get? name = some engine) (call : Call K) :
    session.step (ε := ε) (call.command name) =
      .ok (session.answerReset name (call.onEngine engine)) := by
  cases call <;> simp only [Call.command, step, found] <;> rfl

/-- A call on an engine that is not. -/
theorem step_command_of_missing [Problem σ K ε] {session : Session σ K} {name : String}
    (missing : session.engines.get? name = none) (call : Call K) :
    session.step (ε := ε) (call.command name) = session.unknown := by
  cases call <;> simp only [Call.command, step, missing]

end Account

/-! ### Accounts that are right -/

/-- The regulator has come about by the past of the problem and then the calls of the account. -/
structure Account.Explains (account : Account (Regulator K) K) (model : Regulator K) : Prop where
  hasPast : account.problem.HasPast
  since : ∀ past, account.problem.Told past → model.Told (past.followedBy account.calls)

section Explains

variable {account : Account (Regulator K) K} {model next : Regulator K}
  (explains : account.Explains model)
include explains

theorem Account.Explains.of_storing (storing : model.Storing next) : account.Explains next :=
  ⟨explains.hasPast, fun past told => (explains.since past told).of_storing storing⟩

theorem Account.Explains.add (call : Call K) :
    (account.add call (call.onProblem model).2.isOk).Explains (call.onProblem model).1 :=
  ⟨explains.hasPast, fun past told => .called call (explains.since past told)⟩

end Explains

/-- Every engine of the session has an account, and the account explains its regulator. -/
def Accounted (session : Session (Regulator K) K)
    (accounts : String → Option (Account (Regulator K) K)) : Prop :=
  ∀ name engine, session.engines.get? name = some engine →
    ∃ account, accounts name = some account ∧ account.Explains engine.problem

variable {session : Session (Regulator K) K}
  {accounts : String → Option (Account (Regulator K) K)} {name : String}
  {engine next : Engine (Regulator K) K}

/-- A construction is refused, or it puts an engine under the name with the account that the command
gives it. -/
theorem built_or_refused {problem : Regulator K} (brought : problem.HasPast) (name : String)
    (settings : Tracking.Settings K) (horizon : Option (Horizon.Settings K)) :
    (grants (session.construct (ε := Horizon.Invalid K) name problem settings horizon).reply =
        false ∧
      (session.construct (ε := Horizon.Invalid K) name problem settings horizon).session.engines =
        session.engines) ∨
    ∃ made,
      grants (session.construct (ε := Horizon.Invalid K) name problem settings horizon).reply =
        true ∧
      (session.construct (ε := Horizon.Invalid K) name problem settings horizon).session.engines =
        session.engines.put name made ∧
      Account.Explains
        { problem, calls := horizon.toList.map fun settings => (.reset settings, true) }
        made.problem := by
  unfold Session.construct
  cases built : Engine.build (ε := Horizon.Invalid K) session.nextEngine problem settings with
  | error cause => exact Or.inl ⟨rfl, rfl⟩
  | ok engine =>
    have working := Engine.working_of_build brought.sound built
    obtain rfl : engine.problem = problem := by
      obtain ⟨_, _, _, rfl⟩ := Engine.build_eq_ok_iff.mp built
      rfl
    cases horizon with
    | none => exact Or.inr ⟨engine, rfl, rfl, brought, fun _ => id⟩
    | some horizon =>
      have ends := working.ends (.reset horizon)
      simp only
      cases ended : (engine.reset horizon).result with
      | error cause => exact Or.inl ⟨rfl, rfl⟩
      | ok _ =>
        refine Or.inr ⟨_, rfl, rfl, brought, fun past told => ?_⟩
        have called := Regulator.Told.called (.reset horizon) told
        rw [← ends.problem, ← ends.accepted, Call.onEngine, ended] at called
        exact called

section Step

variable (accounted : session.Accounted accounts)
include accounted

/-- An engine goes on with its regulator as it was, up to storage. -/
theorem Accounted.putEngine (found : session.engines.get? name = some engine)
    (storing : engine.problem.Storing next.problem) :
    (session.putEngine name next).Accounted accounts := by
  intro other holder held
  rcases Registry.get?_put_cases held with ⟨rfl, rfl⟩ | ⟨_, kept⟩
  · obtain ⟨account, known, explains⟩ := accounted _ _ found
    exact ⟨account, known, explains.of_storing storing⟩
  · exact accounted other holder kept

/-- A call on the horizon of an engine. -/
theorem Accounted.call (sound : session.Sound) (call : Call K)
    {answer : Answer (Regulator K) K (Horizon.Invalid K)}
    (ran : session.step (call.command name) = .ok answer) :
    answer.session.Accounted fun other =>
      recount other (accounts other) (call.command name) answer := by
  obtain ⟨shapes, shaped⟩ := sound
  cases found : session.engines.get? name with
  | none =>
    cases (step_command_of_missing found call).symm.trans ran
    intro other holder held
    have apart : name ≠ other := by
      rintro rfl
      cases found.symm.trans held
    simp only [recount_command, if_neg apart]
    exact accounted other holder held
  | some engine =>
    cases (step_command found call).symm.trans ran
    have ends := (shaped.engines _ _ found).1.ends call
    intro other holder held
    rcases Registry.get?_put_cases held with ⟨rfl, rfl⟩ | ⟨apart, kept⟩
    · obtain ⟨account, known, explains⟩ := accounted _ _ found
      refine ⟨_, ?_, ends.problem ▸ explains.add call⟩
      simp only [recount_command, if_pos, known, ← ends.accepted]
      rfl
    · simp only [recount_command, if_neg apart.symm]
      exact accounted other holder kept

/-- The construction of an engine. -/
theorem Accounted.construct {problem : Regulator K} (brought : problem.HasPast) (name : String)
    (settings : Tracking.Settings K) (horizon : Option (Horizon.Settings K)) :
    (session.construct (ε := Horizon.Invalid K) name problem settings horizon).session.Accounted
      fun other => recount other (accounts other) (.construct name problem settings horizon)
        (session.construct (ε := Horizon.Invalid K) name problem settings horizon) := by
  intro other holder held
  simp only [recount]
  rcases built_or_refused brought name settings horizon with
    ⟨refused, same⟩ | ⟨made, granted, same, explains⟩
  · rw [same] at held
    simp only [refused, Bool.false_eq_true, and_false, if_false]
    exact accounted other holder held
  · rw [same] at held
    simp only [granted, and_true]
    rcases Registry.get?_put_cases held with ⟨rfl, rfl⟩ | ⟨apart, kept⟩
    · exact ⟨_, if_pos rfl, explains⟩
    · rw [if_neg apart.symm]
      exact accounted other holder kept

/-- **Every command keeps the accounts right.** -/
theorem Accounted.step (sound : session.Sound) {command : Command (Regulator K) K}
    (brings : command.Brings Regulator.HasPast)
    {answer : Answer (Regulator K) K (Horizon.Invalid K)}
    (ran : session.step command = .ok answer) :
    answer.session.Accounted fun other => recount other (accounts other) command answer := by
  obtain ⟨shapes, shaped⟩ := sound
  cases carries_of_step ran with
  | constructed name problem settings horizon =>
    exact accounted.construct brings name settings horizon
  | reset horizon found => exact accounted.call ⟨shapes, shaped⟩ (.reset horizon) ran
  | moved origin found => exact accounted.call ⟨shapes, shaped⟩ (.moveOrigin origin) ran
  | measured found called =>
    have working := (shaped.engines _ _ found).1
    have storing := Engine.optimalityNorm_storing (Regulator.evaluates working.sound)
      working.ready _ _ |>.of_ok called
    exact accounted.putEngine found storing.problem
  | unprepared found _ _ _ same =>
    have kept := (shaped.engines _ _ found).1.sound.storing_self
    exact accounted.putEngine found (same ▸ kept)
  | prepared found stored called =>
    have working := (shaped.engines _ _ found).1
    obtain ⟨_, storing⟩ := Engine.prepare_storing (Regulator.evaluates working.sound)
      working.ready _ _ _ _ (shaped.workspace_fits found stored) |>.of_ok called
    exact accounted.putEngine found storing.problem
  | multiplied found held called =>
    have working := (shaped.engines _ _ found).1
    have storing := Engine.multiply_storing (Regulator.evaluates working.sound) working.ready
      _ _ _ (shaped.step_fits found held) |>.of_ok called
    exact accounted.putEngine found storing.problem
  | unadvanced found held called | advanced found held called =>
    have working := (shaped.engines _ _ found).1
    have storing := Engine.advance_storing (Regulator.evaluates working.sound) working.ready
      _ _ _ _ (shaped.step_fits found held) |>.of_ok called
    exact accounted.putEngine found storing.problem
  | allocated | released | stepCopied | workspaceCopied => exact accounted
  | unknown =>
    cases command with
    | construct => simpa only [recount, grants, Bool.false_eq_true, and_false, if_false]
    | reset name horizon => exact accounted.call ⟨shapes, shaped⟩ (.reset horizon) ran
    | moveOrigin name origin => exact accounted.call ⟨shapes, shaped⟩ (.moveOrigin origin) ran
    | _ => exact accounted

end Step

/-- **Every run keeps the accounts right.** -/
theorem Accounted.run (accounted : session.Accounted accounts) (sound : session.Sound)
    {commands : List (Command (Regulator K) K)}
    (brings : ∀ command ∈ commands, command.Brings Regulator.HasPast)
    {final : Session (Regulator K) K}
    {answers : List (Answer (Regulator K) K (Horizon.Invalid K))}
    (ran : session.run commands = .ok (final, answers)) :
    final.Accounted fun name => accountOf name (accounts name) commands answers := by
  induction commands generalizing session accounts answers with
  | nil =>
    cases ran
    exact accounted
  | cons command commands hypothesis =>
    obtain ⟨answer, rest, stepped, went, rfl⟩ := run_cons_eq_ok_iff.mp ran
    have brought := brings command List.mem_cons_self
    exact hypothesis (accounted.step sound brought stepped)
      (sound_of_step sound (proper_of_brings (fun _ => Regulator.HasPast.sound) brought) stepped)
      (fun later inRest => brings later (List.mem_cons_of_mem _ inRest)) went

/-! ### Rejections -/

/-- The two sessions hold the same. -/
structure Unchanged (session next : Session (Regulator K) K) : Prop where
  engines : ∀ name, next.engines.get? name = session.engines.get? name
  workspaces : next.workspaces = session.workspaces
  steps : next.steps = session.steps
  nextEngine : next.nextEngine = session.nextEngine

/-- **A rejected call changes nothing**, and logs nothing. -/
theorem unchanged_of_rejected (sound : session.Sound) {call : Call K}
    {answer : Answer (Regulator K) K (Horizon.Invalid K)}
    (ran : session.step (call.command name) = .ok answer)
    {cause : Refusal (Horizon.Invalid K) K} (rejected : answer.reply = .done (.error cause)) :
    session.Unchanged answer.session ∧ answer.records = [] := by
  obtain ⟨shapes, shaped⟩ := sound
  cases found : session.engines.get? name with
  | none =>
    cases (step_command_of_missing found call).symm.trans ran
    cases rejected
  | some engine =>
    cases (step_command found call).symm.trans ran
    injection rejected with refused
    obtain ⟨same, silent⟩ := ((shaped.engines _ _ found).1.ends call).rejected cause refused
    refine ⟨⟨fun other => ?_, rfl, rfl, rfl⟩, silent⟩
    show (session.engines.put name (call.onEngine engine).engine).get? other = _
    rw [same]
    by_cases here : other = name
    · rw [here, Registry.get?_put_self, found]
    · rw [Registry.get?_put_of_ne _ _ here]

/-! ### The statement -/

/-- **What a horizon is set to, and how it opens.** Over any scalars, and with any arguments of the
calls, be they out of range or not numbers at all:

* a horizon is set to what its past prescribes, the settings of the last accepted reset (or those
  that it was built with) with the origin of the last move accepted since, and these settings pass
  their check;
* the horizon of a regulator has the past of the regulator, and a call that is rejected leaves the
  regulator as it was;
* every run of commands over such regulators is carried out, the account of the commands and the
  replies explains the regulator of every engine, and from there a call that is rejected changes
  nothing in the session.

Over an ordered field whose exponential is positive and monotone up to zero and one at zero, every
horizon with a past opens: its length never falls, from zero up to the final length, it is zero up
to the origin if the horizon grows, and it is the final length if not. The spans of the stages make
up the length. -/
theorem horizons_prescribed {K : Type u} [Zero K] [One K] [Add K] [Sub K] [Mul K] [Div K] [Neg K]
    [BEq K] [NatCast K] [LT K] [DecidableLT K] [LE K] [DecidableLE K] [ScalarFunctions K]
    {L : Type v} [Field L] [LinearOrder L] [IsStrictOrderedRing L] [ScalarFunctions L] :
    (∀ (horizon : Horizon K) (past : Past K), horizon.Told past →
      horizon.settings = past.prescribed ∧ horizon.settings.validate = .ok ()) ∧
    (∀ (model : Regulator K) (past : Past K), model.Told past →
      model.horizon.Told past ∧
      ∀ (call : Call K) (cause : Horizon.Invalid K),
        (call.onProblem model).2 = .error cause → (call.onProblem model).1 = model) ∧
    (∀ commands : List (Command (Regulator K) K),
      (∀ command ∈ commands, command.Brings Regulator.HasPast) →
      ∃ (session : Session (Regulator K) K)
        (answers : List (Answer (Regulator K) K (Horizon.Invalid K))),
        Session.empty.run commands = .ok (session, answers) ∧
        (∀ name engine, session.engines.get? name = some engine →
          ∃ account, accountOf name none commands answers = some account ∧
            account.Explains engine.problem) ∧
        ∀ (name : String) (call : Call K) (answer : Answer (Regulator K) K (Horizon.Invalid K))
          (cause : Refusal (Horizon.Invalid K) K),
          session.step (call.command name) = .ok answer → answer.reply = .done (.error cause) →
          session.Unchanged answer.session) ∧
    (ScalarFunctions.Exponential L → ∀ (horizon : Horizon L) (past : Past L),
      horizon.Told past → horizon.Opens) ∧
    ∀ (model : Regulator L) (past : Past L), model.Told past → ∀ time,
      model.stageSpan time * model.stages = model.horizon.length time := by
  refine ⟨fun _ _ told => ⟨told.settings, told.valid⟩, fun _ _ told => ⟨told.horizon, fun _ _ =>
    Regulator.onProblem_of_error⟩, fun commands brings => ?_, fun exponential _ _ told =>
    opens_of_valid exponential told.valid, fun _ _ told =>
    Regulator.stageSpan_mul_stages told.accepted.sound⟩
  obtain ⟨⟨session, answers⟩, ran, sound⟩ := run_sound (K := K) sound_empty fun command member =>
    proper_of_brings (fun _ => Regulator.HasPast.sound) (brings command member)
  have start : (Session.empty : Session (Regulator K) K).Accounted fun _ => none := nofun
  refine ⟨session, answers, ran, start.run sound_empty brings ran, ?_⟩
  intro _ _ _ _ stepped rejected
  exact (unchanged_of_rejected sound stepped rejected).1

/-! ### The horizon of the cart -/

section Cart

open Regulator

theorem exponential_rational : ScalarFunctions.Exponential ℚ where
  pos x below := by
    show 0 < 1 / (1 - x)
    exact one_div_pos.mpr (by linarith)
  mono x y ordered below := by
    show 1 / (1 - x) ≤ 1 / (1 - y)
    exact one_div_le_one_div_of_le (by linarith) (by linarith)
  zero := by decide +kernel

/-- The past of the cart before it is given an engine. -/
def cartPast : Past ℚ where
  built := freeCart.horizon.settings
  calls := []

theorem told_cart : cart.Told cartPast := by
  have free : build freeCart.toMatrices 2 freeCart.horizon.settings = .ok freeCart := rfl
  have bound : freeCart.constrain { matrix := Mat.ofFn 1 1 fun _ _ => 1, target := #[1] } =
      .ok cart := rfl
  exact .constrained (.built free) bound

/-- The first cart is reset, its origin is moved, and then it is to have a negative length. -/
def cartCalls : List (Command (Regulator ℚ) ℚ) :=
  cartEngines ++ [.reset "first" { finalLength := 2, growthRate := 1, origin := 1 / 4 },
    .moveOrigin "first" (1 / 3),
    .reset "first" { finalLength := -1, growthRate := 0, origin := 0 }]

theorem brings_cartCalls : ∀ command ∈ cartCalls, command.Brings HasPast := by
  intro command member
  simp only [cartCalls, cartEngines, List.mem_append, List.mem_cons, List.not_mem_nil,
    or_false] at member
  rcases member with (rfl | rfl | rfl) | (rfl | rfl | rfl)
  · exact ⟨_, told_cart⟩
  · exact ⟨_, told_cart⟩
  all_goals trivial

/-- All but the last command are granted, and the engine of the first cart is there. -/
def cartCallsGranted : Bool :=
  match Session.empty.run (ε := Horizon.Invalid ℚ) cartCalls with
  | .ok (session, [first, _, _, fourth, fifth, last]) =>
    (session.engines.get? "first").isSome && grants first.reply && grants fourth.reply &&
      grants fifth.reply && !grants last.reply
  | _ => false

/-- The cart keeps its second settings with the third origin, and opens from there on. -/
theorem horizons_prescribed_cart :
    cart.Told cartPast ∧ (∀ command ∈ cartCalls, command.Brings HasPast) ∧
    ScalarFunctions.Exponential ℚ ∧
    ∃ (session : Session (Regulator ℚ) ℚ)
      (answers : List (Answer (Regulator ℚ) ℚ (Horizon.Invalid ℚ)))
      (engine : Engine (Regulator ℚ) ℚ),
      Session.empty.run cartCalls = .ok (session, answers) ∧
      session.engines.get? "first" = some engine ∧
      engine.problem.horizon.settings =
        { finalLength := 2, growthRate := 1, origin := 1 / 3 } ∧
      engine.problem.horizon.length (1 / 4) = 0 ∧
      engine.problem.horizon.length (1 / 2) ≤ engine.problem.horizon.length 1 ∧
      engine.problem.stageSpan 1 * engine.problem.stages = engine.problem.horizon.length 1 := by
  obtain ⟨horizons, models, runs, opens, spans⟩ := horizons_prescribed (K := ℚ) (L := ℚ)
  obtain ⟨session, answers, ran, accounts, _⟩ := runs cartCalls brings_cartCalls
  have granted : cartCallsGranted = true := by decide +kernel
  unfold cartCallsGranted at granted
  rw [ran] at granted
  split at granted
  · rename_i first second third fourth fifth last same
    cases same
    simp only [Bool.and_eq_true, Bool.not_eq_true'] at granted
    obtain ⟨⟨⟨⟨present, built⟩, replaced⟩, moved⟩, rejected⟩ := granted
    obtain ⟨engine, found⟩ := Option.isSome_iff_exists.mp present
    obtain ⟨account, known, explains⟩ := accounts "first" engine found
    have read : accountOf "first" none cartCalls [first, second, third, fourth, fifth, last] =
        some (((Account.add { problem := cart, calls := [] } (.reset ⟨2, 1, 1 / 4⟩) true).add
          (.moveOrigin (1 / 3)) true).add (.reset ⟨-1, 0, 0⟩) false) := by
      simp [cartCalls, cartEngines, accountOf, recount, built, replaced, moved, rejected]
    cases known.symm.trans read
    have told := explains.since _ told_cart
    have horizon := (models _ _ told).1
    have settings : engine.problem.horizon.settings =
        { finalLength := 2, growthRate := 1, origin := 1 / 3 } := (horizons _ _ horizon).1
    have curve := opens exponential_rational _ _ horizon
    refine ⟨told_cart, brings_cartCalls, exponential_rational, _, _, engine, ran, found,
      settings, ?_, ?_, ?_⟩
    · apply curve.closed
      · rw [settings]
        norm_num
      · rw [settings]
        norm_num
    · exact curve.mono _ _ (by norm_num)
    · exact spans _ _ told 1
  · cases granted

end Cart

end Session

end RecedingHorizon
