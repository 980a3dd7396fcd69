/-
**Checked computations.**

How a computation whose accesses are checked is taken apart and put together:

* `bind_eq_ok_iff` splits one that succeeded into its parts, and `check_eq_ok_iff` a chain of
  checks;
* `Succeeds` says that one returns a value with a property, and `Succeeds.bind` composes two such
  statements;
* `Coincide` says that two are the same and return values with a property, and `Coincide.bind`
  composes these;
* `Corresponds` says that two fail alike or return values that are related, and `Corresponds.bind`
  composes these;
* `Sweep.forward_total` and `Sweep.backward_total` show that a sweep succeeds, with an invariant
  that is indexed by the stage, from the fact that every step succeeds and carries the invariant on.
-/

import RecedingHorizon.Sweep

namespace RecedingHorizon

universe u v

/-! ### Sequencing -/

section Sequencing

variable {ε : Type u} {α β : Type v}

@[simp]
theorem ok_bind (value : α) (next : α → Except ε β) : (Except.ok value >>= next) = next value :=
  rfl

@[simp]
theorem error_bind (cause : ε) (next : α → Except ε β) :
    ((Except.error cause : Except ε α) >>= next) = .error cause :=
  rfl

@[simp]
theorem pure_eq_ok (value : α) : (pure value : Except ε α) = .ok value :=
  rfl

/-- Two computations in a row succeed exactly when both do. -/
theorem bind_eq_ok_iff {first : Except ε α} {next : α → Except ε β} {result : β} :
    (first >>= next) = .ok result ↔ ∃ value, first = .ok value ∧ next value = .ok result := by
  cases first <;> simp

/-- Two tests in a row pass exactly when both do. -/
theorem bind_unit_eq_ok_iff {first second : Except ε Unit} :
    (first >>= fun _ => second) = .ok () ↔ first = .ok () ∧ second = .ok () := by
  cases first <;> simp

/-- A check passes if what it looks for is not there and the rest succeeds. -/
theorem check_eq_ok_iff {fails : Prop} [Decidable fails] {cause : ε} {rest : Except ε α}
    {value : α} :
    (if fails then .error cause else rest) = Except.ok value ↔ ¬fails ∧ rest = .ok value := by
  split <;> simp_all

/-! ### Computations that succeed -/

/-- The computation returns a value with the property. -/
def Succeeds (computation : Except ε α) (holds : α → Prop) : Prop :=
  ∃ value, computation = .ok value ∧ holds value

theorem succeeds_ok {holds : α → Prop} {value : α} (held : holds value) :
    Succeeds (.ok value : Except ε α) holds :=
  ⟨value, rfl, held⟩

/-- Two computations in a row succeed, if the second does on every value that is known of the
first. -/
theorem Succeeds.bind {first : Except ε α} {next : α → Except ε β} {holds : α → Prop}
    {reached : β → Prop} (ran : Succeeds first holds)
    (goesOn : ∀ value, holds value → Succeeds (next value) reached) :
    Succeeds (first >>= next) reached := by
  obtain ⟨value, rfl, held⟩ := ran
  exact goesOn value held

/-- What is known of the value holds of every value that is returned. -/
theorem Succeeds.of_ok {computation : Except ε α} {holds : α → Prop} {value : α}
    (ran : Succeeds computation holds) (returned : computation = .ok value) : holds value := by
  obtain ⟨_, same, held⟩ := ran
  rw [returned] at same
  cases same
  exact held

theorem Succeeds.mono {computation : Except ε α} {holds weaker : α → Prop}
    (ran : Succeeds computation holds) (implies : ∀ value, holds value → weaker value) :
    Succeeds computation weaker := by
  obtain ⟨value, returned, held⟩ := ran
  exact ⟨value, returned, implies value held⟩

/-! ### Computations that coincide -/

/-- The two computations are the same, and what they return has the property. -/
structure Coincide (first second : Except ε α) (holds : α → Prop) : Prop where
  same : first = second
  kept : ∀ value, first = .ok value → holds value

theorem coincide_refl (computation : Except ε α) : Coincide computation computation fun _ => True :=
  ⟨rfl, fun _ _ => trivial⟩

theorem coincide_ok {holds : α → Prop} {value : α} (held : holds value) :
    Coincide (.ok value : Except ε α) (.ok value) holds := by
  refine ⟨rfl, fun other returned => ?_⟩
  cases returned
  exact held

/-- Two computations in a row coincide with two others, if the second do on every value that is
known of the first. -/
theorem Coincide.bind {first second : Except ε α} {next other : α → Except ε β} {holds : α → Prop}
    {reached : β → Prop} (coincide : Coincide first second holds)
    (goesOn : ∀ value, holds value → Coincide (next value) (other value) reached) :
    Coincide (first >>= next) (second >>= other) reached := by
  obtain ⟨rfl, kept⟩ := coincide
  cases first with
  | error cause => exact ⟨rfl, nofun⟩
  | ok value => exact goesOn value (kept value rfl)

/-! ### Computations that correspond -/

section Corresponds

variable {γ δ : Type v}

/-- Both computations fail alike, or both return values, and these are related. -/
inductive Corresponds (related : α → β → Prop) : Except ε α → Except ε β → Prop
  | ok {value : α} {other : β} (same : related value other) :
    Corresponds related (.ok value) (.ok other)
  | error (cause : ε) : Corresponds related (.error cause) (.error cause)

theorem corresponds_refl (computation : Except ε α) : Corresponds Eq computation computation := by
  cases computation with
  | error cause => exact .error cause
  | ok value => exact .ok rfl

/-- Two computations in a row correspond to two others, if the second do on related values. -/
theorem Corresponds.bind {first : Except ε α} {second : Except ε β} {next : α → Except ε γ}
    {other : β → Except ε δ} {related : α → β → Prop} {reached : γ → δ → Prop}
    (corresponds : Corresponds related first second)
    (goesOn : ∀ value last, related value last → Corresponds reached (next value) (other last)) :
    Corresponds reached (first >>= next) (second >>= other) := by
  cases corresponds with
  | error cause => exact .error cause
  | ok same => exact goesOn _ _ same

/-- Values that are given by a function are those of the mapped computation. -/
theorem Corresponds.eq_map {first : Except ε α} {second : Except ε β} {carry : α → β}
    (corresponds : Corresponds (fun value other => other = carry value) first second) :
    second = first.map carry := by
  cases corresponds with
  | error cause => rfl
  | ok same => exact congrArg Except.ok same

end Corresponds

end Sequencing

/-! ### Sweeps that succeed -/

namespace Sweep

variable {α : Type u}

/-- **A sweep from the first stage on succeeds**, if every step carries the invariant of its stage
to that of the next one. -/
theorem forward_total (step : Nat → α → Checked α) (count : Nat) (start : α)
    (holds : Nat → α → Prop)
    (advance : ∀ stage, stage < count → ∀ before, holds stage before →
      ∃ after, step stage before = .ok after ∧ holds (stage + 1) after)
    (initial : holds 0 start) :
    ∃ final, forward step count start = .ok final ∧ holds count final := by
  induction count with
  | zero => exact ⟨start, rfl, initial⟩
  | succ count hypothesis =>
    obtain ⟨middle, ran, reached⟩ :=
      hypothesis fun stage below => advance stage (Nat.lt_succ_of_lt below)
    obtain ⟨final, stepped, kept⟩ := advance count (Nat.lt_succ_self count) middle reached
    refine ⟨final, ?_, kept⟩
    rw [forward_succ, ran, ok_bind, stepped]

/-- **A sweep from the last stage back succeeds**, if every step carries the invariant of the stages
above it on to its own stage. -/
theorem backward_total (step : Nat → α → Checked α) (count : Nat) (start : α)
    (holds : Nat → α → Prop)
    (advance : ∀ stage, stage < count → ∀ before, holds (stage + 1) before →
      ∃ after, step stage before = .ok after ∧ holds stage after)
    (initial : holds count start) :
    ∃ final, backward step count start = .ok final ∧ holds 0 final := by
  induction count generalizing start with
  | zero => exact ⟨start, rfl, initial⟩
  | succ count hypothesis =>
    obtain ⟨middle, stepped, reached⟩ := advance count (Nat.lt_succ_self count) start initial
    obtain ⟨final, ran, kept⟩ :=
      hypothesis middle (fun stage below => advance stage (Nat.lt_succ_of_lt below)) reached
    refine ⟨final, ?_, kept⟩
    rw [backward_succ, stepped, ok_bind, ran]

end Sweep

end RecedingHorizon
