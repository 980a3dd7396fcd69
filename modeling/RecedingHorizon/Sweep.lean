/-
**Sweeps over the stages.**

Shooting visits the stages of the horizon in order, and its adjoint visits them in reverse.

* `Sweep.forward n` runs a step at the stages `0, 1, … , n - 1`;
* `Sweep.backward n` runs a step at the stages `n - 1, … , 1, 0`.
-/

import RecedingHorizon.Dense.Vec

namespace RecedingHorizon.Sweep

universe u

variable {α : Type u}

/-- Run a step at the stages below `count`, from the first to the last. -/
def forward (step : Nat → α → Checked α) : (count : Nat) → α → Checked α
  | 0, state => .ok state
  | stage + 1, state => do
    let state ← forward step stage state
    step stage state

@[simp]
theorem forward_zero (step : Nat → α → Checked α) (state : α) :
    forward step 0 state = .ok state := rfl

theorem forward_succ (step : Nat → α → Checked α) (count : Nat) (state : α) :
    forward step (count + 1) state = forward step count state >>= step count := rfl

/-- Run a step at the stages below `count`, from the last to the first. -/
def backward (step : Nat → α → Checked α) : (count : Nat) → α → Checked α
  | 0, state => .ok state
  | stage + 1, state => do
    let state ← step stage state
    backward step stage state

@[simp]
theorem backward_zero (step : Nat → α → Checked α) (state : α) :
    backward step 0 state = .ok state := rfl

theorem backward_succ (step : Nat → α → Checked α) (count : Nat) (state : α) :
    backward step (count + 1) state = step count state >>= backward step count := rfl

end RecedingHorizon.Sweep
