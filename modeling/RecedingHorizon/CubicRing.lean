/-
**A ring of cells with cubic damping.**

A nonlinear problem whose evaluations are given entry by entry. The cell `j` is driven by the next
cell of the ring, damped by its own cube, driven by an input with a gain that depends on the cell,
and forced in proportion to the time since the origin:

  `f_j(t, y, u) = c₀ y_{j+1} - c₁ y_j³ + u_j (1 + c₂ y_j) + c₃ (t - t₀)`.

The cells of the ring need not be as many as the inputs of a stage, so both are counted in circles.

A reset of the horizon sets the span of a stage, the forcing `c₃` and the origin. A ring may be
made to report other dimensions from its first accepted reset on, while its evaluations keep the old
ones.
-/

import RecedingHorizon.Problem
import RecedingHorizon.Sweep
import RecedingHorizon.Decimal.Notation

namespace RecedingHorizon

universe u

namespace CubicRing

/-- The coefficients of the ring and of its cost. -/
structure Coefficients (K : Type u) where
  /-- The pull `c₀` of the next cell. -/
  coupling : K
  /-- The factor `c₁` of the cube. -/
  damping : K
  /-- The dependence `c₂` of the input gain on the cell. -/
  modulation : K
  /-- The forcing `c₃` over time. -/
  forcing : K
  /-- The cost of the inputs. -/
  inputCost : K
  /-- The cost of the last state. -/
  terminalCost : K

/-- Why a reset is refused. -/
inductive Invalid (K : Type u) where
  | finalLength (value : K)
  | origin

/-- The text of a refusal. -/
def Invalid.message : Invalid Float → String
  | .finalLength value => "final_length must be positive, got " ++ Decimal.plain value
  | .origin => "initial_time must be finite"

end CubicRing

/-- A ring of cells with cubic damping. -/
structure CubicRing (K : Type u) where
  /-- The dimensions of the evaluations. -/
  layout : Dimensions
  coefficients : CubicRing.Coefficients K
  stageSpan : K
  origin : K
  /-- The dimensions reported at present. -/
  reported : Dimensions
  /-- The dimensions reported after the next accepted reset, if they change. -/
  afterReset : Option Dimensions

namespace CubicRing

variable {K : Type u}

/-- A ring with the time origin at zero that reports the dimensions of its evaluations. -/
def ofLayout [Zero K] (layout : Dimensions) (coefficients : Coefficients K) (stageSpan : K)
    (afterReset : Option Dimensions) : CubicRing K where
  layout := layout
  coefficients := coefficients
  stageSpan := stageSpan
  origin := 0
  reported := layout
  afterReset := afterReset

/-- Run a step at every entry of a matrix with the given sizes, row by row. -/
def eachEntry {α : Type u} (rows cols : Nat) (step : Nat → Nat → α → Checked α) (start : α) :
    Checked α :=
  Sweep.forward (fun row => Sweep.forward (step row) cols) rows start

/-- The state that a stage starts at, entry by entry. -/
def stageStart (sample : Sample K) (state : Mat K) (stage cell : Nat) : Checked K :=
  match stage with
  | 0 => Vec.entry sample.state cell
  | previous + 1 => state.entry previous cell

/-! ### Rates of change -/

variable [One K] [Add K] [Sub K] [Mul K]

/-- The rate of a cell on a stage that starts at `start`. -/
def rate (ring : CubicRing K) (sample : Sample K) (start : Nat → Checked K) (stage cell : Nat) :
    Checked K := do
  let c := ring.coefficients
  let width := ring.layout.stageVariables
  let next ← start ((cell + 1) % ring.layout.state)
  let own ← start cell
  let input ← Vec.entry sample.decision (stage * width + cell % width)
  return c.coupling * next - c.damping * own * own * own + input * (1 + c.modulation * own) +
    c.forcing * (sample.time - ring.origin)

/-- The rate of a costate entry, given the state of its stage and the next costate. -/
def costateRate (ring : CubicRing K) (state nextCostate : K) : K :=
  state + ring.coefficients.damping * state * nextCostate

/-! ### Evaluations -/

/-- One Euler step of length `elapsed`, driven by the inputs of the first stage. -/
def predict (ring : CubicRing K) (sample : Sample K) (elapsed : K) (out : Vec K) :
    Checked (CubicRing K × Vec K) := do
  let out ← Sweep.forward (fun cell out => do
    let own ← Vec.entry sample.state cell
    let rate ← ring.rate sample (Vec.entry sample.state) 0 cell
    Vec.store out cell (own + elapsed * rate)) ring.layout.state out
  return (ring, out)

/-- The stationarity residual. -/
def stationarity (ring : CubicRing K) (sample : Sample K) (trajectories : Trajectories K)
    (out : Vec K) : Checked (CubicRing K × Vec K) := do
  let c := ring.coefficients
  let width := ring.layout.stageVariables
  let out ← eachEntry ring.layout.stages width (fun stage place out => do
    let index := stage * width + place
    let cell := place % ring.layout.state
    let value ← Vec.entry sample.decision index
    let costate ← trajectories.costate.entry stage cell
    let start ← stageStart sample trajectories.state stage cell
    let reached ← trajectories.state.entry stage cell
    let measured ← Vec.entry sample.state cell
    Vec.store out index (c.inputCost * value + costate * (1 + c.modulation * start) +
      value * value * reached +
      c.forcing * (sample.time - ring.origin) * measured)) out
  return (ring, out)

/-- The defects of the state and the costate equation. -/
def defects (ring : CubicRing K) (sample : Sample K) (trajectories out : Trajectories K) :
    Checked (CubicRing K × Trajectories K) := do
  let cells := ring.layout.state
  let last := ring.layout.stages - 1
  let state ← eachEntry ring.layout.stages cells (fun stage cell out => do
    let reached ← trajectories.state.entry stage cell
    let start := stageStart sample trajectories.state stage
    let own ← start cell
    let rate ← ring.rate sample start stage cell
    out.store stage cell (reached - own - ring.stageSpan * rate)) out.state
  let terminal ← Sweep.forward (fun cell out => do
    let costate ← trajectories.costate.entry last cell
    let reached ← trajectories.state.entry last cell
    out.store last cell (costate - ring.coefficients.terminalCost * reached)) cells out.costate
  let costate ← eachEntry last cells (fun stage cell out => do
    let costate ← trajectories.costate.entry stage cell
    let next ← trajectories.costate.entry (stage + 1) cell
    let reached ← trajectories.state.entry stage cell
    out.store stage cell
      (costate - next - ring.stageSpan * ring.costateRate reached next)) terminal
  return (ring, { state, costate })

/-- The trajectories with the prescribed defects. -/
def rebuild (ring : CubicRing K) (sample : Sample K) (targets out : Trajectories K) :
    Checked (CubicRing K × Trajectories K) := do
  let cells := ring.layout.state
  let last := ring.layout.stages - 1
  let state ← eachEntry ring.layout.stages cells (fun stage cell out => do
    let start := stageStart sample out stage
    let own ← start cell
    let rate ← ring.rate sample start stage cell
    let target ← targets.state.entry stage cell
    out.store stage cell (own + ring.stageSpan * rate + target)) out.state
  let terminal ← Sweep.forward (fun cell out => do
    let reached ← state.entry last cell
    let target ← targets.costate.entry last cell
    out.store last cell (ring.coefficients.terminalCost * reached + target)) cells out.costate
  let costate ← Sweep.backward (fun stage => Sweep.forward (fun cell out => do
    let next ← out.entry (stage + 1) cell
    let reached ← state.entry stage cell
    let target ← targets.costate.entry stage cell
    out.store stage cell
      (next + ring.stageSpan * ring.costateRate reached next + target)) cells) last terminal
  return (ring, { state, costate })

/-! ### Resets -/

/-- The ring after an accepted reset. -/
def announce (ring : CubicRing K) : CubicRing K :=
  { ring with reported := ring.afterReset.getD ring.reported }

/-- A new span of the stages, forcing and origin, if the final length is positive. -/
def reset [Zero K] [Div K] [NatCast K] [LT K] [DecidableLT K] (ring : CubicRing K)
    (settings : Horizon.Settings K) : CubicRing K × Except (Invalid K) Unit :=
  if 0 < settings.finalLength then
    (announce { ring with
      stageSpan := settings.finalLength / (ring.layout.stages : K)
      coefficients := { ring.coefficients with forcing := settings.growthRate }
      origin := settings.origin }, .ok ())
  else
    (ring, .error (.finalLength settings.finalLength))

/-- A new origin, if it is finite. -/
def moveOrigin [ScalarFunctions K] (ring : CubicRing K) (origin : K) :
    CubicRing K × Except (Invalid K) Unit :=
  if ScalarFunctions.isFinite origin then
    (announce { ring with origin }, .ok ())
  else
    (ring, .error .origin)

/-- The ring as a problem for the continuation. -/
instance problem [Zero K] [Div K] [NatCast K] [LT K] [DecidableLT K] [ScalarFunctions K] :
    Problem (CubicRing K) K (Invalid K) where
  dimensions := reported
  predict := predict
  stationarity := stationarity
  defects := defects
  rebuild := rebuild
  reset := reset
  moveOrigin := moveOrigin

end CubicRing

end RecedingHorizon
