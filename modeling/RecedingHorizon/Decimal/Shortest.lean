/-
**Shortest decimals.**

The decimal text of a double is the shortest one that reads back as that double. This module finds
its digits in exact arithmetic on natural numbers:

* `Binary.ofBits` reads a finite positive double as `mantissa · 2 ^ exponent`;
* `Binary.Holds` says which decimals read back as it: those strictly between the midpoints to the
  two neighbouring doubles, and the midpoints too when the mantissa is even;
* `Binary.shortest` takes the coarsest decimal grid that has such a point, and of two such points
  next to the value the nearer one, the upper one on a tie.
-/

namespace RecedingHorizon.Decimal

/-- The decimal `digits · 10 ^ exponent`. -/
structure Scaled where
  digits : Nat
  exponent : Int
deriving DecidableEq, Repr

/-- The positive double `mantissa · 2 ^ exponent`. A double is `narrow` below when it is the least
of its binade, where the gap to its lower neighbour is half the gap to its upper one. -/
structure Binary where
  mantissa : Nat
  exponent : Int
  narrow : Bool
deriving DecidableEq, Repr

namespace Binary

/-- The double with a given pattern of exponent and fraction bits, its sign left out. -/
def ofBits (bits : Nat) : Binary :=
  let unit := Nat.pow 2 52
  let fraction : Nat := bits % unit
  let field : Nat := bits / unit % 2048
  if field = 0 then
    { mantissa := fraction, exponent := -1074, narrow := false }
  else
    { mantissa := unit + fraction, exponent := (field : Int) - 1075,
      narrow := fraction = 0 && 1 < field }

/-! ### A common unit

A quarter of the value's last place and a step of the grid `10 ^ grid` are both whole multiples of
one small unit. `quarter` and `step` are those multiples, so values, midpoints and grid points are
compared as natural numbers. -/

/-- A quarter of the last place, in the common unit. -/
def quarter (value : Binary) (grid : Int) : Nat :=
  Nat.pow 2 (value.exponent - 2).toNat * Nat.pow 10 (-grid).toNat

/-- A step of the grid `10 ^ grid`, in the common unit. -/
def step (value : Binary) (grid : Int) : Nat :=
  Nat.pow 2 (2 - value.exponent).toNat * Nat.pow 10 grid.toNat

/-- The value in the common unit. -/
def center (value : Binary) (grid : Int) : Nat :=
  4 * value.mantissa * value.quarter grid

/-- The midpoint to the lower neighbour, in the common unit. -/
def lower (value : Binary) (grid : Int) : Nat :=
  (4 * value.mantissa - if value.narrow then 1 else 2) * value.quarter grid

/-- The midpoint to the upper neighbour, in the common unit. -/
def upper (value : Binary) (grid : Int) : Nat :=
  (4 * value.mantissa + 2) * value.quarter grid

/-- The decimal reads back as the value. -/
def Holds (value : Binary) (decimal : Scaled) : Prop :=
  let point := decimal.digits * value.step decimal.exponent
  (value.lower decimal.exponent < point ∧ point < value.upper decimal.exponent) ∨
    (value.mantissa % 2 = 0 ∧
      (point = value.lower decimal.exponent ∨ point = value.upper decimal.exponent))

instance (value : Binary) (decimal : Scaled) : Decidable (value.Holds decimal) := by
  unfold Holds
  infer_instance

/-! ### The search -/

/-- The point of the grid next to the value that reads back as it, if there is one. -/
def onGrid? (value : Binary) (grid : Int) : Option Scaled :=
  let below : Scaled := ⟨value.center grid / value.step grid, grid⟩
  let above : Scaled := ⟨below.digits + 1, grid⟩
  if value.Holds below then
    if value.Holds above ∧
        above.digits * value.step grid - value.center grid ≤
          value.center grid - below.digits * value.step grid then
      some above
    else
      some below
  else if value.Holds above then
    some above
  else
    none

/-- The first hit on the grids `10 ^ grid`, `10 ^ (grid - 1)`, … , of which `count` are tried. -/
def search (value : Binary) (grid : Int) : Nat → Option Scaled
  | 0 => none
  | count + 1 =>
    match value.onGrid? grid with
    | some decimal => some decimal
    | none => value.search (grid - 1) count

/-- The number of decimal digits of a natural number, none for zero. -/
def digitCount (n : Nat) : Nat :=
  if n = 0 then 0 else (Nat.toDigits 10 n).length

/-- The exponent of the value's leading decimal digit. -/
def leading (value : Binary) : Int :=
  let whole := value.center 0 / value.step 0
  if whole = 0 then
    -(digitCount ((value.step 0 - 1) / value.center 0) : Int)
  else
    digitCount whole - 1

/-- The shortest decimal that reads back as the value. Seventeen digits always suffice. -/
def shortest (value : Binary) : Scaled :=
  (value.search value.leading 17).getD ⟨0, 0⟩

end Binary

end RecedingHorizon.Decimal
