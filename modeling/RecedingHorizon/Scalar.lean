/-
**Scalars.**

Every computation of this library is written once, over a scalar type `K` that offers the arithmetic
operations, an order and the functions below. It runs at `Float`; over an ordered field the same
definitions are the exact method.

* `ScalarFunctions`: the exponential of the growing horizon, the square root of the optimality norm
  and the test for a finite value.
-/

namespace RecedingHorizon

universe u

/-- The functions that the method needs beyond field arithmetic. No law is assumed of them here. -/
class ScalarFunctions (K : Type u) where
  /-- The exponential, which shapes the growth of the horizon. -/
  exp : K → K
  /-- The square root, which turns a sum of squares into a norm. -/
  sqrt : K → K
  /-- Whether a value is a number of finite size. -/
  isFinite : K → Bool

/-- Double precision: the exponential and the square root of the platform. -/
instance doublePrecision : ScalarFunctions Float where
  exp := Float.exp
  sqrt := Float.sqrt
  isFinite := Float.isFinite

/-- A count as a double, rounded to nearest. -/
instance doubleOfCount : NatCast Float where
  natCast := Float.ofNat

end RecedingHorizon
