/-
**Decimal notation.**

How a double is written. The digits are the shortest ones that read back as the same double; a
`Style` fixes everything else, namely which magnitudes are written without an exponent and how a
whole number ends. Two styles are in use:

* `Style.plain`, in messages: never an exponent, and nothing after a whole number;
* `Style.exchange`, in answers: an exponent below `10 ^ (-4)` and from `10 ^ 16` on, and `.0` after
  a whole number, so that a reader sees a floating-point value.
-/

import RecedingHorizon.Decimal.Shortest

namespace RecedingHorizon.Decimal

/-- A double as the sum of its parts. -/
inductive Value where
  | nan
  | infinite (negative : Bool)
  | zero (negative : Bool)
  | finite (negative : Bool) (decimal : Scaled)
deriving DecidableEq, Repr

/-- The parts of a double, with its shortest digits. -/
def Value.ofFloat (x : Float) : Value :=
  let bits := x.toBits.toNat
  let signBit := Nat.pow 2 63
  let negative := signBit ≤ bits
  if x.isNaN then .nan
  else if x.isInf then .infinite negative
  else if bits % signBit = 0 then .zero negative
  else .finite negative (Binary.ofBits bits).shortest

/-- The decisions of a notation that the digits leave open. -/
structure Style where
  /-- The least and the greatest leading exponent written without an exponent part, or every one. -/
  positional : Option (Int × Int)
  /-- What follows a whole number. -/
  whole : String

/-- The notation of messages. -/
def Style.plain : Style where
  positional := none
  whole := ""

/-- The notation of answers. -/
def Style.exchange : Style where
  positional := some (-4, 15)
  whole := ".0"

namespace Style

/-- The digits with a point after the first `place` of them, filled up with zeros on either side. -/
def layout (style : Style) (digits : List Char) (place : Int) : List Char :=
  if place ≤ 0 then
    '0' :: '.' :: List.replicate (-place).toNat '0' ++ digits
  else if digits.length ≤ place.toNat then
    digits ++ List.replicate (place.toNat - digits.length) '0' ++ style.whole.toList
  else
    digits.take place.toNat ++ '.' :: digits.drop place.toNat

/-- The first digit, the others after a point, and the exponent of the first. -/
def scientific (digits : List Char) (leading : Int) : List Char :=
  let tail := digits.drop 1
  digits.take 1 ++ (if tail.isEmpty then [] else '.' :: tail) ++ 'e' :: (toString leading).toList

/-- A positive decimal in the given notation. -/
def decimal (style : Style) (value : Scaled) : List Char :=
  let all := Nat.toDigits 10 value.digits
  let digits := (all.reverse.dropWhile (· == '0')).reverse
  let place := (all.length : Int) + value.exponent
  match style.positional with
  | none => style.layout digits place
  | some (least, greatest) =>
    if least ≤ place - 1 ∧ place - 1 ≤ greatest then
      style.layout digits place
    else
      scientific digits (place - 1)

/-- The sign in front of a text. -/
def sign (negative : Bool) (text : List Char) : String :=
  String.ofList (if negative then '-' :: text else text)

/-- A value in the given notation. -/
def value (style : Style) : Value → String
  | .nan => "NaN"
  | .infinite negative => sign negative ['i', 'n', 'f']
  | .zero negative => sign negative ('0' :: style.whole.toList)
  | .finite negative number => sign negative (style.decimal number)

/-- A double in the given notation. -/
def write (style : Style) (x : Float) : String :=
  style.value (Value.ofFloat x)

end Style

/-- A double as it stands in a message. -/
def plain (x : Float) : String :=
  Style.plain.write x

end RecedingHorizon.Decimal
