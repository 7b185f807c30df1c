/-
**Written numbers.**

A numeral of a JSON text is a whole part, perhaps a fraction, perhaps an exponent. As a count it has
neither. As a float its leading digits are taken as a whole number of 64 bits, further digits only
shift the power of ten, and the number is scaled by that power in one step where the power has a
float.
-/

import FlightRoute.Json.Basic
import FlightRoute.Text.Digits

namespace FlightRoute.Json

open Text.Digits

/-- A number as it stands in a JSON text. -/
structure Numeral where
  negative : Bool
  /-- The digits before the point. -/
  whole : List Char
  /-- The digits after the point. -/
  fraction : List Char
  exponent : Option Int

namespace Numeral

/-- An exponent at the end of a numeral. -/
def exponent? (characters : List Char) : Option Int :=
  let (negative, digits) := match characters with
    | '-' :: digits => (true, digits)
    | '+' :: digits => (false, digits)
    | digits => (false, digits)
  if isNumber digits then some (if negative then -(value digits : Int) else value digits) else none

/-- The numeral that a run of characters spells. No digit stands behind a leading zero, and a point
has digits on both sides. -/
def ofChars? (characters : List Char) : Option Numeral := do
  let (negative, characters) := match characters with
    | '-' :: rest => (true, rest)
    | rest => (false, rest)
  let whole := characters.takeWhile Char.isDigit
  if whole.isEmpty || (whole.head? == some '0' && whole.length != 1) then none
  let (fraction, rest) ← match characters.dropWhile Char.isDigit with
    | '.' :: rest =>
      let fraction := rest.takeWhile Char.isDigit
      if fraction.isEmpty then none else some (fraction, rest.dropWhile Char.isDigit)
    | rest => some ([], rest)
  match rest with
  | [] => some ⟨negative, whole, fraction, none⟩
  | mark :: rest =>
    if mark == 'e' || mark == 'E' then
      (exponent? rest).map fun exponent => ⟨negative, whole, fraction, some exponent⟩
    else none

/-- A whole number of at most 64 bits and a power of ten, while digits are read into them. -/
structure Significand where
  digits : Nat
  /-- The power of ten of the last digit. -/
  power : Int
  /-- Whether the digits have no more room. -/
  full : Bool

/-- Reads a digit before the point. One that has no room shifts the power of ten. -/
def Significand.pushWhole (significand : Significand) (digit : Char) : Significand :=
  let digits := 10 * significand.digits + (digit.toNat - 48)
  if significand.full || wordBound ≤ digits then
    { significand with power := significand.power + 1, full := true }
  else { significand with digits }

/-- Reads a digit after the point. One that has no room is dropped. -/
def Significand.pushFraction (significand : Significand) (digit : Char) : Significand :=
  let digits := 10 * significand.digits + (digit.toNat - 48)
  if significand.full || wordBound ≤ digits then { significand with full := true }
  else { significand with digits, power := significand.power - 1 }

/-- The largest power of ten with a float. -/
def largestPower : Nat := 308

/-- The float of a power of ten. -/
def powerOfTen (power : Nat) : Float := Float.ofScientific 1 false power

/-- Scales a float down by `10 ^ power`, in steps of the largest power; no float but zero survives
four of them. -/
def scaleDown : Nat → Float → Nat → Float
  | 0, x, _ => x * 0.0
  | steps + 1, x, power =>
    if power ≤ largestPower then x / powerOfTen power
    else scaleDown steps (x / powerOfTen largestPower) (power - largestPower)

/-- Scales a float by a power of ten, if the result is finite. -/
def scale? (x : Float) (power : Int) : Option Float :=
  if power < 0 then some (scaleDown 4 x (-power).toNat)
  else if power.toNat ≤ largestPower then
    let scaled := x * powerOfTen power.toNat
    if scaled.isInf then none else some scaled
  else if x == 0.0 then some x
  else none

/-- The whole number and the power of ten of the digits. A new part starts with new room. -/
def significand (numeral : Numeral) : Significand :=
  let whole := numeral.whole.foldl Significand.pushWhole ⟨0, 0, false⟩
  numeral.fraction.foldl Significand.pushFraction { whole with full := false }

/-- The number as a float, unless it is too large. -/
def toFloat? (numeral : Numeral) : Option Float :=
  let significand := numeral.significand
  let magnitude := scale? significand.digits.toUInt64.toFloat
    (significand.power + numeral.exponent.getD 0)
  magnitude.map fun x => if numeral.negative then -x else x

/-- The number as a count below `2 ^ 64`, when no sign, fraction or exponent is written. -/
def toCount? (numeral : Numeral) : Option Nat :=
  let count := value numeral.whole
  if !numeral.negative && numeral.fraction.isEmpty && numeral.exponent.isNone && count < wordBound
  then some count
  else none

instance instJsonNumber : JsonNumber Numeral := ⟨toFloat?, toCount?⟩

end Numeral

end FlightRoute.Json
