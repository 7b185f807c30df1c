/-
**Floats with a fixed number of places.**

`fixed places x` writes the exact value of `x`, rounded to `places` decimal places, a half to the even
neighbour.
-/

import FlightRoute.Decimal.Binary

namespace FlightRoute.Decimal

/-- The whole number nearest to a quotient; of two, the even one. -/
def roundDiv (numerator denominator : Nat) : Nat :=
  let quotient := numerator / denominator
  let remainder := numerator % denominator
  if denominator < 2 * remainder ∨ 2 * remainder = denominator ∧ quotient % 2 = 1 then quotient + 1
  else quotient

/-- The number `mantissa · 2 ^ exponent` in units of the last of `places` decimal places. -/
def scaled (places : Nat) (value : Binary) : Nat :=
  let units := value.mantissa * Nat.pow 10 places
  if value.exponent < 0 then roundDiv units (Nat.pow 2 (-value.exponent).toNat)
  else units * Nat.pow 2 value.exponent.toNat

/-- A float with `places` decimal places. -/
def fixed (places : Nat) (x : Float) : String :=
  match parts x with
  | .notNumber => "NaN"
  | .infinite negative => if negative then "-inf" else "inf"
  | .finite value =>
    let units := scaled places value
    let sign := if value.negative then "-" else ""
    let fraction := if places == 0 then "" else "." ++ padded places (units % Nat.pow 10 places)
    sign ++ toString (units / Nat.pow 10 places) ++ fraction

end FlightRoute.Decimal
