/-
**The fewest digits that read back.**

A finite float is written with the fewest decimal digits that are read as the same float. The reals
that round to `m · 2 ^ q` form an interval around it; the first decimal grid that has a point in the
interval gives the digits, and of two points the nearer one.

* `select`: the digits and the power of ten;
* `shortest`: the text, positional for exponents between -5 and 16.
-/

import FlightRoute.Decimal.Binary

namespace FlightRoute.Decimal

/-- The interval of reals that round to a float, in quarters of its last binary place. -/
structure Interval where
  /-- The float itself. -/
  centre : Nat
  low : Nat
  high : Nat
  /-- Whether the ends belong to it. -/
  closed : Bool
  /-- A quarter of the last binary place is this power of two. -/
  exponent : Int

/-- The interval of `mantissa · 2 ^ exponent`. Below a power of two the floats are twice as dense. -/
def Interval.of (value : Binary) : Interval where
  centre := 4 * value.mantissa
  low := 4 * value.mantissa -
    (if value.mantissa = Nat.pow 2 52 ∧ -1074 < value.exponent then 1 else 2)
  high := 4 * value.mantissa + 2
  closed := value.mantissa % 2 = 0
  exponent := value.exponent - 2

/-- Compares `digits · 10 ^ power` with `quarters · 2 ^ exponent`. -/
def compareScaled (digits : Nat) (power : Int) (quarters : Nat) (exponent : Int) : Ordering :=
  compare (digits * Nat.pow 10 power.toNat * Nat.pow 2 (-exponent).toNat)
    (quarters * Nat.pow 2 exponent.toNat * Nat.pow 10 (-power).toNat)

/-- Whether a decimal is read as the float. -/
def Interval.contains (interval : Interval) (digits : Nat) (power : Int) : Bool :=
  match compareScaled digits power interval.low interval.exponent,
    compareScaled digits power interval.high interval.exponent with
  | .gt, .lt => true
  | .eq, _ | _, .eq => interval.closed
  | _, _ => false

/-- The largest multiple of `10 ^ power` that is at most the float, as a multiple. -/
def Interval.floor (interval : Interval) (power : Int) : Nat :=
  interval.centre * Nat.pow 2 interval.exponent.toNat * Nat.pow 10 (-power).toNat /
    (Nat.pow 10 power.toNat * Nat.pow 2 (-interval.exponent).toNat)

/-- The power of ten of the leading digit. -/
def Interval.leading (interval : Interval) : Int :=
  let whole := interval.floor 0
  if 0 < whole then (toString whole).length - 1
  else
    match (List.range 400).find? fun places : Nat => 0 < interval.floor (-(places : Int)) with
    | some places => -(places : Int)
    | none => 0

/-- Whether the upper of two neighbouring multiples of `10 ^ power` is nearer to the float; of two
equally near, the even one. -/
def Interval.prefersUpper (interval : Interval) (lower : Nat) (power : Int) : Bool :=
  match compareScaled (2 * lower + 1) power (2 * interval.centre) interval.exponent with
  | .lt => true
  | .gt => false
  | .eq => lower % 2 = 1

/-- The point of a decimal grid in the interval that is nearest to the float. -/
def Interval.onGrid (interval : Interval) (power : Int) : Option (Nat × Int) :=
  let lower := interval.floor power
  let first := if interval.prefersUpper lower power then lower + 1 else lower
  let second := if interval.prefersUpper lower power then lower else lower + 1
  if interval.contains first power then some (first, power)
  else if interval.contains second power then some (second, power)
  else none

/-- A decimal without zeros at its end. -/
def trimmed : Nat → Nat → Int → Nat × Int
  | 0, digits, power => (digits, power)
  | steps + 1, digits, power =>
    if digits ≠ 0 ∧ digits % 10 = 0 then trimmed steps (digits / 10) (power + 1)
    else (digits, power)

/-- The digits of a float other than zero, and the power of ten of the last of them. -/
def select (value : Binary) : Nat × Int :=
  let interval := Interval.of value
  let leading := interval.leading
  match (List.range 17).findSome? fun more : Nat => interval.onGrid (leading - (more : Int)) with
  | some (digits, power) => trimmed 20 digits power
  | none => (value.mantissa, 0)

/-- Digits and a power of ten as a text: positional where the point is close to the digits, with an
exponent elsewhere. -/
def layout (digits : Nat) (power : Int) : String :=
  let text := toString digits
  let point : Int := text.length + power
  if 0 ≤ power ∧ point ≤ 16 then
    text ++ String.ofList (List.replicate power.toNat '0') ++ ".0"
  else if 0 < point ∧ point ≤ 16 then
    String.ofList (text.toList.take point.toNat) ++ "." ++
      String.ofList (text.toList.drop point.toNat)
  else if -5 < point ∧ point ≤ 0 then
    "0." ++ String.ofList (List.replicate (-point).toNat '0') ++ text
  else
    let rest := text.toList.drop 1
    String.ofList (text.toList.take 1) ++
      (if rest.isEmpty then "" else "." ++ String.ofList rest) ++ "e" ++ toString (point - 1)

/-- The text of a finite float with the fewest digits that read back. -/
def shortest (value : Binary) : String :=
  let sign := if value.negative then "-" else ""
  if value.mantissa = 0 then sign ++ "0.0"
  else
    let (digits, power) := select value
    sign ++ layout digits power

end FlightRoute.Decimal
