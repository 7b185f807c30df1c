/-
**Floats as whole numbers and powers of two.**

A finite float is, up to its sign, `mantissa · 2 ^ exponent`. Decimal texts are computed from these
two numbers exactly.
-/

namespace FlightRoute.Decimal

/-- A finite float: a sign, and `mantissa · 2 ^ exponent`. -/
structure Binary where
  negative : Bool
  mantissa : Nat
  exponent : Int

/-- A float that can be written in digits, or one that cannot. -/
inductive Parts
  | finite (value : Binary)
  | infinite (negative : Bool)
  | notNumber

/-- The parts of a float. -/
def parts (x : Float) : Parts :=
  let bits : Nat := x.toBits.toNat
  let negative := bits / Nat.pow 2 63 == 1
  let scale : Nat := bits / Nat.pow 2 52 % Nat.pow 2 11
  let fraction : Nat := bits % Nat.pow 2 52
  if scale == 2047 then if fraction == 0 then .infinite negative else .notNumber
  else if scale == 0 then .finite ⟨negative, fraction, -1074⟩
  else .finite ⟨negative, Nat.pow 2 52 + fraction, (scale : Int) - 1075⟩

/-- A number with at least `width` digits, with zeros in front where it has fewer. -/
def padded (width number : Nat) : String :=
  let digits := toString number
  String.ofList (List.replicate (width - digits.length) '0') ++ digits

/-- The sixteen hexadecimal digits of the bits of a float. -/
def bitText (x : Float) : String :=
  let digits := String.ofList (Nat.toDigits 16 x.toBits.toNat)
  String.ofList (List.replicate (16 - digits.length) '0') ++ digits

end FlightRoute.Decimal
