/-
**JSON values.**

A JSON value is generic in its numbers: a value that was read holds numerals as they were written
(`FlightRoute.Json.Numeral`), a value to be written holds floats. Objects keep their members in the
order of the text, repeated names included. A part of a text that no Lean string represents is kept as
`unreadable`: it may stand where nothing reads it.
-/

namespace FlightRoute

/-- A JSON value with numbers of type `ν`. -/
inductive Json (ν : Type)
  | null
  | bool (value : Bool)
  | number (value : ν)
  | text (value : String)
  | array (items : List (Json ν))
  | object (members : List (String × Json ν))
  /-- A value with a text or a name that holds half of a surrogate pair. -/
  | unreadable

/-- Numbers that a JSON value may hold: what they are as floats and as counts. -/
class JsonNumber (ν : Type) where
  /-- The number as a float, unless it is too large. -/
  toFloat? : ν → Option Float
  /-- The number as a count below `2 ^ 64`, when it is written as one. -/
  toCount? : ν → Option Nat

namespace Json

mutual

/-- The value with every number replaced by a value. -/
def replaceNumbers {ν μ : Type} (f : ν → Json μ) : Json ν → Json μ
  | null => null
  | bool value => bool value
  | number value => f value
  | text value => text value
  | array items => array (replaceInItems f items)
  | object members => object (replaceInMembers f members)
  | unreadable => unreadable

/-- The items with every number replaced by a value. -/
def replaceInItems {ν μ : Type} (f : ν → Json μ) : List (Json ν) → List (Json μ)
  | [] => []
  | item :: rest => replaceNumbers f item :: replaceInItems f rest

/-- The members with every number replaced by a value. -/
def replaceInMembers {ν μ : Type} (f : ν → Json μ) :
    List (String × Json ν) → List (String × Json μ)
  | [] => []
  | (name, value) :: rest => (name, replaceNumbers f value) :: replaceInMembers f rest

end

/-- A float to be written is itself, and never a count. -/
instance instJsonNumberFloat : JsonNumber Float where
  toFloat? x := some x
  toCount? _ := none

/-- A float as a JSON value; one that is not finite is nothing. -/
def ofFloat (x : Float) : Json Float := if x.isFinite then .number x else .null

end Json

end FlightRoute
