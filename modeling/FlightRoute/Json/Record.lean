/-
**Records in JSON values.**

A record is an object with known members, or a list of their values in a fixed order. Other members
of an object are skipped; a known member given twice is refused. In a list nothing may follow the
last known value, and only values with a default may be missing at its end.

* `record?`: the known members of a value;
* `Record.required?`, `Record.optional?`, `Record.nullable?`: a member that must be there, one with a
  default, and one that an object may leave out.
-/

import FlightRoute.Json.Basic

namespace FlightRoute.Json

/-- The known members that a value gives. -/
structure Record (ν : Type) where
  /-- Whether the members come by position. -/
  positional : Bool
  /-- The members that are there. -/
  members : List (String × Json ν)

/-- Whether a list holds no name twice. -/
def distinct : List String → Bool
  | [] => true
  | name :: rest => !rest.contains name && distinct rest

variable {ν β : Type}

/-- The members of these names. -/
def record? (names : List String) : Json ν → Option (Record ν)
  | .object members =>
    let known := members.filter fun member => names.contains member.1
    if distinct (known.map (·.1)) then some ⟨false, known⟩ else none
  | .array items => if items.length ≤ names.length then some ⟨true, names.zip items⟩ else none
  | _ => none

/-- The value of a member. -/
def Record.get? (record : Record ν) (name : String) : Option (Json ν) :=
  (record.members.find? fun member => member.1 == name).map (·.2)

/-- A member that must be there. -/
def Record.required? (record : Record ν) (name : String) (read : Json ν → Option β) : Option β :=
  (record.get? name).bind read

/-- A member with a default. -/
def Record.optional? (record : Record ν) (name : String) (read : Json ν → Option β)
    (default : β) : Option β :=
  match record.get? name with
  | some value => read value
  | none => some default

/-- A member that may be nothing, and that an object may leave out. -/
def Record.nullable? (record : Record ν) (name : String) (read : Json ν → Option (Option β)) :
    Option (Option β) :=
  match record.get? name with
  | some value => read value
  | none => if record.positional then none else some none

/-- A text. -/
def text? : Json ν → Option String
  | .text value => some value
  | _ => none

/-- A truth value. -/
def bool? : Json ν → Option Bool
  | .bool value => some value
  | _ => none

/-- A list of values of one kind. -/
def list? (read : Json ν → Option β) : Json ν → Option (List β)
  | .array items => items.mapM read
  | _ => none

/-- A value or nothing. -/
def option? (read : Json ν → Option β) : Json ν → Option (Option β)
  | .null => some none
  | value => (read value).map some

/-- A float. -/
def float? [JsonNumber ν] : Json ν → Option Float
  | .number value => JsonNumber.toFloat? value
  | _ => none

/-- A count below `2 ^ 64`. -/
def count? [JsonNumber ν] : Json ν → Option Nat
  | .number value => JsonNumber.toCount? value
  | _ => none

/-- The name of a case: a text, or an object of one member of that name with nothing in it. -/
def tag? : Json ν → Option String
  | .text value => some value
  | .object [(name, .null)] => some name
  | _ => none

end FlightRoute.Json
