/-
**Writing JSON texts.**

A value is written on one line, or with one item per line and two blanks per level. Quotes,
backslashes and control characters of a text are escaped, everything else is written as it is.

* `compact`: on one line;
* `pretty`: one item per line.
-/

import FlightRoute.Json.Basic
import FlightRoute.Decimal.Shortest

namespace FlightRoute.Json

/-- How a character of a text is written. -/
def escape (c : Char) : String :=
  match c with
  | '"' => "\\\""
  | '\\' => "\\\\"
  | '\x08' => "\\b"
  | '\x0c' => "\\f"
  | '\n' => "\\n"
  | '\r' => "\\r"
  | '\t' => "\\t"
  | c =>
    if c.toNat < 0x20 then
      "\\u00" ++ String.ofList [Nat.digitChar (c.toNat / 16), Nat.digitChar (c.toNat % 16)]
    else c.toString

/-- A text between quotes. -/
def quoted (text : String) : String :=
  "\"" ++ String.join (text.toList.map escape) ++ "\""

variable {ν : Type}

/-- Items between brackets, on one line. -/
def inline (opening closing : String) (items : List String) : String :=
  opening ++ ",".intercalate items ++ closing

/-- Items between brackets, one per line, `level` levels deep. -/
def stacked (level : Nat) (opening closing : String) (items : List String) : String :=
  let margin (depth : Nat) := "\n" ++ String.ofList (List.replicate (2 * depth) ' ')
  if items.isEmpty then opening ++ closing
  else
    opening ++ ",".intercalate (items.map fun item => margin (level + 1) ++ item) ++
      margin level ++ closing

mutual

/-- A value on one line, where `number` writes its numbers. -/
def compact (number : ν → String) : Json ν → String
  | .null | .unreadable => "null"
  | .bool value => if value then "true" else "false"
  | .number value => number value
  | .text value => quoted value
  | .array items => inline "[" "]" (compactItems number items)
  | .object members => inline "\x7b" "\x7d" (compactMembers number members)

/-- The items of a list. -/
def compactItems (number : ν → String) : List (Json ν) → List String
  | [] => []
  | item :: rest => compact number item :: compactItems number rest

/-- The members of an object. -/
def compactMembers (number : ν → String) : List (String × Json ν) → List String
  | [] => []
  | (name, value) :: rest =>
    (quoted name ++ ":" ++ compact number value) :: compactMembers number rest

end

mutual

/-- A value with one item per line, `level` levels deep. -/
def prettyAt (number : ν → String) (level : Nat) : Json ν → String
  | .null | .unreadable => "null"
  | .bool value => if value then "true" else "false"
  | .number value => number value
  | .text value => quoted value
  | .array items => stacked level "[" "]" (prettyItems number (level + 1) items)
  | .object members => stacked level "\x7b" "\x7d" (prettyMembers number (level + 1) members)

/-- The items of a list. -/
def prettyItems (number : ν → String) (level : Nat) : List (Json ν) → List String
  | [] => []
  | item :: rest => prettyAt number level item :: prettyItems number level rest

/-- The members of an object. -/
def prettyMembers (number : ν → String) (level : Nat) : List (String × Json ν) → List String
  | [] => []
  | (name, value) :: rest =>
    (quoted name ++ ": " ++ prettyAt number level value) :: prettyMembers number level rest

end

/-- A float with the fewest digits that read back; one that is not finite is nothing. -/
def floatText (x : Float) : String :=
  match Decimal.parts x with
  | .finite value => Decimal.shortest value
  | _ => "null"

/-- A value with one item per line. -/
def pretty (value : Json Float) : String := prettyAt floatText 0 value

end FlightRoute.Json
