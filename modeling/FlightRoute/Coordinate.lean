/-
**Literal coordinates.**

A word of a route may give a position on the globe. There are four shapes:

| shape   | example            | meaning                                                    |
|---------|--------------------|------------------------------------------------------------|
| ddddX   | `5020N`            | degrees, the letter gives the quadrant                     |
| ddXdd   | `50N20`            | the same, with 100 added to the second number              |
| XddYddd | `N50W020`          | whole degrees with hemispheres                             |
| decimal | `N32.665W122.1265` | signed decimal degrees, one or two and up to three digits  |

The quadrant letters are N for north and west, E for north and east, S for south and east, W for
south and west. `Position.parse` accepts a word of one of the shapes whose position is on the globe.
-/

import FlightRoute.Error
import FlightRoute.Text.Digits

namespace FlightRoute

/-- A position on the globe, in signed decimal degrees. -/
structure Position where
  /-- Degrees north of the equator. -/
  lat : Float
  /-- Degrees east of the prime meridian. -/
  lon : Float

namespace Position

open Text.Digits

instance instBEq : BEq Position where
  beq a b := a.lat == b.lat && a.lon == b.lon

/-- Whether latitude and longitude are in range. -/
def onGlobe (position : Position) : Bool :=
  position.lat.abs ≤ 90.0 && position.lon.abs ≤ 180.0

/-- The position a quadrant letter makes of two unsigned numbers. -/
def inQuadrant (letter : Char) (lat lon : Float) : Option Position :=
  match letter with
  | 'N' => some ⟨lat, -lon⟩
  | 'E' => some ⟨lat, lon⟩
  | 'S' => some ⟨-lat, lon⟩
  | 'W' => some ⟨-lat, -lon⟩
  | _ => none

/-- A latitude north or south. -/
def latitude (letter : Char) (value : Float) : Option Float :=
  match letter with
  | 'N' => some value
  | 'S' => some (-value)
  | _ => none

/-- A longitude east or west. -/
def longitude (letter : Char) (value : Float) : Option Float :=
  match letter with
  | 'E' => some value
  | 'W' => some (-value)
  | _ => none

/-- Four digits and a quadrant letter at the end. -/
def trailingLetter? : List Char → Option Position
  | [a, b, c, d, letter] =>
    if isNumber [a, b, c, d] then inQuadrant letter (decimal [a, b] []) (decimal [c, d] [])
    else none
  | _ => none

/-- Four digits around a quadrant letter; the longitude is 100 and more. -/
def middleLetter? : List Char → Option Position
  | [a, b, letter, c, d] =>
    if isNumber [a, b, c, d] then
      inQuadrant letter (decimal [a, b] []) (decimal [c, d] [] + 100.0)
    else none
  | _ => none

/-- Whole degrees: a hemisphere and two digits, a hemisphere and three digits. -/
def wholeDegrees? : List Char → Option Position
  | [north, a, b, east, c, d, e] =>
    if isNumber [a, b, c, d, e] then
      match latitude north (decimal [a, b] []), longitude east (decimal [c, d, e] []) with
      | some lat, some lon => some ⟨lat, lon⟩
      | _, _ => none
    else none
  | _ => none

/-- A number at the front: between one and `most` digits, then perhaps a point and more digits. It
comes with the characters after it. -/
def leadingDecimal? (most : Nat) (characters : List Char) : Option (Float × List Char) :=
  let whole := characters.takeWhile Char.isDigit
  if whole.isEmpty || most < whole.length then none
  else match characters.dropWhile Char.isDigit with
    | '.' :: rest =>
      let fraction := rest.takeWhile Char.isDigit
      if fraction.isEmpty then none
      else some (decimal whole fraction, rest.dropWhile Char.isDigit)
    | rest => some (decimal whole [], rest)

/-- Decimal degrees with hemispheres. -/
def decimalDegrees? : List Char → Option Position
  | north :: rest => do
    let (lat, rest) ← leadingDecimal? 2 rest
    let lat ← latitude north lat
    match rest with
    | east :: rest =>
      let (lon, rest) ← leadingDecimal? 3 rest
      let lon ← longitude east lon
      if rest.isEmpty then some ⟨lat, lon⟩ else none
    | [] => none
  | [] => none

/-- The position that the first fitting shape gives, on the globe or not. -/
def shaped? (word : String) : Option Position :=
  let characters := word.toList
  trailingLetter? characters
    <|> middleLetter? characters
    <|> wholeDegrees? characters
    <|> decimalDegrees? characters

/-- The position a word denotes; none when it has no shape of a coordinate, an error when it has one
and lies off the globe. -/
def parse (word : String) : Except RouteError (Option Position) :=
  match shaped? word with
  | none => .ok none
  | some position =>
    if position.onGlobe then .ok (some position)
    else .error (.grammar (.coordinateOutOfRange word))

end Position

end FlightRoute
