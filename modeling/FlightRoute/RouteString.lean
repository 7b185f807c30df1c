/-
**The text of a route as tokens.**

A route text is split at blanks, put into capitals and read word by word.

* `parse`: the tokens of a text;
* `display`: the tokens with one space between two of them;
* `checkCommands`: no two commands side by side;
* `stripAirports`: without the airports at either end.
-/

import FlightRoute.Token
import FlightRoute.Text.Blank

namespace FlightRoute.RouteString

/-- The tokens of a text. The first word that is a coordinate off the globe is the error. -/
def parse (text : String) : Except RouteError (List Token) :=
  (Text.words text).mapM fun word => Token.classify word.toUpper

/-- The tokens as a text. -/
def display (tokens : List Token) : String := " ".intercalate (tokens.map Token.text)

/-- The first two commands that stand side by side. -/
def adjacentCommands : List Token → Option (Token × Token)
  | first :: second :: rest =>
    if first.isCommand && second.isCommand then some (first, second)
    else adjacentCommands (second :: rest)
  | _ => none

/-- The error for two commands side by side. -/
def commandClash (first second : Token) : RouteError :=
  .grammar (.adjacentCommands first.text second.text)

/-- Refuses two commands side by side. -/
def checkCommands (tokens : List Token) : Except RouteError Unit :=
  match adjacentCommands tokens with
  | some (first, second) => .error (commandClash first second)
  | none => .ok ()

/-- The tokens without a first one that reads `icao`. -/
def stripOrigin (icao : String) : List Token → List Token
  | first :: rest => if first.text = icao then rest else first :: rest
  | [] => []

/-- The tokens without a last one that reads `icao`. -/
def stripDestination (icao : String) (tokens : List Token) : List Token :=
  match tokens.getLast? with
  | some last => if last.text = icao then tokens.dropLast else tokens
  | none => tokens

/-- The tokens without the origin in front and the destination at the end. -/
def stripAirports (origin destination : String) (tokens : List Token) : List Token :=
  stripDestination destination (stripOrigin origin tokens)

/-- The waypoints of the literal coordinates, in order of appearance. -/
def coordinates (tokens : List Token) : List Waypoint :=
  tokens.filterMap Token.coordinateWaypoint

end FlightRoute.RouteString
