/-
**Tokens of a route.**

Every word of a route is one token: a command (AUTO, RAND), the direct leg DCT, a literal coordinate,
or an identifier. Whether an identifier names a waypoint, an airway, a procedure or an airport
depends on where it stands and on what the graph knows.
-/

import FlightRoute.Coordinate
import FlightRoute.Waypoint

namespace FlightRoute

/-- One word of a route. -/
inductive Token
  | ident (text : String)
  /-- The direct leg to the next waypoint. -/
  | direct
  /-- A fill by the shortest path. -/
  | auto
  /-- A fill by a random route. -/
  | rand
  /-- A literal coordinate, as written and as read. -/
  | coordinate (text : String) (position : Position)

namespace Token

/-- Tokens agree when kind, text and position do. -/
def agrees : Token → Token → Bool
  | ident a, ident b => a == b
  | direct, direct => true
  | auto, auto => true
  | rand, rand => true
  | coordinate a p, coordinate b q => a == b && p == q
  | _, _ => false

instance instBEq : BEq Token := ⟨agrees⟩

/-- The token of a word in capitals. -/
def classify (word : String) : Except RouteError Token :=
  if word = FlightRoute.direct then .ok .direct
  else if word = "AUTO" then .ok .auto
  else if word = "RAND" then .ok .rand
  else do
    match ← Position.parse word with
    | some position => return .coordinate word position
    | none => return .ident word

/-- How the token is written. -/
def text : Token → String
  | ident text => text
  | direct => FlightRoute.direct
  | auto => "AUTO"
  | rand => "RAND"
  | coordinate text _ => text

/-- Whether the token asks for a fill. -/
def isCommand : Token → Bool
  | auto | rand => true
  | _ => false

/-- Whether the token can stand for a waypoint. -/
def isWaypoint : Token → Bool
  | ident _ | coordinate _ _ => true
  | _ => false

/-- The waypoint that a literal coordinate stands for. -/
def coordinateWaypoint : Token → Option Waypoint
  | coordinate text position => some ⟨text, position.lat, position.lon⟩
  | _ => none

end Token

end FlightRoute
