/-
**Pieces of a route and the gaps between them.**

Once the literal segments are resolved a route consists of pieces: finished routes, and commands that
ask for a fill. A fill runs between the neighbours of its command; at either end of the route it runs
from or to the runway.

* `plan`: what has to be filled in, with the neighbours.
-/

import FlightRoute.Route.Basic

namespace FlightRoute

/-- A segment of a route whose literal tokens are resolved. -/
inductive Piece (α : Type)
  | route (route : Route α)
  /-- To be filled by the shortest path. -/
  | auto
  /-- To be filled by a random route. -/
  | rand

/-- What is on either side of a fill; nothing at the runways. -/
structure Gap where
  /-- The last waypoint before it. -/
  before : Option Waypoint
  /-- The first waypoint behind it. -/
  after : Option Waypoint

/-- What a piece takes to become a route. -/
inductive Fill (α : Type)
  | done (route : Route α)
  | auto (gap : Gap)
  | rand (gap : Gap)

namespace Piece

variable {α : Type}

/-- The first waypoint of a finished route. -/
def first? : Piece α → Option Waypoint
  | route r => r.first?
  | _ => none

/-- The last waypoint of a finished route. -/
def last? : Piece α → Option Waypoint
  | route r => r.last?
  | _ => none

/-- What the piece takes in a gap. -/
def fill (gap : Gap) : Piece α → Fill α
  | route r => .done r
  | auto => .auto gap
  | rand => .rand gap

/-- What the pieces take, behind the piece `previous`. -/
def planAfter (previous : Option (Piece α)) : List (Piece α) → List (Fill α)
  | [] => []
  | piece :: rest =>
    piece.fill ⟨previous.bind last?, rest.head?.bind first?⟩ :: planAfter (some piece) rest

/-- What the pieces take. -/
def plan (pieces : List (Piece α)) : List (Fill α) := planAfter none pieces

end Piece

end FlightRoute
