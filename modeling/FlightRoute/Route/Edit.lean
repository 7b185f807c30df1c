/-
**Editing routes.**

A waypoint or a whole route is added at either end of a route, with a new leg in between. A length
that is not given is the distance of the two waypoints that are joined.
-/

import FlightRoute.Route.Basic

namespace FlightRoute.Route

variable {α : Type} [Distance α]

omit [Distance α] in
/-- The nodes with `leg` on the last of them. -/
def withLastLeg (leg : Leg α) : List (RouteNode α) → List (RouteNode α)
  | [] => []
  | [last] => [{ last with leg := some leg }]
  | node :: next :: rest => node :: withLastLeg leg (next :: rest)

omit [Distance α] in
/-- Adds a waypoint at the end, behind a given leg. -/
def extend (route : Route α) (leg : Leg α) (waypoint : Waypoint) : Route α :=
  ⟨withLastLeg leg route.nodes ++ [.final waypoint]⟩

/-- The nodes with a leg from the last of them to `next`. -/
def leadTo (next : Waypoint) (airway : String) (distance : Option α)
    (nodes : List (RouteNode α)) : List (RouteNode α) :=
  match nodes.getLast? with
  | some last =>
    withLastLeg { airway, distance := distance.getD (Distance.between last.waypoint next) } nodes
  | none => []

/-- Adds a waypoint at the end. On an empty route it becomes the only node, without a leg. -/
def pushBack (route : Route α) (waypoint : Waypoint) (airway : String) (distance : Option α) :
    Route α :=
  ⟨leadTo waypoint airway distance route.nodes ++ [.final waypoint]⟩

/-- Adds a waypoint at the front. On an empty route the new node keeps its leg, of no length unless
one is given. -/
def pushFront (route : Route α) (waypoint : Waypoint) (airway : String) (distance : Option α) :
    Route α :=
  let length := distance.getD <|
    match route.nodes with
    | first :: _ => Distance.between waypoint first.waypoint
    | [] => Distance.zero
  ⟨{ waypoint, leg := some { airway, distance := length } } :: route.nodes⟩

/-- Adds a whole route at the end, with a leg to its first waypoint. An empty one changes nothing. -/
def append (route other : Route α) (airway : String) (distance : Option α) : Route α :=
  match other.nodes with
  | [] => route
  | first :: rest => ⟨leadTo first.waypoint airway distance route.nodes ++ first :: rest⟩

end FlightRoute.Route
