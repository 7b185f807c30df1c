/-
**Connecting routes.**

Two routes are connected where the last waypoint of the one is the first of the other; the shared
waypoint appears once. An empty route connects to everything.

* `connect`: two routes;
* `connectInPlace`: a route that is held and another one;
* `connectAll`: a list of routes from left to right.
-/

import FlightRoute.Route.Basic

namespace FlightRoute.Route

variable {α : Type}

/-- Joins two routes at their seam. -/
def connect (route other : Route α) : Except RouteError (Route α) :=
  match route.nodes.getLast?, other.nodes with
  | none, _ => .ok other
  | some _, [] => .ok route
  | some seam, first :: rest =>
    if seam.waypoint == first.waypoint then .ok ⟨route.nodes.dropLast ++ first :: rest⟩
    else .error (.connectionMismatch seam.waypoint.ident first.waypoint.ident)

/-- Joins a route to the one that is held: the seam is compared first, and only then the last node
gives way to the nodes of the other route. -/
def connectInPlace (other : Route α) : EStateM RouteError (Route α) Unit := do
  let held ← get
  match held.nodes.getLast?, other.nodes with
  | none, _ => set other
  | some _, [] => pure ()
  | some seam, first :: _ =>
    if seam.waypoint != first.waypoint then
      throw (.connectionMismatch seam.waypoint.ident first.waypoint.ident)
    modify fun held => ⟨held.nodes.dropLast⟩
    modify fun held => ⟨held.nodes ++ other.nodes⟩

/-- Joins routes from left to right. -/
def connectAll (routes : List (Route α)) : Except RouteError (Route α) :=
  routes.foldlM connect empty

end FlightRoute.Route
