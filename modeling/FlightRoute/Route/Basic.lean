/-
**Routes.**

A route is a sequence of waypoints. Every node but the last one carries the leg that leads to the next
node; the operations of `Route.Edit` and `Route.Connect` keep that.

* `Leg`: how two nodes are joined, a label, a length and the fixes passed inside the leg;
* `Route.totalDistance`: the sum of the lengths of all legs.
-/

import FlightRoute.Distance
import FlightRoute.Error

namespace FlightRoute

/-- How a node of a route is joined to the next one. -/
structure Leg (α : Type) where
  /-- The airway, the procedure, or `direct`. -/
  airway : String
  distance : α
  /-- The fixes passed between the two nodes, when the leg is a whole procedure. -/
  inner : List Waypoint := []

/-- A waypoint of a route, with the leg to the next one. -/
structure RouteNode (α : Type) where
  waypoint : Waypoint
  /-- The leg to the next node; the last node has none. -/
  leg : Option (Leg α)

/-- A sequence of waypoints joined by legs. -/
structure Route (α : Type) where
  /-- The nodes in flying order. -/
  nodes : List (RouteNode α)

namespace Leg

variable {α : Type}

instance instBEq [BEq α] : BEq (Leg α) where
  beq a b := a.airway == b.airway && a.distance == b.distance && a.inner == b.inner

/-- A direct leg. -/
def direct (distance : α) : Leg α := { airway := FlightRoute.direct, distance }

/-- Whether the leg is a direct one. -/
def isDirect (leg : Leg α) : Bool := leg.airway == FlightRoute.direct

end Leg

namespace RouteNode

/-- A node without a leg, the last one of a route. -/
def final {α : Type} (waypoint : Waypoint) : RouteNode α := { waypoint := waypoint, leg := none }

instance instBEq {α : Type} [BEq α] : BEq (RouteNode α) where
  beq a b := a.waypoint == b.waypoint && a.leg == b.leg

end RouteNode

namespace Route

variable {α : Type}

instance instBEq [BEq α] : BEq (Route α) where
  beq a b := a.nodes == b.nodes

/-- The route without nodes. -/
def empty : Route α := ⟨[]⟩

/-- The route of one node. -/
def single (waypoint : Waypoint) : Route α := ⟨[.final waypoint]⟩

/-- The route of one leg. -/
def ofLeg (start : Waypoint) (leg : Leg α) (finish : Waypoint) : Route α :=
  ⟨[{ waypoint := start, leg := some leg }, .final finish]⟩

/-- The number of nodes. -/
def length (route : Route α) : Nat := route.nodes.length

/-- The waypoints in flying order. -/
def waypoints (route : Route α) : List Waypoint := route.nodes.map (·.waypoint)

/-- The first waypoint. -/
def first? (route : Route α) : Option Waypoint := route.nodes.head?.map (·.waypoint)

/-- The last waypoint. -/
def last? (route : Route α) : Option Waypoint := route.nodes.getLast?.map (·.waypoint)

/-- The legs in flying order. -/
def legs (route : Route α) : List (Leg α) := route.nodes.filterMap (·.leg)

/-- The sum of the lengths of all legs. A route of fewer than two nodes has none. -/
def totalDistance [Distance α] (route : Route α) : Except RouteError α :=
  if route.nodes.length < 2 then .error .routeTooShort
  else .ok (Distance.total (route.legs.map (·.distance)))

end Route

end FlightRoute
