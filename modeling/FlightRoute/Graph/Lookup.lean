/-
**Finding nodes.**

* `byWaypoint?`: the node of an exact waypoint;
* `closestByIdent?`: of the nodes with an identifier, the one closest to a reference;
* `sameFix?`: the graph's copy of a fix that was published elsewhere;
* `nearest`: the nodes closest to a reference, in order;
* `hasAirway`: whether an airway leaves a node.
-/

import FlightRoute.Graph.Basic

namespace FlightRoute.Graph

variable {α : Type}

/-- The nodes that carry an identifier, with their waypoints. -/
def candidates (graph : Graph α) (ident : String) : List (Nat × Waypoint) :=
  (graph.allByIdent ident).toList.filterMap fun node =>
    graph.waypoints[node]?.map fun waypoint => (node, waypoint)

/-- The first node of exactly this waypoint. -/
def byWaypoint? (graph : Graph α) (waypoint : Waypoint) : Option Nat :=
  ((graph.candidates waypoint.ident).find? fun candidate => candidate.2 == waypoint).map (·.1)

/-- Whether an edge of this airway leaves the node. -/
def hasAirway (graph : Graph α) (node : Nat) (airway : String) : Except RouteError Bool := do
  return (← graph.edgesFrom node).any fun edge => edge.airway == airway

variable [Distance α]

/-- Of the nodes that carry the identifier, the one closest to the reference. -/
def closestByIdent? (graph : Graph α) (ident : String) (reference : Waypoint) : Option Nat :=
  let candidates := graph.candidates ident
  (closestTo α (candidates.map (·.2)) reference).bind fun position =>
    candidates[position]?.map (·.1)

/-- The graph's copy of a fix: the closest node of the same identifier, when it is close enough. -/
def sameFix? (graph : Graph α) (fix : Waypoint) : Option Nat :=
  (graph.closestByIdent? fix.ident fix).filter fun node =>
    graph.waypoints[node]?.any fun waypoint =>
      Distance.le (Distance.between waypoint fix) (Distance.sameFix : α)

/-- The order of nodes by distance, then by number. -/
def byDistance (a b : α × Nat) : Bool :=
  ((Distance.order a.1 b.1).then (compare a.2 b.2)).isLE

/-- Up to `count` nodes, those closest to the reference first. -/
def nearest (graph : Graph α) (reference : Waypoint) (count : Nat) : List Nat :=
  let measured := graph.waypoints.toList.zipIdx.map fun (waypoint, node) =>
    ((Distance.between waypoint reference : α), node)
  ((measured.mergeSort byDistance).take count).map (·.2)

end FlightRoute.Graph
