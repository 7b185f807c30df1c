/-
**Routes that pass over a walk.**

A route along edges has a leg for each edge and passes over the waypoints of the nodes in between. Its
two ends need not be those of the nodes: a route between waypoints off the graph keeps the legs of the
walk that it was made of (`Route.Passes`).

* `Follows.stops_eq`: the nodes of a walk are those that its hops leave, and the last one;
* `routeAlong_isPath`: a route along hops is a path, whatever the graph;
* `nodesAlong_waypoints`: the waypoints of a route along hops are those of the nodes;
* `routeAlong_passes`: a route along hops passes over their edges.
-/

import FlightRoute.Proofs.Graph.Walk
import FlightRoute.Proofs.Route.Connect

namespace FlightRoute

open Search (Hop)

variable {α : Type}

namespace Graph

/-- The nodes of a walk: the one where it starts, and those to which its edges lead. -/
def stops (start : Nat) (edges : List (Edge α)) : List Nat := start :: edges.map (·.target)

theorem stops_append (start : Nat) (edges more : List (Edge α)) :
    stops start (edges ++ more) = stops start edges ++ more.map (·.target) := by
  simp [stops]

variable {graph : Graph α} {start finish : Nat} {hops : List Hop} {edges : List (Edge α)}

/-- **The nodes of a walk** are those that its hops leave, and the last one. -/
theorem Follows.stops_eq (follows : graph.Follows start hops edges finish) :
    stops start edges = hops.map (·.vertex) ++ [finish] := by
  induction follows with
  | stay _ => rfl
  | hop _ _ ih => exact congrArg _ ih

/-- Nodes along hops run somewhere, whatever the graph. -/
theorem nodesAlong_path {waypoint : Waypoint} {nodes : List (RouteNode α)}
    (along : graph.nodesAlong waypoint hops = .ok nodes) :
    ∃ last, Route.Runs waypoint nodes last := by
  induction hops generalizing waypoint nodes with
  | nil =>
    cases along
    exact ⟨waypoint, .final waypoint⟩
  | cons hop rest ih =>
    unfold nodesAlong at along
    obtain ⟨edge, _, along⟩ := bind_eq_ok.mp along
    obtain ⟨next, _, along⟩ := bind_eq_ok.mp along
    obtain ⟨others, further, whole⟩ := bind_eq_ok.mp along
    cases whole
    obtain ⟨last, runs⟩ := ih further
    exact ⟨last, .leg _ runs⟩

theorem routeAlong_isPath {route : Route α} (along : graph.routeAlong start hops = .ok route) :
    route.IsPath := by
  obtain ⟨waypoint, _, along⟩ := routeAlong_eq_ok along
  obtain ⟨last, runs⟩ := nodesAlong_path along
  exact ⟨waypoint, last, runs⟩

/-- **The waypoints of a route along hops** are those of the nodes. -/
theorem nodesAlong_waypoints (follows : graph.Follows start hops edges finish) {waypoint : Waypoint}
    {nodes : List (RouteNode α)} (here : graph.waypoints[start]? = some waypoint)
    (along : graph.nodesAlong waypoint hops = .ok nodes) (position : Nat) :
    (nodes.map (·.waypoint))[position]? =
      (stops start edges)[position]?.bind (graph.waypoints[·]?) := by
  induction follows generalizing waypoint nodes position with
  | stay _ =>
    cases along
    cases position with
    | zero => exact here.symm
    | succ position => rfl
  | hop found _ ih =>
    unfold nodesAlong at along
    obtain ⟨edge, taken, along⟩ := bind_eq_ok.mp along
    obtain ⟨next, there, along⟩ := bind_eq_ok.mp along
    obtain ⟨rest, further, whole⟩ := bind_eq_ok.mp along
    rw [found] at taken
    cases taken
    cases whole
    cases position with
    | zero => exact here.symm
    | succ position => exact ih (waypoint_eq_ok.mp there) further position

/-- A route along hops has a node more than there are edges. -/
theorem nodesAlong_length (follows : graph.Follows start hops edges finish) {waypoint : Waypoint}
    {nodes : List (RouteNode α)} (along : graph.nodesAlong waypoint hops = .ok nodes) :
    nodes.length = edges.length + 1 := by
  induction follows generalizing waypoint nodes with
  | stay _ =>
    cases along
    rfl
  | hop found _ ih =>
    unfold nodesAlong at along
    obtain ⟨edge, taken, along⟩ := bind_eq_ok.mp along
    obtain ⟨next, there, along⟩ := bind_eq_ok.mp along
    obtain ⟨rest, further, whole⟩ := bind_eq_ok.mp along
    rw [found] at taken
    cases taken
    cases whole
    rw [List.length_cons, List.length_cons, ih further]

end Graph

/-- A route with the legs of a walk, over the waypoints of the nodes between its ends. -/
structure Route.Passes (route : Route α) (graph : Graph α) (start : Nat) (edges : List (Edge α))
    (finish : Nat) : Prop where
  walk : graph.Walk start edges finish
  length : route.nodes.length = edges.length + 1
  legs : route.legs = edges.map Edge.leg
  interior : ∀ position, 0 < position → position < edges.length →
    route.waypoints[position]? = (Graph.stops start edges)[position]?.bind (graph.waypoints[·]?)

/-- **A route along hops** passes over their edges. -/
theorem Graph.routeAlong_passes {graph : Graph α} {start finish : Nat} {hops : List Hop}
    {edges : List (Edge α)} (follows : graph.Follows start hops edges finish) {route : Route α}
    (along : graph.routeAlong start hops = .ok route) : route.Passes graph start edges finish := by
  obtain ⟨waypoint, here, along⟩ := routeAlong_eq_ok along
  exact ⟨follows.walk, nodesAlong_length follows along, nodesAlong_legs follows along,
    fun position _ _ => nodesAlong_waypoints follows here along position⟩

end FlightRoute
