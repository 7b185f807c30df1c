/-
**How a shortest route is put together.**

A connection becomes a route in three parts: from the endpoint to the node at which the graph is
entered, along the edges, and from the node at which it is left to the other endpoint.

* `anchors_terminal`: the anchors of a terminal are its links, in order;
* `opening_runs`, `closing_runs`: each part begins where the one before ends;
* `find_eq_ok`: what a route that is found consists of;
* `find_runs`: it runs from the one endpoint to the other;
* `findBetween_eq_ok`: what a route between two nodes consists of;
* `alongAirway_eq_ok`, `alongAirway_runs`: a route along an airway leads to one of the candidates.
-/

import FlightRoute.Proofs.ShortestRoute.Connection

namespace FlightRoute

variable {α : Type}

/-- Where a route from or to an endpoint has its end. -/
def Endpoint.At (graph : Graph α) (waypoint : Waypoint) : Endpoint α → Prop
  | .node index => graph.waypoints[index]? = some waypoint
  | .terminal threshold _ => threshold = waypoint

/-- All nodes at which the endpoint joins the graph have a property. -/
def Endpoint.Anchored (holds : Nat → Prop) : Endpoint α → Prop
  | .node index => holds index
  | .terminal _ links => ∀ link ∈ links, holds link.node

/-- The endpoint joins the graph at nodes below a number. -/
def Endpoint.Within (size : Nat) (endpoint : Endpoint α) : Prop :=
  endpoint.Anchored fun node => node < size

namespace ShortestRoute

variable {graph : Graph α} {endpoint : Endpoint α} {index node : Nat} {waypoint finish : Waypoint}

theorem linkAt_eq_ok {links : List (TerminalLink α)} {link : TerminalLink α} :
    linkAt links index = .ok link ↔ links[index]? = some link := by
  unfold linkAt
  cases links[index]? with
  | none => simp
  | some link => simp

variable [Distance α] {anchors : List (Nat × α)} {cost : α}

theorem anchors_node {other : Nat}
    (anchored : (Endpoint.node other).anchors graph = .ok anchors)
    (here : anchors[index]? = some (node, cost)) : node = other ∧ cost = Distance.zero := by
  cases anchored
  rw [List.getElem?_singleton] at here
  split at here
  · cases here
    exact ⟨rfl, rfl⟩
  · cases here

theorem anchors_terminal {threshold : Waypoint} {links : List (TerminalLink α)}
    (anchored : (Endpoint.terminal threshold links).anchors graph = .ok anchors) :
    anchors[index]? = some (node, cost) ↔
      ∃ link, links[index]? = some link ∧ link.node = node ∧ link.cost graph = .ok cost := by
  rw [mapM_getElem? anchored]
  refine exists_congr fun link => and_congr_right fun _ => ?_
  simp [bind_eq_ok, and_comm]

/-- What holds of the nodes at which an endpoint joins the graph holds of its anchors. -/
theorem anchors_hold {holds : Nat → Prop} (joins : endpoint.Anchored holds)
    (anchored : endpoint.anchors graph = .ok anchors) : ∀ anchor ∈ anchors, holds anchor.1 := by
  intro anchor member
  obtain ⟨index, here⟩ := List.mem_iff_getElem?.mp member
  cases endpoint with
  | node node =>
    obtain ⟨same, _⟩ := anchors_node anchored here
    exact same ▸ joins
  | terminal waypoint links =>
    obtain ⟨link, linked, same, _⟩ := (anchors_terminal anchored).mp here
    exact same ▸ joins link (List.mem_of_getElem? linked)

/-- The nodes in front of a route from an anchor lead there from the endpoint. -/
theorem opening_runs (anchored : endpoint.anchors graph = .ok anchors)
    (here : anchors[index]? = some (node, cost)) (found : graph.waypoints[node]? = some waypoint)
    {front nodes : List (RouteNode α)} (opened : opening graph endpoint index = .ok front)
    (runs : Route.Runs waypoint nodes finish) :
    ∃ start, endpoint.At graph start ∧ Route.Runs start (front ++ nodes) finish := by
  cases endpoint with
  | node other =>
    obtain ⟨rfl, _⟩ := anchors_node anchored here
    cases opened
    exact ⟨waypoint, found, runs⟩
  | terminal threshold links =>
    obtain ⟨link, linked, opened⟩ := bind_eq_ok.mp opened
    refine ⟨threshold, rfl, ?_⟩
    cases via : link.via with
    | none =>
      rw [via] at opened
      cases opened
      exact .leg _ runs
    | some bridge =>
      rw [via] at opened
      obtain ⟨place, _, opened⟩ := bind_eq_ok.mp opened
      cases opened
      exact .leg _ (.leg _ runs)

/-- The nodes behind a route to an anchor lead to the endpoint. -/
theorem closing_runs (anchored : endpoint.anchors graph = .ok anchors)
    (here : anchors[index]? = some (node, cost)) (found : graph.waypoints[node]? = some finish)
    {route whole : Route α} (closed : closing graph endpoint index route = .ok whole)
    (runs : Route.Runs waypoint route.nodes finish) :
    ∃ last, endpoint.At graph last ∧ Route.Runs waypoint whole.nodes last := by
  cases endpoint with
  | node other =>
    obtain ⟨rfl, _⟩ := anchors_node anchored here
    cases closed
    exact ⟨finish, found, runs⟩
  | terminal threshold links =>
    obtain ⟨link, linked, closed⟩ := bind_eq_ok.mp closed
    refine ⟨threshold, rfl, ?_⟩
    cases via : link.via with
    | none =>
      rw [via] at closed
      cases closed
      exact runs.extend _ _
    | some bridge =>
      rw [via] at closed
      obtain ⟨place, _, closed⟩ := bind_eq_ok.mp closed
      cases closed
      exact (runs.extend _ _).extend _ _

/-- **The parts of a route that is found.** -/
theorem find_eq_ok {start finish : Endpoint α} {cancel : Option CancelFlag} {route : Route α}
    (found : find graph start finish cancel = .ok route) :
    ∃ sources targets connection front middle,
      start.anchors graph = .ok sources ∧ finish.anchors graph = .ok targets ∧
      graph.connection? sources targets none cancel = .ok (some connection) ∧
      opening graph start connection.source = .ok front ∧
      graph.routeAlong connection.start connection.hops = .ok middle ∧
      closing graph finish connection.target ⟨front ++ middle.nodes⟩ = .ok route := by
  unfold find at found
  obtain ⟨sources, entered, found⟩ := bind_eq_ok.mp found
  obtain ⟨targets, left, found⟩ := bind_eq_ok.mp found
  obtain ⟨outcome, searched, found⟩ := bind_eq_ok.mp found
  cases outcome with
  | none =>
    dsimp only at found
    obtain ⟨_, _, found⟩ := bind_eq_ok.mp found
    obtain ⟨_, _, found⟩ := bind_eq_ok.mp found
    cases found
  | some connection =>
    dsimp only at found
    obtain ⟨front, opened, found⟩ := bind_eq_ok.mp found
    obtain ⟨middle, along, closed⟩ := bind_eq_ok.mp found
    exact ⟨sources, targets, connection, front, middle, entered, left, searched, opened, along, closed⟩

/-- **A route that is found runs from the one endpoint to the other.** -/
theorem find_runs (wellFormed : graph.WellFormed) {start finish : Endpoint α}
    {cancel : Option CancelFlag} {route : Route α}
    (found : find graph start finish cancel = .ok route) :
    ∃ first last, start.At graph first ∧ finish.At graph last ∧
      Route.Runs first route.nodes last := by
  obtain ⟨sources, targets, connection, front, middle, entered, left, searched, opened, along,
    closed⟩ := find_eq_ok found
  obtain ⟨edges, node, before, after, joins⟩ := Graph.connection?_joins wellFormed searched
  obtain ⟨entry, place, along⟩ := Graph.routeAlong_eq_ok along
  obtain ⟨exit, there, runs⟩ := Graph.nodesAlong_runs joins.follows place along
  obtain ⟨first, begins, runs⟩ := opening_runs entered joins.source place opened runs
  obtain ⟨last, ends, runs⟩ := closing_runs left joins.target there closed runs
  exact ⟨first, last, begins, ends, runs⟩

/-- What a route between two nodes consists of. -/
theorem findBetween_eq_ok {start finish : Nat} {cancel : Option CancelFlag} {route : Route α}
    (found : findBetween graph start finish cancel = .ok route) :
    ∃ connection, graph.connection? [(start, Distance.zero)] [(finish, Distance.zero)] none cancel =
        .ok (some connection) ∧
      graph.routeAlong connection.start connection.hops = .ok route := by
  obtain ⟨sources, targets, connection, front, middle, entered, left, searched, opened, along,
    closed⟩ := find_eq_ok found
  cases entered
  cases left
  cases opened
  cases closed
  exact ⟨connection, searched, along⟩

/-- What a route along an airway consists of. -/
theorem alongAirway_connection {start : Nat} {candidates : List Nat} {airway : String}
    {cancel : Option CancelFlag} {route : Route α}
    (found : alongAirway graph start candidates airway cancel = .ok route) :
    ∃ connection, graph.connection? [(start, Distance.zero)]
        (candidates.map fun node => (node, Distance.zero)) (some airway) cancel =
        .ok (some connection) ∧
      graph.routeAlong connection.start connection.hops = .ok route := by
  unfold alongAirway at found
  dsimp only at found
  obtain ⟨outcome, searched, found⟩ := bind_eq_ok.mp found
  cases outcome with
  | none =>
    dsimp only at found
    split at found
    · obtain ⟨_, _, found⟩ := bind_eq_ok.mp found
      obtain ⟨_, _, found⟩ := bind_eq_ok.mp found
      cases found
    · obtain ⟨_, _, found⟩ := bind_eq_ok.mp found
      obtain ⟨_, _, found⟩ := bind_eq_ok.mp found
      cases found
  | some connection => exact ⟨connection, searched, found⟩

/-- **A route along an airway** is one along edges of the airway to one of the candidates. -/
theorem alongAirway_eq_ok (wellFormed : graph.WellFormed) {start : Nat} {candidates : List Nat}
    {airway : String} {cancel : Option CancelFlag} {route : Route α}
    (found : alongAirway graph start candidates airway cancel = .ok route) :
    ∃ hops edges target, graph.Follows start hops edges target ∧ target ∈ candidates ∧
      (∀ edge ∈ edges, edge.airway = airway) ∧ graph.routeAlong start hops = .ok route := by
  obtain ⟨connection, searched, along⟩ := alongAirway_connection found
  obtain ⟨edges, node, before, after, joins⟩ := Graph.connection?_joins wellFormed searched
  obtain ⟨rfl, _⟩ := Prod.mk.inj (List.mem_singleton.mp (List.mem_of_getElem? joins.source))
  obtain ⟨target, member, same⟩ := List.mem_map.mp (List.mem_of_getElem? joins.target)
  obtain ⟨rfl, _⟩ := Prod.mk.inj same
  refine ⟨connection.hops, edges, target, joins.follows, member, fun edge taken => ?_, along⟩
  have named : (airway == edge.airway) = true := joins.along edge taken
  exact (beq_iff_eq.mp named).symm

/-- It runs from the node to the candidate, over edges of the airway. -/
theorem alongAirway_runs (wellFormed : graph.WellFormed) {start : Nat} {candidates : List Nat}
    {airway : String} {cancel : Option CancelFlag} {route : Route α}
    (found : alongAirway graph start candidates airway cancel = .ok route) :
    ∃ first target last, graph.waypoints[start]? = some first ∧ target ∈ candidates ∧
      graph.waypoints[target]? = some last ∧ Route.Runs first route.nodes last ∧
      ∀ span ∈ route.spans, ∃ edge, span.Along graph edge ∧ edge.airway = airway := by
  obtain ⟨hops, edges, target, follows, member, named, along⟩ := alongAirway_eq_ok wellFormed found
  obtain ⟨first, place, along⟩ := Graph.routeAlong_eq_ok along
  obtain ⟨last, there, runs⟩ := Graph.nodesAlong_runs follows place along
  refine ⟨first, target, last, place, member, there, runs, fun span inside => ?_⟩
  obtain ⟨edge, taken, leads⟩ := Graph.nodesAlong_spans follows place along span inside
  exact ⟨edge, leads, named edge taken⟩

end ShortestRoute

end FlightRoute
