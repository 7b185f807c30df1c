/-
**Shortest routes.**

The graph as a network has one vertex more than nodes: the goal. Every target is an arc from its node
to the goal, with the cost of the target; every edge is an arc to its node. A trail to the goal is
therefore a way from a source along edges to a target.

* `connection?`: the cheapest way between sources and targets;
* `find`: the shortest route between two endpoints;
* `alongAirway`: the shortest route along one airway to the closest of several nodes.
-/

import FlightRoute.Endpoint
import FlightRoute.Route.Edit
import FlightRoute.Search.Shortest

namespace FlightRoute

open Search (Arc Hop Network)

/-- A way through the graph: the source it begins with, the target it ends with, the first node, and
the edges in flying order, each by its node and its number there. -/
structure Connection where
  source : Nat
  target : Nat
  start : Nat
  hops : List Hop

namespace Graph

variable {α : Type}

/-- The arcs from a node to the goal. -/
def targetArcs (graph : Graph α) (targets : List (Nat × α)) (node : Nat) : List (Arc α) :=
  (targets.zipIdx.filter fun target => target.1.1 == node).map fun target =>
    ⟨target.2, graph.size, target.1.2⟩

/-- The arcs of the edges that leave a node, all of them or those of one airway. -/
def edgeArcs (edges : Array (Edge α)) (airway : Option String) : List (Arc α) :=
  (edges.toList.zipIdx.filter fun edge => airway.all (· == edge.1.airway)).map fun edge =>
    ⟨edge.2, edge.1.target, edge.1.distance⟩

/-- The graph with a goal behind the targets. -/
def network (graph : Graph α) (targets : List (Nat × α)) (airway : Option String) : Network α where
  size := graph.size + 1
  arcs node := do
    let edges ← graph.edgesFrom node
    return graph.targetArcs targets node ++ edgeArcs edges airway

/-- The edge of a hop. -/
def edge (graph : Graph α) (hop : Hop) : Except RouteError (Edge α) := do
  match (← graph.edgesFrom hop.vertex)[hop.label]? with
  | some edge => return edge
  | none => throw (.outOfRange hop.label)

/-- The nodes of a route from a waypoint along edges. -/
def nodesAlong (graph : Graph α) (waypoint : Waypoint) :
    List Hop → Except RouteError (List (RouteNode α))
  | [] => .ok [.final waypoint]
  | hop :: rest => do
    let edge ← graph.edge hop
    let next ← graph.waypoint edge.target
    let leg := { airway := edge.airway, distance := edge.distance }
    return { waypoint, leg := some leg } :: (← graph.nodesAlong next rest)

/-- The route from a node along edges. -/
def routeAlong (graph : Graph α) (start : Nat) (hops : List Hop) : Except RouteError (Route α) := do
  return ⟨← graph.nodesAlong (← graph.waypoint start) hops⟩

variable [Distance α]

/-- The cheapest way from one of the sources to one of the targets, along all edges or along those of
one airway. Each source and target is a node with a cost of its own. -/
def connection? (graph : Graph α) (sources targets : List (Nat × α)) (airway : Option String)
    (cancel : Option CancelFlag) : Except RouteError (Option Connection) := do
  match ← Search.shortest (graph.network targets airway) sources graph.size cancel with
  | none => return none
  | some trail =>
    match trail.hops with
    | last :: earlier => return some ⟨trail.seed, last.label, trail.start, earlier.reverse⟩
    | [] => return none

end Graph

namespace ShortestRoute

variable {α : Type} [Distance α]

omit [Distance α] in
/-- The link of a number. -/
def linkAt (links : List (TerminalLink α)) (index : Nat) : Except RouteError (TerminalLink α) :=
  match links[index]? with
  | some link => .ok link
  | none => .error (.outOfRange index)

/-- The nodes from an endpoint up to the node at which it enters the graph, which is left out. -/
def opening (graph : Graph α) (endpoint : Endpoint α) (index : Nat) :
    Except RouteError (List (RouteNode α)) := do
  match endpoint with
  | .node _ => return []
  | .terminal waypoint links =>
    let link ← linkAt links index
    let first : RouteNode α := { waypoint, leg := some link.leg }
    match link.via with
    | some via =>
      let bridge := Distance.between via (← graph.waypoint link.node)
      return [first, { waypoint := via, leg := some (.direct bridge) }]
    | none => return [first]

/-- The route with the way from the node at which the graph is left to an endpoint. -/
def closing (graph : Graph α) (endpoint : Endpoint α) (index : Nat) (route : Route α) :
    Except RouteError (Route α) := do
  match endpoint with
  | .node _ => return route
  | .terminal waypoint links =>
    let link ← linkAt links index
    match link.via with
    | some via =>
      let bridge := Distance.between (← graph.waypoint link.node) via
      return (route.extend (.direct bridge) via).extend link.leg waypoint
    | none => return route.extend link.leg waypoint

/-- The shortest route between two endpoints. -/
def find (graph : Graph α) (start finish : Endpoint α) (cancel : Option CancelFlag) :
    Except RouteError (Route α) := do
  let sources ← start.anchors graph
  let targets ← finish.anchors graph
  match ← graph.connection? sources targets none cancel with
  | none => throw (.noPath (← start.ident graph) (← finish.ident graph))
  | some connection =>
    let front ← opening graph start connection.source
    let middle ← graph.routeAlong connection.start connection.hops
    closing graph finish connection.target ⟨front ++ middle.nodes⟩

/-- The shortest route between two nodes. -/
def findBetween (graph : Graph α) (start finish : Nat) (cancel : Option CancelFlag) :
    Except RouteError (Route α) :=
  find graph (.node start) (.node finish) cancel

/-- The shortest route from a node along an airway to whichever of the candidates is closest. -/
def alongAirway (graph : Graph α) (start : Nat) (candidates : List Nat) (airway : String)
    (cancel : Option CancelFlag) : Except RouteError (Route α) := do
  let targets := candidates.map fun node => (node, Distance.zero)
  match ← graph.connection? [(start, Distance.zero)] targets (some airway) cancel with
  | none =>
    let destination ← match candidates with
      | first :: _ => (graph.waypoint first).map (·.ident)
      | [] => pure ""
    let origin := (← graph.waypoint start).ident
    throw (.noPath s!"{origin} via {airway}" destination)
  | some connection => graph.routeAlong connection.start connection.hops

end ShortestRoute

end FlightRoute
