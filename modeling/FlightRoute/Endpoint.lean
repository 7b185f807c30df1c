/-
**The ends of a shortest-path search.**

A search begins and ends at a node of the graph, or at a waypoint off the graph that is joined to it by
links. A link reads `waypoint -(airway)-> [via -DCT->] node` when the flight departs from the waypoint
and `node [-DCT-> via] -(airway)-> waypoint` when it arrives there. Links are never written into the
graph.

* `Endpoint.ofWaypoint`: a waypoint, on the graph or not;
* `Endpoint.departure`, `Endpoint.arrival`: a runway with its procedures.
-/

import FlightRoute.Terminal.Basic

namespace FlightRoute

/-- How a waypoint off the graph is joined to one node. -/
structure TerminalLink (α : Type) where
  node : Nat
  /-- The procedure, or `direct`. -/
  airway : String
  /-- The length of the procedure or of the direct leg. -/
  distance : α
  /-- The fixes passed inside the procedure. -/
  inner : List Waypoint := []
  /-- The end of the procedure when the graph does not know it; a direct leg joins it to the node. -/
  via : Option Waypoint := none

/-- Where a search begins or ends. -/
inductive Endpoint (α : Type)
  | node (node : Nat)
  | terminal (waypoint : Waypoint) (links : List (TerminalLink α))

namespace TerminalLink

variable {α : Type}

/-- The link as a leg of a route. -/
def leg (link : TerminalLink α) : Leg α where
  airway := link.airway
  distance := link.distance
  inner := link.inner

variable [Distance α]

/-- A direct leg between a waypoint and a node. -/
def direct (graph : Graph α) (start : Waypoint) (node : Nat) :
    Except RouteError (TerminalLink α) := do
  let waypoint ← graph.waypoint node
  return { node, airway := FlightRoute.direct, distance := Distance.between start waypoint }

/-- A procedure between a waypoint and a node, known by a name. -/
def ofProcedure (name : String) (procedure : Procedure α) (via : Option Waypoint) (node : Nat) :
    TerminalLink α where
  node := node
  airway := name
  distance := procedure.totalDistance
  inner := procedure.inner
  via := via

/-- The length of the link, with the direct leg between `via` and the node. -/
def cost (graph : Graph α) (link : TerminalLink α) : Except RouteError α := do
  match link.via with
  | some via =>
    let waypoint ← graph.waypoint link.node
    return Distance.add link.distance (Distance.between via waypoint)
  | none => return Distance.add link.distance Distance.zero

end TerminalLink

namespace Endpoint

variable {α : Type}

/-- The identifier of the waypoint. -/
def ident (graph : Graph α) : Endpoint α → Except RouteError String
  | node index => (graph.waypoint index).map (·.ident)
  | terminal waypoint _ => .ok waypoint.ident

variable [Distance α]

/-- The nodes at which the graph is entered or left, each with its cost. -/
def anchors (graph : Graph α) : Endpoint α → Except RouteError (List (Nat × α))
  | node index => .ok [(index, Distance.zero)]
  | terminal _ links => links.mapM fun link => do return (link.node, ← link.cost graph)

/-- Direct links to the nearest nodes. -/
def nearestLinks (graph : Graph α) (waypoint : Waypoint) (count : Nat) :
    Except RouteError (List (TerminalLink α)) :=
  (graph.nearest waypoint count).mapM (TerminalLink.direct graph waypoint)

/-- The node of a waypoint, or the waypoint with direct links to its nearest nodes. -/
def ofWaypoint (graph : Graph α) (waypoint : Waypoint) (count : Nat) :
    Except RouteError (Endpoint α) :=
  match graph.byWaypoint? waypoint with
  | some index => .ok (.node index)
  | none => do return .terminal waypoint (← nearestLinks graph waypoint count)

/-- The links of a procedure: to the graph's copy of its end, or from its end to the nearest nodes. -/
def procedureLinks (graph : Graph α) (name : String) (procedure : Procedure α) (count : Nat) :
    List (TerminalLink α) :=
  match procedure.enrouteEnd? with
  | none => []
  | some fix =>
    match graph.sameFix? fix with
    | some index => [.ofProcedure name procedure none index]
    | none => (graph.nearest fix count).map (.ofProcedure name procedure (some fix))

/-- The links of the procedures of these names. A name that is not published has none. -/
def linksOfNames (terminal : Terminal α) (kind : ProcedureKind) (count : Nat) :
    List String → Except RouteError (List (TerminalLink α))
  | [] => .ok []
  | name :: rest => do
    let links := match ← terminal.store.procedure? terminal.runway kind name with
      | some procedure => procedureLinks terminal.graph name procedure count
      | none => []
    return links ++ (← linksOfNames terminal kind count rest)

/-- A runway with the links of all its procedures, or with direct links when there are none. -/
def ofRunway (terminal : Terminal α) (kind : ProcedureKind) (count : Nat) :
    Except RouteError (Endpoint α) := do
  let names := terminal.store.names terminal.runway kind
  let links ← linksOfNames terminal kind count names
  let threshold := terminal.runway.threshold
  if links.isEmpty then return .terminal threshold (← nearestLinks terminal.graph threshold count)
  else return .terminal threshold links

/-- A runway from which a flight departs. -/
def departure (terminal : Terminal α) (count : Nat) : Except RouteError (Endpoint α) :=
  ofRunway terminal .sid count

/-- A runway at which a flight arrives. -/
def arrival (terminal : Terminal α) (count : Nat) : Except RouteError (Endpoint α) :=
  ofRunway terminal .star count

end Endpoint

end FlightRoute
