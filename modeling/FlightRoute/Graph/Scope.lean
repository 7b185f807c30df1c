/-
**Waypoints for the time of one request.**

A scope lets a graph take in waypoints for a while. Each is linked by direct edges, both ways, to the
nearest waypoints that the graph had before. `close` takes everything out again: the new nodes, and
the edges that the old nodes gained.

* `Graph.openScope`, `Scope.inject`, `Scope.close`.
-/

import FlightRoute.Graph.Lookup

namespace FlightRoute

/-- A graph with nodes that are there for a while. -/
structure Scope (α : Type) where
  graph : Graph α
  /-- How many nodes it had before. -/
  baseSize : Nat
  /-- The old nodes that gained edges, each with the number of edges it had. -/
  touched : List (Nat × Nat)

/-- Opens a scope on a graph. -/
def Graph.openScope {α : Type} (graph : Graph α) : Scope α := ⟨graph, graph.size, []⟩

namespace Scope

variable {α : Type}

/-- How many nodes were taken in. -/
def injectedCount (scope : Scope α) : Nat := scope.graph.size - scope.baseSize

/-- Notes how many edges an old node has, the first time that it gains one. -/
def touch (scope : Scope α) (node : Nat) : Scope α :=
  if scope.touched.any fun entry => entry.1 == node then scope
  else
    let edges := (scope.graph.outgoing[node]?.getD #[]).size
    { scope with touched := scope.touched ++ [(node, edges)] }

/-- The old nodes that a new waypoint is linked to, nearest first. -/
def linkTargets [Distance α] (scope : Scope α) (waypoint : Waypoint) (links : Nat) : List Nat :=
  ((scope.graph.nearest waypoint (links + scope.injectedCount)).filter
    fun node => node < scope.baseSize).take links

/-- Joins the new node to an old one, both ways. -/
def link [Distance α] (newNode : Nat) (scope : Scope α) (oldNode : Nat) : Scope α :=
  let scope := scope.touch oldNode
  { scope with graph := scope.graph.addTwoWayEdge newNode oldNode direct none }

/-- Takes in a waypoint and links it to its `links` nearest old waypoints. Its number is the size of
the graph before. -/
def inject [Distance α] (scope : Scope α) (waypoint : Waypoint) (links : Nat) : Scope α :=
  let targets := scope.linkTargets waypoint links
  let newNode := scope.graph.size
  targets.foldl (link newNode) { scope with graph := scope.graph.addWaypoint waypoint }

/-- The nodes of an identifier that were there before, if any. -/
def keepOld (baseSize : Nat) (nodes : Array Nat) : Option (Array Nat) :=
  let old := nodes.filter fun node => node < baseSize
  if old.isEmpty then none else some old

/-- The graph as it was before the scope was opened. -/
def close (scope : Scope α) : Graph α where
  waypoints := scope.graph.waypoints.take scope.baseSize
  outgoing :=
    (scope.touched.foldl (fun outgoing (node, edges) => outgoing.modify node (·.take edges))
      scope.graph.outgoing).take scope.baseSize
  positions := scope.graph.positions.filterMap fun _ nodes => keepOld scope.baseSize nodes

end Scope

end FlightRoute
