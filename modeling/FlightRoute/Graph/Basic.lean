/-
**The graph of waypoints and airways.**

Waypoints are nodes, numbered in the order in which they were added. Every node has its outgoing edges
in the order in which they were added, and for every identifier the graph keeps the nodes that carry
it. Several nodes may carry the same identifier, even at the same place, and two nodes may be joined by
several edges.

* `addWaypoint`, `addEdge`, `addTwoWayEdge`: how a graph grows;
* `waypoint`, `edgesFrom`: what a node holds, an error for a number without a node.
-/

import Std.Data.ExtHashMap
import FlightRoute.Distance
import FlightRoute.Error

namespace FlightRoute

/-- An edge to another node. -/
structure Edge (α : Type) where
  target : Nat
  airway : String
  distance : α

/-- Identifiers are looked up by what they read. -/
instance instEquivBEqString : EquivBEq String where
  rfl := beq_self_eq_true _
  symm same := by
    rw [beq_iff_eq] at same ⊢
    exact same.symm
  trans first second := by
    rw [beq_iff_eq] at first second ⊢
    exact first.trans second

/-- Identifiers that read the same have the same hash. -/
instance instLawfulHashableString : LawfulHashable String where
  hash_eq left right same := by rw [eq_of_beq same]

/-- Waypoints joined by directed, labelled edges. -/
structure Graph (α : Type) where
  waypoints : Array Waypoint
  outgoing : Array (Array (Edge α))
  /-- The nodes of every identifier, in increasing order. -/
  positions : Std.ExtHashMap String (Array Nat)

namespace Graph

variable {α : Type}

/-- The graph without nodes. -/
def empty : Graph α := ⟨#[], #[], ∅⟩

/-- The number of nodes. -/
def size (graph : Graph α) : Nat := graph.waypoints.size

/-- Adds a node without edges; its number is the size of the graph before. -/
def addWaypoint (graph : Graph α) (waypoint : Waypoint) : Graph α where
  waypoints := graph.waypoints.push waypoint
  outgoing := graph.outgoing.push #[]
  positions := graph.positions.alter waypoint.ident fun nodes =>
    some ((nodes.getD #[]).push graph.size)

/-- Adds an edge behind the others of its node. A length that is not given is the distance of the two
waypoints. A graph without both nodes stays as it is. -/
def addEdge [Distance α] (graph : Graph α) (source target : Nat) (airway : String)
    (distance : Option α) : Graph α :=
  match graph.waypoints[source]?, graph.waypoints[target]? with
  | some start, some finish =>
    let edge := { target, airway, distance := distance.getD (Distance.between start finish) }
    { graph with outgoing := graph.outgoing.modify source (·.push edge) }
  | _, _ => graph

/-- Adds an edge in both directions, first the one from `a` to `b`. -/
def addTwoWayEdge [Distance α] (graph : Graph α) (a b : Nat) (airway : String)
    (distance : Option α) : Graph α :=
  (graph.addEdge a b airway distance).addEdge b a airway distance

/-- The waypoint of a node. -/
def waypoint (graph : Graph α) (node : Nat) : Except RouteError Waypoint :=
  match graph.waypoints[node]? with
  | some waypoint => .ok waypoint
  | none => .error (.outOfRange node)

/-- The edges that leave a node. -/
def edgesFrom (graph : Graph α) (node : Nat) : Except RouteError (Array (Edge α)) :=
  match graph.outgoing[node]? with
  | some edges => .ok edges
  | none => .error (.outOfRange node)

/-- The nodes that carry an identifier. -/
def allByIdent (graph : Graph α) (ident : String) : Array Nat :=
  graph.positions[ident]?.getD #[]

end Graph

end FlightRoute
