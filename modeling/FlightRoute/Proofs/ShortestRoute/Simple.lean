/-
**A shortest route between two nodes passes no node twice.**

The trail to the goal leaves every node at most once. The nodes of the walk that it stands for are the
nodes that the trail leaves, so that they differ pairwise, whatever the lengths of the edges are.

* `findBetween_simple`: what a route between two nodes passes over.
-/

import Mathlib.Data.List.Nodup
import FlightRoute.Proofs.Graph.Passage
import FlightRoute.Proofs.Search.Simple
import FlightRoute.Proofs.ShortestRoute.Assembly

namespace FlightRoute

variable {α : Type} [Distance α] {graph : Graph α}

/-- The edges of a connection lead to pairwise different nodes. -/
theorem Graph.connection?_simple (wellFormed : graph.WellFormed) {sources targets : List (Nat × α)}
    {airway : Option String} {cancel : Option CancelFlag} {connection : Connection}
    (found : graph.connection? sources targets airway cancel = .ok (some connection)) :
    ∃ edges finish before after,
      connection.Joins graph sources targets airway edges finish before after ∧
      (stops connection.start edges).Nodup := by
  obtain ⟨trail, last, earlier, searched, hops, rfl⟩ := connection?_eq_ok found
  obtain ⟨cost, leads⟩ := Search.shortest_leads searched
  obtain ⟨edges, finish, before, after, joins, _, ends⟩ := leads_joins wellFormed hops leads
  refine ⟨edges, finish, before, after, joins, ?_⟩
  have simple : (last.vertex :: earlier.map (·.vertex)).Nodup := by
    have whole := (List.nodup_cons.mp (Search.shortest_simple searched)).2
    unfold Search.Trail.vertices at whole
    rwa [hops] at whole
  have visited : stops trail.start edges = (last.vertex :: earlier.map (·.vertex)).reverse := by
    rw [joins.follows.stops_eq, List.reverse_cons, List.map_reverse, ends]
  rw [visited]
  exact List.nodup_reverse.mpr simple

/-- **A route between two nodes** passes over edges to pairwise different nodes. -/
theorem ShortestRoute.findBetween_simple (wellFormed : graph.WellFormed) {start finish : Nat}
    {cancel : Option CancelFlag} {route : Route α}
    (found : findBetween graph start finish cancel = .ok route) :
    ∃ edges, (Graph.stops start edges).Nodup ∧ route.Passes graph start edges finish := by
  obtain ⟨connection, searched, along⟩ := findBetween_eq_ok found
  obtain ⟨edges, node, before, after, joins, simple⟩ := Graph.connection?_simple wellFormed searched
  obtain ⟨rfl, _⟩ := Prod.mk.inj (List.mem_singleton.mp (List.mem_of_getElem? joins.source))
  obtain ⟨rfl, _⟩ := Prod.mk.inj (List.mem_singleton.mp (List.mem_of_getElem? joins.target))
  exact ⟨edges, simple, Graph.routeAlong_passes joins.follows along⟩

end FlightRoute
