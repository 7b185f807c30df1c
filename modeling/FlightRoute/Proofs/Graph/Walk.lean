/-
**Walks in a graph.**

A walk follows edges from node to node. Searches give a walk by its hops, the numbers of the edges at
their nodes (`Follows`); a route is made of the edges of its hops, one leg each.

* `Follows.walk`: the edges of hops that lead somewhere are a walk;
* `nodesAlong_runs`: the route along hops runs to the waypoint of the node they lead to;
* `nodesAlong_legs`: its legs are the edges;
* `nodesAlong_spans`: its spans are edges of the graph (`Span.Along`).
-/

import FlightRoute.Proofs.Graph.Built
import FlightRoute.Proofs.Route.Spans
import FlightRoute.ShortestRoute

namespace FlightRoute

open Search (Hop)

/-- The edge as a leg of a route. -/
def Edge.leg {α : Type} (edge : Edge α) : Leg α := { airway := edge.airway, distance := edge.distance }

/-- The span is an edge of the graph, between waypoints that are the same as those of its nodes. -/
def Span.Along {α : Type} (span : Span α) (graph : Graph α) (edge : Edge α) : Prop :=
  ∃ (node : Nat) (edges : Array (Edge α)) (source target : Waypoint),
    graph.outgoing[node]? = some edges ∧ edge ∈ edges ∧
    graph.waypoints[node]? = some source ∧ graph.waypoints[edge.target]? = some target ∧
    source.Same span.start ∧ target.Same span.finish ∧ span.leg = edge.leg

theorem Span.Along.like {α : Type} {graph : Graph α} {edge : Edge α} {span other : Span α}
    (along : span.Along graph edge) (like : span.Like other) : other.Along graph edge := by
  obtain ⟨node, edges, source, target, leaving, member, place, there, start, finish, leg⟩ := along
  exact ⟨node, edges, source, target, leaving, member, place, there, start.trans like.start,
    finish.trans like.finish, like.leg.symm.trans leg⟩

namespace Graph

variable {α : Type}

/-- Edges that lead from node to node. -/
inductive Walk (graph : Graph α) : Nat → List (Edge α) → Nat → Prop
  | stay {node : Nat} : node < graph.size → Walk graph node [] node
  | edge {node finish : Nat} {edges : Array (Edge α)} {edge : Edge α} {rest : List (Edge α)} :
      graph.outgoing[node]? = some edges → edge ∈ edges → Walk graph edge.target rest finish →
      Walk graph node (edge :: rest) finish

/-- Hops that lead from node to node, each along its edge. -/
inductive Follows (graph : Graph α) : Nat → List Hop → List (Edge α) → Nat → Prop
  | stay {node : Nat} : node < graph.size → Follows graph node [] [] node
  | hop {node label finish : Nat} {edge : Edge α} {hops : List Hop} {rest : List (Edge α)} :
      graph.edge ⟨node, label⟩ = .ok edge → Follows graph edge.target hops rest finish →
      Follows graph node (⟨node, label⟩ :: hops) (edge :: rest) finish

variable {graph : Graph α} {start finish : Nat} {hops : List Hop} {edges : List (Edge α)}

theorem edgesFrom_eq_ok {node : Nat} {edges : Array (Edge α)} :
    graph.edgesFrom node = .ok edges ↔ graph.outgoing[node]? = some edges := by
  unfold edgesFrom
  cases graph.outgoing[node]? with
  | none => simp
  | some edges => simp

theorem edge_eq_ok {hop : Hop} {edge : Edge α} :
    graph.edge hop = .ok edge ↔
      ∃ edges, graph.outgoing[hop.vertex]? = some edges ∧ edges[hop.label]? = some edge := by
  unfold Graph.edge
  rw [bind_eq_ok]
  refine exists_congr fun edges => and_congr edgesFrom_eq_ok ?_
  cases edges[hop.label]? with
  | none => simp
  | some edge => simp

theorem waypoint_eq_ok {node : Nat} {waypoint : Waypoint} :
    graph.waypoint node = .ok waypoint ↔ graph.waypoints[node]? = some waypoint := by
  unfold Graph.waypoint
  cases graph.waypoints[node]? with
  | none => simp
  | some waypoint => simp

theorem waypoint_of_lt {node : Nat} (inside : node < graph.size) :
    ∃ waypoint, graph.waypoint node = .ok waypoint :=
  ⟨_, waypoint_eq_ok.mpr (Array.getElem?_eq_getElem inside)⟩

/-- The edge of a hop leads to a node. -/
theorem WellFormed.edge_lt (wellFormed : graph.WellFormed) {hop : Hop} {edge : Edge α}
    (found : graph.edge hop = .ok edge) : edge.target < graph.size := by
  obtain ⟨edges, leaving, here⟩ := edge_eq_ok.mp found
  exact wellFormed.target_lt _ _ _ leaving (Array.mem_of_getElem? here)

theorem Follows.walk (follows : graph.Follows start hops edges finish) :
    graph.Walk start edges finish := by
  induction follows with
  | stay inside => exact .stay inside
  | hop found _ ih =>
    obtain ⟨edges, leaving, here⟩ := edge_eq_ok.mp found
    exact .edge leaving (Array.mem_of_getElem? here) ih

theorem Walk.finish_lt (walk : graph.Walk start edges finish) : finish < graph.size := by
  induction walk with
  | stay inside => exact inside
  | edge _ _ _ ih => exact ih

/-- One hop more at the end. -/
theorem Follows.snoc (follows : graph.Follows start hops edges finish) {label : Nat} {edge : Edge α}
    (found : graph.edge ⟨finish, label⟩ = .ok edge) (inside : edge.target < graph.size) :
    graph.Follows start (hops ++ [⟨finish, label⟩]) (edges ++ [edge]) edge.target := by
  induction follows with
  | stay _ => exact .hop found (.stay inside)
  | hop first _ ih => exact .hop first (ih found)

/-! ### The route along hops -/

/-- **The route along hops** runs from the waypoint of the first node to that of the last. -/
theorem nodesAlong_runs (follows : graph.Follows start hops edges finish) {waypoint : Waypoint}
    {nodes : List (RouteNode α)} (here : graph.waypoints[start]? = some waypoint)
    (along : graph.nodesAlong waypoint hops = .ok nodes) :
    ∃ last, graph.waypoints[finish]? = some last ∧ Route.Runs waypoint nodes last := by
  induction follows generalizing waypoint nodes with
  | stay _ =>
    cases along
    exact ⟨waypoint, here, .final waypoint⟩
  | hop found _ ih =>
    unfold nodesAlong at along
    obtain ⟨edge, taken, along⟩ := bind_eq_ok.mp along
    obtain ⟨next, there, along⟩ := bind_eq_ok.mp along
    obtain ⟨rest, further, whole⟩ := bind_eq_ok.mp along
    rw [found] at taken
    cases taken
    cases whole
    obtain ⟨last, ends, runs⟩ := ih (waypoint_eq_ok.mp there) further
    exact ⟨last, ends, .leg _ runs⟩

/-- **Its legs** are the edges of the hops. -/
theorem nodesAlong_legs (follows : graph.Follows start hops edges finish) {waypoint : Waypoint}
    {nodes : List (RouteNode α)} (along : graph.nodesAlong waypoint hops = .ok nodes) :
    (⟨nodes⟩ : Route α).legs = edges.map Edge.leg := by
  induction follows generalizing waypoint nodes with
  | stay _ =>
    cases along
    rfl
  | hop found _ ih =>
    unfold nodesAlong at along
    obtain ⟨edge, taken, along⟩ := bind_eq_ok.mp along
    obtain ⟨next, there, along⟩ := bind_eq_ok.mp along
    obtain ⟨rest, further, whole⟩ := bind_eq_ok.mp along
    rw [found] at taken
    cases taken
    cases whole
    rw [List.map_cons, ← ih further]
    rfl

/-- **Its spans** are the edges of the hops. -/
theorem nodesAlong_spans (follows : graph.Follows start hops edges finish) {waypoint : Waypoint}
    {nodes : List (RouteNode α)} (here : graph.waypoints[start]? = some waypoint)
    (along : graph.nodesAlong waypoint hops = .ok nodes) :
    ∀ span ∈ spansOf nodes, ∃ edge ∈ edges, span.Along graph edge := by
  induction follows generalizing waypoint nodes with
  | stay _ =>
    cases along
    exact fun span member => absurd member List.not_mem_nil
  | @hop node label finish edge hops rest found follows ih =>
    unfold nodesAlong at along
    obtain ⟨same, taken, along⟩ := bind_eq_ok.mp along
    obtain ⟨next, there, along⟩ := bind_eq_ok.mp along
    obtain ⟨others, further, whole⟩ := bind_eq_ok.mp along
    rw [found] at taken
    cases taken
    cases whole
    have place := waypoint_eq_ok.mp there
    obtain ⟨_, _, runs⟩ := nodesAlong_runs follows place further
    intro span member
    rw [runs.spansOf_leg] at member
    rcases List.mem_cons.mp member with rfl | member
    · obtain ⟨leaves, leaving, chosen⟩ := edge_eq_ok.mp found
      exact ⟨edge, List.mem_cons_self, node, leaves, waypoint, next, leaving,
        Array.mem_of_getElem? chosen, here, place, .refl _, .refl _, rfl⟩
    · obtain ⟨other, inside, leads⟩ := ih place further span member
      exact ⟨other, List.mem_cons_of_mem _ inside, leads⟩

/-- A route along hops begins at a waypoint of the graph and runs along them. -/
theorem routeAlong_eq_ok {route : Route α} (along : graph.routeAlong start hops = .ok route) :
    ∃ waypoint, graph.waypoints[start]? = some waypoint ∧
      graph.nodesAlong waypoint hops = .ok route.nodes := by
  unfold routeAlong at along
  obtain ⟨waypoint, here, along⟩ := bind_eq_ok.mp along
  obtain ⟨nodes, further, whole⟩ := bind_eq_ok.mp along
  cases whole
  exact ⟨waypoint, waypoint_eq_ok.mp here, further⟩

end Graph

end FlightRoute
