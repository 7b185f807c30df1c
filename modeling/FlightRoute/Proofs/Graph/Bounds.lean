/-
**Every number in a graph stands for something.**

Nodes are passed around by their numbers, and a number is good for nothing once there is no such node. In a
well-formed graph none goes astray: the edges lead to nodes, the index lists nodes, and whatever is looked up
is a node (`Graph.InBounds`). Waypoints come and go with a scope. At every step of that, also halfway through
the links of a waypoint, the graph of the scope is such a graph, and what the scope keeps for its end are
numbers of old nodes (`Scope.InBounds`).

* `candidates_nodes`: nothing that the index lists is passed over;
* `WellFormed.inBounds`: a well-formed graph keeps to its bounds;
* `Over.inBounds`: so does a scope that has an old graph in front.
-/

import FlightRoute.Proofs.Graph.Namesakes
import FlightRoute.Proofs.Graph.Nearest
import FlightRoute.Proofs.Graph.Rollback

namespace FlightRoute

variable {α : Type}

namespace Graph

variable {graph : Graph α}

/-- Every number in the graph stands for a node, and so does every number that is looked up. -/
structure InBounds [Distance α] (graph : Graph α) : Prop where
  outgoing_size : graph.outgoing.size = graph.size
  targets : ∀ edges ∈ graph.outgoing, ∀ edge ∈ edges, edge.target < graph.size
  index : ∀ ident, ∀ node ∈ graph.allByIdent ident, node < graph.size
  exact : ∀ waypoint node, graph.byWaypoint? waypoint = some node → node < graph.size
  /-- The closest of the nodes of an identifier is picked by its place among them. -/
  place : ∀ ident reference position,
    closestTo α ((graph.candidates ident).map (·.2)) reference = some position →
      position < (graph.allByIdent ident).size
  closest : ∀ ident reference node,
    graph.closestByIdent? ident reference = some node → node < graph.size
  copy : ∀ fix node, graph.sameFix? fix = some node → node < graph.size
  nearest : ∀ reference count, ∀ node ∈ graph.nearest reference count, node < graph.size

theorem lt_of_waypoints {node : Nat} {waypoint : Waypoint}
    (here : graph.waypoints[node]? = some waypoint) : node < graph.size :=
  (Array.getElem?_eq_some_iff.mp here).1

/-- What the index lists are nodes. -/
theorem lt_of_mem_allByIdent (exactIndex : graph.ExactIndex) {ident : String} {node : Nat}
    (listed : node ∈ graph.allByIdent ident) : node < graph.size := by
  rw [← Array.mem_toList_iff, exactIndex] at listed
  obtain ⟨own, here, _⟩ := mem_bearers.mp listed
  exact lt_of_waypoints here

theorem lt_of_byWaypoint? {waypoint : Waypoint} {node : Nat}
    (found : graph.byWaypoint? waypoint = some node) : node < graph.size := by
  obtain ⟨own, here, _⟩ := byWaypoint?_eq_some found
  exact lt_of_waypoints here

/-- **Nothing that the index lists is passed over**, since all of it are nodes. -/
theorem candidates_nodes (exactIndex : graph.ExactIndex) (ident : String) :
    (graph.candidates ident).map (·.1) = (graph.allByIdent ident).toList := by
  have inside : ∀ node ∈ (graph.allByIdent ident).toList, node < graph.size := fun node listed =>
    lt_of_mem_allByIdent exactIndex (Array.mem_toList_iff.mp listed)
  unfold candidates
  generalize (graph.allByIdent ident).toList = nodes at inside ⊢
  induction nodes with
  | nil => rfl
  | cons node rest ih =>
    have here : graph.waypoints[node]? = some _ :=
      Array.getElem?_eq_getElem (inside node List.mem_cons_self)
    rw [List.filterMap_cons, here, Option.map_some, List.map_cons,
      ih fun other member => inside other (List.mem_cons_of_mem _ member)]

theorem hasAirway_ok (wellFormed : graph.WellFormed) {node : Nat} (inside : node < graph.size)
    (airway : String) : ∃ known, graph.hasAirway node airway = .ok known := by
  obtain ⟨edges, leaving⟩ := wellFormed.outgoing_of_lt inside
  refine ⟨edges.any (·.airway == airway), ?_⟩
  rw [hasAirway, edgesFrom, leaving]
  rfl

variable [Distance α]

theorem lt_of_closestByIdent? (wellFormed : graph.WellFormed) {ident : String} {reference : Waypoint}
    {node : Nat} (found : graph.closestByIdent? ident reference = some node) : node < graph.size := by
  obtain ⟨own, here, _⟩ := closestByIdent?_eq_some wellFormed.exactIndex found
  exact lt_of_waypoints here

theorem lt_of_sameFix? (wellFormed : graph.WellFormed) {fix : Waypoint} {node : Nat}
    (found : graph.sameFix? fix = some node) : node < graph.size := by
  obtain ⟨own, here, _⟩ := sameFix?_eq_some wellFormed.exactIndex found
  exact lt_of_waypoints here

/-- **A well-formed graph keeps to its bounds.** -/
theorem WellFormed.inBounds (wellFormed : graph.WellFormed) : graph.InBounds where
  outgoing_size := wellFormed.outgoing_size
  targets edges listed edge member := by
    obtain ⟨node, here⟩ := Array.mem_iff_getElem?.mp listed
    exact wellFormed.target_lt node edges edge here member
  index _ _ := lt_of_mem_allByIdent wellFormed.exactIndex
  exact _ _ := lt_of_byWaypoint?
  place ident reference position found := by
    have inside := closestTo_lt found
    rw [List.length_map] at inside
    rwa [← Array.length_toList, ← candidates_nodes wellFormed.exactIndex, List.length_map]
  closest _ _ _ := lt_of_closestByIdent? wellFormed
  copy _ _ := lt_of_sameFix? wellFormed
  nearest _ _ _ := lt_of_mem_nearest

end Graph

namespace Scope

variable [Distance α] {scope : Scope α} {graph : Graph α}

/-- The graph of the scope keeps to its bounds, and all that is kept for the end of the scope are numbers
of nodes that were there before, with edges that they have. -/
structure InBounds (scope : Scope α) : Prop where
  graph : scope.graph.InBounds
  base_le : scope.baseSize ≤ scope.graph.size
  touched : ∀ entry ∈ scope.touched, entry.1 < scope.baseSize ∧
    ∃ edges, scope.graph.outgoing[entry.1]? = some edges ∧ entry.2 ≤ edges.size
  linkTargets : ∀ waypoint links, ∀ node ∈ scope.linkTargets waypoint links, node < scope.baseSize

/-- **A scope that has a graph in front** keeps to its bounds. -/
theorem Over.inBounds (grown : scope.Over graph) (wellFormed : graph.WellFormed) : scope.InBounds where
  graph := grown.wellFormed.inBounds
  base_le := grown.base ▸ grown.size_le
  touched entry member := by
    obtain ⟨old, here, count⟩ := grown.touched entry member
    obtain ⟨more, now, _⟩ := grown.edges entry.1 old here
    refine ⟨?_, _, now, ?_⟩
    · exact grown.base ▸ wellFormed.lt_of_outgoing here
    · rw [← count, Array.size_append]
      omega
  linkTargets _ _ _ := linkTargets_lt

/-- At every step of taking in a waypoint its node is there. -/
theorem size_joined (scope : Scope α) (waypoint : Waypoint) (links count : Nat) :
    (scope.joined waypoint links count).graph.size = scope.graph.size + 1 := by
  rw [Graph.size, waypoints_joined, Array.size_push]
  rfl

end Scope

end FlightRoute
