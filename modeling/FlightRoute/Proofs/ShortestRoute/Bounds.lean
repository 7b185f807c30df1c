/-
**Searches in a graph keep to its bounds.**

A search goes by numbers: of nodes, of the edges at a node, of its sources and of its targets. When the edges
and the sources lead to nodes, all of them stand for something, whatever the lengths are: each offer is made
to a node or to the goal, each back pointer is a real edge to its node, and a connection that is found begins
with one of the sources and ends with one of the targets (`Graph.SearchInBounds`).

* `cameFrom?_edge`, `cameFrom?_seed`, `cameFrom?_target`: where a back pointer leads;
* `searchInBounds`: what a search counts on;
* `alongAirway_failsOnly`: why a search along an airway may fail.
-/

import FlightRoute.Proofs.Search.Bounds
import FlightRoute.Proofs.Search.Retrace
import FlightRoute.Proofs.ShortestRoute.Complete

namespace FlightRoute

open Search (Arc Hop Origin)

variable {α : Type} {graph : Graph α} {sources targets : List (Nat × α)} {airway : Option String}
  {node : Nat} {hop : Hop}

namespace Graph

/-- Hops that lead somewhere are numbers of edges. -/
theorem Follows.edge_of_mem {start finish : Nat} {hops : List Hop} {edges : List (Edge α)}
    (follows : graph.Follows start hops edges finish) (member : hop ∈ hops) :
    ∃ edge, graph.edge hop = .ok edge := by
  induction follows with
  | stay _ => cases member
  | hop found _ ih =>
    rcases List.mem_cons.mp member with rfl | member
    · exact ⟨_, found⟩
    · exact ih member

/-- What has arcs is a node. -/
theorem lt_of_arcs (wellFormed : graph.WellFormed) {arcs : List (Arc α)}
    (leaving : (graph.network targets airway).arcs node = .ok arcs) : node < graph.size := by
  obtain ⟨edges, here, _⟩ := arcs_eq_ok.mp leaving
  exact wellFormed.lt_of_outgoing here

variable [Distance α]

/-- All numbers that a search keeps or uses stand for something. -/
structure SearchInBounds (graph : Graph α) (sources targets : List (Nat × α)) (airway : Option String) :
    Prop where
  /-- There is a mark for each node and one for the goal, and nothing else is on the agenda. -/
  states : ∀ state, (graph.network targets airway).Reached sources state →
    state.InBounds (graph.size + 1)
  /-- A node has arcs, and each leads to a node or by way of a target to the goal. -/
  offers : ∀ node < graph.size, ∃ arcs, (graph.network targets airway).arcs node = .ok arcs ∧
    ∀ arc ∈ arcs, arc.target < graph.size ∨ arc.target = graph.size ∧ arc.label < targets.length
  /-- A back pointer of a node is the number of an edge that leads there from a node. -/
  edges : ∀ state node hop, (graph.network targets airway).Reached sources state →
    node < graph.size → state.cameFrom? node = some (.arc hop) →
      hop.vertex < graph.size ∧ ∃ edge, graph.edge hop = .ok edge ∧ edge.target = node
  /-- Where the back pointers end there is a source. -/
  seeds : ∀ state vertex index, (graph.network targets airway).Reached sources state →
    state.cameFrom? vertex = some (.seed index) → ∃ cost, sources[index]? = some (vertex, cost)
  /-- The back pointer of the goal is a target. -/
  goal : ∀ state hop, (graph.network targets airway).Reached sources state →
    state.cameFrom? graph.size = some (.arc hop) →
      hop.vertex < graph.size ∧ ∃ cost, targets[hop.label]? = some (hop.vertex, cost)
  /-- What is found begins with a source, follows edges, and ends with a target. -/
  connections : ∀ cancel connection,
    graph.connection? sources targets airway cancel = .ok (some connection) →
      connection.source < sources.length ∧ connection.target < targets.length ∧
        connection.start < graph.size ∧
        ∀ hop ∈ connection.hops, ∃ edge, graph.edge hop = .ok edge ∧ edge.target < graph.size

/-! ### Back pointers -/

section Back

variable {state : Search.State α}

/-- What came along an arc has that arc as the last of a trail that leads there. -/
theorem cameFrom?_arc (reached : (graph.network targets airway).Reached sources state) {vertex : Nat}
    (came : state.cameFrom? vertex = some (.arc hop)) :
    ∃ arcs arc, (graph.network targets airway).arcs hop.vertex = .ok arcs ∧ arc ∈ arcs ∧
      arc.label = hop.label ∧ arc.target = vertex := by
  obtain ⟨⟨cost, trail⟩, best, last⟩ := Option.map_eq_some_iff.mp came
  have leads := reached.traced vertex cost trail best
  cases leads with
  | seed _ => cases last
  | arc _ leaving member =>
    cases last
    exact ⟨_, _, leaving, member, rfl, rfl⟩

/-- **A back pointer of a node** is an edge that leads there. -/
theorem cameFrom?_edge (wellFormed : graph.WellFormed)
    (reached : (graph.network targets airway).Reached sources state) (inside : node < graph.size)
    (came : state.cameFrom? node = some (.arc hop)) :
    hop.vertex < graph.size ∧ ∃ edge, graph.edge hop = .ok edge ∧ edge.target = node := by
  obtain ⟨arcs, arc, leaving, member, label, rfl⟩ := cameFrom?_arc reached came
  refine ⟨lt_of_arcs wellFormed leaving, ?_⟩
  rcases arc_cases leaving member with ⟨_, goal⟩ | ⟨edge, found, _, target, _⟩
  · exact absurd goal (Nat.ne_of_lt inside)
  · rw [label] at found
    exact ⟨edge, found, target.symm⟩

/-- **Where the back pointers end** there is a source. -/
theorem cameFrom?_seed (reached : (graph.network targets airway).Reached sources state)
    {vertex index : Nat} (came : state.cameFrom? vertex = some (.seed index)) :
    ∃ cost, sources[index]? = some (vertex, cost) := by
  obtain ⟨⟨cost, trail⟩, best, last⟩ := Option.map_eq_some_iff.mp came
  have leads := reached.traced vertex cost trail best
  cases leads with
  | seed place =>
    cases last
    exact ⟨cost, place⟩
  | arc _ _ _ => cases last

/-- **The back pointer of the goal** is a target. -/
theorem cameFrom?_target (wellFormed : graph.WellFormed)
    (reached : (graph.network targets airway).Reached sources state)
    (came : state.cameFrom? graph.size = some (.arc hop)) :
    hop.vertex < graph.size ∧ ∃ cost, targets[hop.label]? = some (hop.vertex, cost) := by
  obtain ⟨arcs, arc, leaving, member, label, goal⟩ := cameFrom?_arc reached came
  refine ⟨lt_of_arcs wellFormed leaving, ?_⟩
  rcases arc_cases leaving member with ⟨target, _⟩ | ⟨edge, found, _, target, _⟩
  · exact ⟨arc.cost, label ▸ target⟩
  · have inside := wellFormed.edge_lt found
    rw [← target, goal] at inside
    exact absurd inside (Nat.lt_irrefl _)

end Back

/-! ### Searches -/

/-- **A search keeps to the bounds of the graph**, whatever the lengths are. -/
theorem searchInBounds (wellFormed : graph.WellFormed) (sources targets : List (Nat × α))
    (airway : Option String) : graph.SearchInBounds sources targets airway where
  states _ reached := reached.inBounds
  offers _ := arcs_of_lt wellFormed
  edges _ _ _ := cameFrom?_edge wellFormed
  seeds _ _ _ reached := cameFrom?_seed reached
  goal _ _ := cameFrom?_target wellFormed
  connections cancel connection found := by
    obtain ⟨edges, finish, before, after, joins⟩ := connection?_joins wellFormed found
    refine ⟨(List.getElem?_eq_some_iff.mp joins.source).1, (List.getElem?_eq_some_iff.mp joins.target).1,
      joins.follows.start_lt wellFormed, fun hop member => ?_⟩
    obtain ⟨edge, taken⟩ := joins.follows.edge_of_mem member
    exact ⟨edge, taken, wellFormed.edge_lt taken⟩

end Graph

namespace ShortestRoute

variable [Distance α] {cancel : Option CancelFlag} {start : Nat} {candidates : List Nat}

/-- **A search along an airway** between nodes fails only for want of a path, or when it is called off. -/
theorem alongAirway_failsOnly (wellFormed : graph.WellFormed) (inside : start < graph.size)
    (within : ∀ candidate ∈ candidates, candidate < graph.size) (airway : String) :
    FailsOnly (fun failure => (∃ left right, failure = .noPath left right) ∨ CalledOff cancel failure)
      (alongAirway graph start candidates airway cancel) := by
  have begins : ∀ source ∈ [((start, Distance.zero) : Nat × α)], source.1 < graph.size := by
    simpa using inside
  unfold alongAirway
  refine FailsOnly.bind ?_ fun outcome searched => ?_
  · exact (Graph.connection?_failsOnly wellFormed begins).mono fun _ => Or.inr
  · cases outcome with
    | some connection =>
      obtain ⟨edges, finish, before, after, joins⟩ := Graph.connection?_joins wellFormed searched
      obtain ⟨route, along⟩ := Graph.routeAlong_ok wellFormed joins.follows
      exact .of_ok along
    | none =>
      obtain ⟨place, here⟩ := Graph.waypoint_of_lt inside
      cases candidates with
      | nil =>
        dsimp only
        rw [here]
        exact .error (Or.inl ⟨_, _, rfl⟩)
      | cons first rest =>
        obtain ⟨other, there⟩ := Graph.waypoint_of_lt (within first List.mem_cons_self)
        dsimp only
        rw [here, there]
        exact .error (Or.inl ⟨_, _, rfl⟩)

end ShortestRoute

end FlightRoute
