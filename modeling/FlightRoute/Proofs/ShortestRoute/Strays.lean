/-
**Shortest routes past strays.**

The network of a graph with strays is that of the graph with more vertices in front of the goal. Between
endpoints that join it at old nodes only (`Endpoint.Within`) the shortest route is therefore the same, and
where there is none there is still none. An endpoint that joins it at strays only (`Endpoint.Beyond`) is a
dead end.

* `network_widened`: the strays stand in front of the goal;
* `connection?_strays`, `routeAlong_strays`: the same connection, the same route along it;
* `find_strays`: the same shortest route;
* `find_strays_ne_ok`: no route joins strays with old nodes.
-/

import FlightRoute.Proofs.Graph.Strays
import FlightRoute.Proofs.Search.Widened
import FlightRoute.Proofs.ShortestRoute.Complete

namespace FlightRoute

open Search (Arc Hop)

variable {α : Type} {grown graph : Graph α} {strays : List Waypoint}

namespace Graph

variable {sources targets : List (Nat × α)} {airway : Option String} {node : Nat}
  {start finish : Nat} {hops : List Hop} {edges : List (Edge α)} {waypoint : Waypoint}

/-! ### Old nodes -/

theorem waypoint_strays (behind : grown.Strays graph strays) (inside : node < graph.size) :
    grown.waypoint node = graph.waypoint node := by
  unfold Graph.waypoint
  rw [behind.waypoint_eq inside]

theorem edgesFrom_strays (behind : grown.Strays graph strays) (inside : node < graph.size) :
    grown.edgesFrom node = graph.edgesFrom node := by
  unfold edgesFrom
  rw [behind.outgoing node inside]

theorem edge_strays (behind : grown.Strays graph strays) {hop : Hop}
    (inside : hop.vertex < graph.size) : grown.edge hop = graph.edge hop := by
  unfold Graph.edge
  rw [edgesFrom_strays behind inside]

/-! ### Connections -/

theorem targetArcs_strays (behind : grown.Strays graph strays) (node : Nat) :
    grown.targetArcs targets node =
      (graph.targetArcs targets node).map (Arc.renumber graph.size strays.length) := by
  unfold targetArcs
  rw [List.map_map, behind.size, ← Search.renumber_goal]
  rfl

/-- An edge leads to an old node, which keeps its number. -/
theorem edgeArcs_renumber (wellFormed : graph.WellFormed) {leaving : Array (Edge α)}
    (found : graph.edgesFrom node = .ok leaving) (more : Nat) :
    edgeArcs leaving airway = (edgeArcs leaving airway).map (Arc.renumber graph.size more) := by
  refine (List.map_id' _).symm.trans (List.map_congr_left fun arc member => ?_)
  obtain ⟨edge, here, _, leads, _⟩ := mem_edgeArcs.mp member
  have inside : arc.target < graph.size := by
    rw [leads]
    exact wellFormed.target_lt node leaving edge (edgesFrom_eq_ok.mp found)
      (Array.mem_of_getElem? here)
  rw [Arc.renumber, Search.renumber_of_lt inside]

/-- **The strays stand in front of the goal.** -/
theorem network_widened (behind : grown.Strays graph strays) :
    (grown.network targets airway).Widened (graph.network targets airway) graph.size
      strays.length where
  last := rfl
  size := by
    show grown.size + 1 = graph.size + 1 + strays.length
    rw [behind.size]
    omega
  arcs node inside := by
    show (grown.edgesFrom node >>= fun edges => _) = Except.map _ (graph.edgesFrom node >>= _)
    rw [edgesFrom_strays behind inside]
    cases found : graph.edgesFrom node with
    | error failure => rfl
    | ok leaving =>
      show Except.ok (grown.targetArcs targets node ++ edgeArcs leaving airway) =
        .ok ((graph.targetArcs targets node ++ edgeArcs leaving airway).map _)
      rw [List.map_append, targetArcs_strays behind, ← edgeArcs_renumber behind.old found]

/-- **The cheapest way from old nodes** is the same. -/
theorem connection?_strays [Distance α] (behind : grown.Strays graph strays)
    (inside : ∀ source ∈ sources, source.1 < graph.size) (cancel : Option CancelFlag) :
    grown.connection? sources targets airway cancel =
      graph.connection? sources targets airway cancel := by
  unfold connection?
  rw [behind.size, Search.shortest_widened (network_widened behind) (network_closed behind.old) inside]

/-- **The route along edges of the old graph** is the same. -/
theorem routeAlong_strays (behind : grown.Strays graph strays)
    (follows : graph.Follows start hops edges finish) :
    grown.routeAlong start hops = graph.routeAlong start hops := by
  have along : ∀ waypoint, grown.nodesAlong waypoint hops = graph.nodesAlong waypoint hops := by
    induction follows with
    | stay _ => exact fun waypoint => rfl
    | hop found further ih =>
      intro waypoint
      have inside := (Follows.hop found further).start_lt behind.old
      rw [nodesAlong, nodesAlong, edge_strays behind inside, found, ok_bind, ok_bind,
        waypoint_strays behind (further.start_lt behind.old)]
      exact bind_congr fun next => by rw [ih]
  rw [routeAlong, routeAlong, waypoint_strays behind (follows.start_lt behind.old)]
  exact bind_congr fun first => by rw [along]

end Graph

/-! ### Endpoints -/

/-- The endpoint joins the graph at no node below a number. -/
def Endpoint.Beyond (size : Nat) (endpoint : Endpoint α) : Prop :=
  endpoint.Anchored fun node => size ≤ node

namespace ShortestRoute

variable {endpoint start finish : Endpoint α} {index : Nat}

theorem ident_strays (behind : grown.Strays graph strays) (within : endpoint.Within graph.size) :
    endpoint.ident grown = endpoint.ident graph := by
  cases endpoint with
  | node node => rw [Endpoint.ident, Graph.waypoint_strays behind within, Endpoint.ident]
  | terminal waypoint links => rfl

variable [Distance α]

theorem cost_strays (behind : grown.Strays graph strays) {link : TerminalLink α}
    (inside : link.node < graph.size) : link.cost grown = link.cost graph := by
  unfold TerminalLink.cost
  rw [Graph.waypoint_strays behind inside]

theorem anchors_strays (behind : grown.Strays graph strays) (within : endpoint.Within graph.size) :
    endpoint.anchors grown = endpoint.anchors graph := by
  cases endpoint with
  | node node => rfl
  | terminal waypoint links =>
    refine mapM_congr fun link member => ?_
    rw [cost_strays behind (within link member)]

theorem opening_strays (behind : grown.Strays graph strays) (within : endpoint.Within graph.size)
    (index : Nat) : opening grown endpoint index = opening graph endpoint index := by
  cases endpoint with
  | node node => rfl
  | terminal waypoint links =>
    unfold opening
    dsimp only
    cases linked : linkAt links index with
    | error failure => rfl
    | ok link =>
      have inside := within link (List.mem_of_getElem? (linkAt_eq_ok.mp linked))
      rw [ok_bind, ok_bind, Graph.waypoint_strays behind inside]

theorem closing_strays (behind : grown.Strays graph strays) (within : endpoint.Within graph.size)
    (index : Nat) (route : Route α) :
    closing grown endpoint index route = closing graph endpoint index route := by
  cases endpoint with
  | node node => rfl
  | terminal waypoint links =>
    unfold closing
    dsimp only
    cases linked : linkAt links index with
    | error failure => rfl
    | ok link =>
      have inside := within link (List.mem_of_getElem? (linkAt_eq_ok.mp linked))
      rw [ok_bind, ok_bind, Graph.waypoint_strays behind inside]

/-- **Between endpoints that are joined to old nodes** the shortest route is the same. -/
theorem find_strays (behind : grown.Strays graph strays) (before : start.Within graph.size)
    (after : finish.Within graph.size) (cancel : Option CancelFlag) :
    find grown start finish cancel = find graph start finish cancel := by
  unfold find
  rw [anchors_strays behind before, anchors_strays behind after, ident_strays behind before,
    ident_strays behind after]
  cases anchored : start.anchors graph with
  | error failure => rfl
  | ok sources =>
    rw [ok_bind, ok_bind]
    refine bind_congr fun targets => ?_
    rw [Graph.connection?_strays behind (anchors_hold before anchored)]
    cases searched : graph.connection? sources targets none cancel with
    | error failure => rfl
    | ok connection =>
      cases connection with
      | none => rfl
      | some connection =>
        obtain ⟨edges, last, first, length, joins⟩ := Graph.connection?_joins behind.old searched
        show (opening grown start connection.source >>= _) = (opening graph start connection.source >>= _)
        rw [opening_strays behind before, Graph.routeAlong_strays behind joins.follows]
        refine bind_congr fun front => bind_congr fun middle => ?_
        exact closing_strays behind after _ _

/-! ### Dead ends -/

omit [Distance α] in
/-- Edges lead from old nodes to old nodes, and from strays nowhere. -/
theorem follows_strays (behind : grown.Strays graph strays) {first last : Nat} {hops : List Hop}
    {edges : List (Edge α)} (follows : grown.Follows first hops edges last) :
    first < graph.size ↔ last < graph.size := by
  induction follows with
  | stay _ => rfl
  | @hop first label last edge hops rest found _ ih =>
    obtain ⟨leaving, leaves, here⟩ := Graph.edge_eq_ok.mp found
    rw [← ih]
    by_cases old : first < graph.size
    · rw [behind.outgoing first old] at leaves
      have leads := behind.old.target_lt first leaving edge leaves (Array.mem_of_getElem? here)
      exact iff_of_true old leads
    · rw [behind.isolated first leaving (Nat.not_lt.mp old) leaves] at here
      simp at here

/-- **A route that is found** enters and leaves the graph at old nodes, or does neither. -/
theorem find_joins (behind : grown.Strays graph strays) {cancel : Option CancelFlag} {route : Route α}
    (found : find grown start finish cancel = .ok route) :
    ∃ first last, (∀ holds, start.Anchored holds → holds first) ∧
      (∀ holds, finish.Anchored holds → holds last) ∧ (first < graph.size ↔ last < graph.size) := by
  obtain ⟨sources, targets, connection, _, _, entered, left, searched, _⟩ := find_eq_ok found
  obtain ⟨edges, last, before, after, joins⟩ := Graph.connection?_joins behind.wellFormed searched
  refine ⟨connection.start, last, fun holds all => ?_, fun holds all => ?_,
    follows_strays behind joins.follows⟩
  · exact anchors_hold all entered _ (List.mem_of_getElem? joins.source)
  · exact anchors_hold all left _ (List.mem_of_getElem? joins.target)

/-- **No route joins strays with old nodes.** -/
theorem find_strays_ne_ok (behind : grown.Strays graph strays) (far : start.Beyond graph.size)
    (near : finish.Within graph.size) (cancel : Option CancelFlag) (route : Route α) :
    find grown start finish cancel ≠ .ok route ∧ find grown finish start cancel ≠ .ok route := by
  refine ⟨fun found => ?_, fun found => ?_⟩
  · obtain ⟨first, last, begins, ends, same⟩ := find_joins behind found
    have beyond := begins _ far
    have within := ends _ near
    omega
  · obtain ⟨first, last, begins, ends, same⟩ := find_joins behind found
    have within := begins _ near
    have beyond := ends _ far
    omega

end ShortestRoute

end FlightRoute
