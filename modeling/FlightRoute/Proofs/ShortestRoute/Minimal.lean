/-
**A shortest route is shortest.**

The lengths of all ways between two endpoints, each a link of the one, a walk along edges and a link of
the other, form a set (`wayLengths`). On exact lengths the route that is found has the least of them,
although its legs are measured once more when it is put together, the direct leg of an unpublished
procedure end from the other side.

* `mem_anchors`: the anchors of an endpoint are the nodes it is joined to, at the length of the link;
* `opening_length`, `closing_length`: the parts off the graph are as long as the anchors cost;
* `find_isLeast`: the route is as long as the shortest way.
-/

import Mathlib.Order.Bounds.Defs
import FlightRoute.Proofs.Distance.Planar
import FlightRoute.Proofs.ShortestRoute.Assembly

namespace FlightRoute

variable {α : Type} [AddCommMonoid α] [Distance α]

/-! ### Ways between endpoints -/

/-- An endpoint is joined to a node by a way of some length. -/
inductive Endpoint.Joins (graph : Graph α) : Endpoint α → Nat → α → Prop
  | here {index : Nat} : Joins graph (.node index) index 0
  /-- A link that leads straight to its node. -/
  | link {waypoint : Waypoint} {links : List (TerminalLink α)} {link : TerminalLink α} :
      link ∈ links → link.via = none →
      Joins graph (.terminal waypoint links) link.node link.distance
  /-- A link to an unpublished fix, and the direct leg between the fix and the node. -/
  | bridge {waypoint fix place : Waypoint} {links : List (TerminalLink α)} {link : TerminalLink α} :
      link ∈ links → link.via = some fix → graph.waypoints[link.node]? = some place →
      Joins graph (.terminal waypoint links) link.node (link.distance + Distance.between fix place)

/-- The lengths of all ways from one endpoint along edges to the other. -/
def wayLengths (graph : Graph α) (start finish : Endpoint α) : Set α :=
  {length | ∃ entry exit before after edges, start.Joins graph entry before ∧
    graph.Walk entry edges exit ∧ finish.Joins graph exit after ∧
    length = before + (edges.map (·.distance)).sum + after}

/-- No link of the endpoint is shorter than nothing. -/
def Endpoint.Nonnegative [LE α] : Endpoint α → Prop
  | .node _ => True
  | .terminal _ links => ∀ link ∈ links, 0 ≤ link.distance

instance instDecidableNonnegative [LE α] [DecidableLE α] (endpoint : Endpoint α) :
    Decidable endpoint.Nonnegative :=
  match endpoint with
  | .node _ => .isTrue trivial
  | .terminal _ links => inferInstanceAs (Decidable (∀ link ∈ links, 0 ≤ link.distance))

variable [LinearOrder α] [Distance.Exact α]

namespace ShortestRoute

variable {graph : Graph α} {endpoint : Endpoint α} {anchors : List (Nat × α)} {node index : Nat}
  {cost : α}

/-- The length of a link with the direct leg between its unpublished end and the node. -/
theorem cost_eq_ok {link : TerminalLink α} :
    link.cost graph = .ok cost ↔
      link.via = none ∧ cost = link.distance ∨
        ∃ fix place, link.via = some fix ∧ graph.waypoints[link.node]? = some place ∧
          cost = link.distance + Distance.between fix place := by
  unfold TerminalLink.cost
  cases via : link.via with
  | none =>
    simp only [Distance.add_eq, Distance.zero_eq, add_zero, pure_eq_ok, Except.ok.injEq, reduceCtorEq,
      false_and, exists_false, or_false, true_and]
    exact eq_comm
  | some fix =>
    simp only [bind_eq_ok, Graph.waypoint_eq_ok, Distance.add_eq, pure_eq_ok, Except.ok.injEq,
      reduceCtorEq, false_and, Option.some.injEq, false_or]
    constructor
    · rintro ⟨place, found, rfl⟩
      exact ⟨fix, place, rfl, found, rfl⟩
    · rintro ⟨_, place, rfl, found, rfl⟩
      exact ⟨place, found, rfl⟩

/-- **The anchors of an endpoint** are the nodes that it is joined to. -/
theorem mem_anchors (anchored : endpoint.anchors graph = .ok anchors) :
    (node, cost) ∈ anchors ↔ endpoint.Joins graph node cost := by
  cases endpoint with
  | node other =>
    cases anchored
    rw [List.mem_singleton]
    constructor
    · intro same
      cases same
      rw [Distance.zero_eq]
      exact .here
    · intro joins
      cases joins
      rw [Distance.zero_eq]
  | terminal threshold links =>
    rw [List.mem_iff_getElem?]
    simp only [anchors_terminal anchored, cost_eq_ok]
    constructor
    · rintro ⟨index, link, linked, rfl, ⟨straight, rfl⟩ | ⟨fix, place, via, found, rfl⟩⟩
      · exact .link (List.mem_of_getElem? linked) straight
      · exact .bridge (List.mem_of_getElem? linked) via found
    · intro joins
      cases joins with
      | link member straight =>
        obtain ⟨index, linked⟩ := List.mem_iff_getElem?.mp member
        exact ⟨index, _, linked, rfl, Or.inl ⟨straight, rfl⟩⟩
      | bridge member via found =>
        obtain ⟨index, linked⟩ := List.mem_iff_getElem?.mp member
        exact ⟨index, _, linked, rfl, Or.inr ⟨_, _, via, found, rfl⟩⟩

theorem anchors_nonnegative [IsOrderedAddMonoid α] [Distance.Nonnegative α]
    (nonnegative : endpoint.Nonnegative) (anchored : endpoint.anchors graph = .ok anchors) :
    ∀ anchor ∈ anchors, 0 ≤ anchor.2 := by
  rintro ⟨node, cost⟩ member
  have joins : endpoint.Joins graph node cost := (mem_anchors anchored).mp member
  cases joins with
  | here => exact le_rfl
  | link linked _ => exact nonnegative _ linked
  | bridge linked _ _ =>
    exact add_nonneg (nonnegative _ linked) (Distance.between_nonneg _ _)

/-! ### The length of a route -/

/-- The sum of the lengths of legs. -/
def legLength (legs : List (Leg α)) : α := (legs.map (·.distance)).sum

omit [Distance α] [LinearOrder α] [Distance.Exact α] in
theorem legLength_append (legs more : List (Leg α)) :
    legLength (legs ++ more) = legLength legs + legLength more := by
  unfold legLength
  rw [List.map_append, List.sum_append]

/-- The part before the first node is as long as the anchor costs. -/
theorem opening_length (anchored : endpoint.anchors graph = .ok anchors)
    (here : anchors[index]? = some (node, cost)) {front : List (RouteNode α)}
    (opened : opening graph endpoint index = .ok front) : legLength (⟨front⟩ : Route α).legs = cost := by
  cases endpoint with
  | node other =>
    obtain ⟨_, rfl⟩ := anchors_node anchored here
    cases opened
    exact Distance.zero_eq.symm
  | terminal threshold links =>
    obtain ⟨link, linked, rfl, costs⟩ := (anchors_terminal anchored).mp here
    obtain ⟨other, same, opened⟩ := bind_eq_ok.mp opened
    rw [linkAt_eq_ok, linked] at same
    cases same
    rcases cost_eq_ok.mp costs with ⟨via, rfl⟩ | ⟨fix, place, via, found, rfl⟩
    · rw [via] at opened
      cases opened
      exact add_zero link.distance
    · rw [via] at opened
      obtain ⟨there, located, opened⟩ := bind_eq_ok.mp opened
      rw [Graph.waypoint_eq_ok, found] at located
      cases located
      cases opened
      show link.distance + (Distance.between fix place + 0) = _
      rw [add_zero]

/-- The part behind the last node is as long as the anchor costs. -/
theorem closing_length [Distance.Symmetric α] (anchored : endpoint.anchors graph = .ok anchors)
    (here : anchors[index]? = some (node, cost)) {route whole : Route α} {start finish : Waypoint}
    (runs : Route.Runs start route.nodes finish)
    (closed : closing graph endpoint index route = .ok whole) :
    legLength whole.legs = legLength route.legs + cost := by
  cases endpoint with
  | node other =>
    obtain ⟨_, rfl⟩ := anchors_node anchored here
    cases closed
    rw [Distance.zero_eq, add_zero]
  | terminal threshold links =>
    obtain ⟨link, linked, rfl, costs⟩ := (anchors_terminal anchored).mp here
    obtain ⟨other, same, closed⟩ := bind_eq_ok.mp closed
    rw [linkAt_eq_ok, linked] at same
    cases same
    rcases cost_eq_ok.mp costs with ⟨via, rfl⟩ | ⟨fix, place, via, found, rfl⟩
    · rw [via] at closed
      cases closed
      rw [runs.legs_extend, legLength_append]
      show legLength route.legs + (link.distance + 0) = _
      rw [add_zero]
    · rw [via] at closed
      obtain ⟨there, located, closed⟩ := bind_eq_ok.mp closed
      rw [Graph.waypoint_eq_ok, found] at located
      cases located
      cases closed
      rw [(runs.extend _ _).legs_extend, runs.legs_extend, legLength_append, legLength_append]
      show legLength route.legs + (Distance.between place fix + 0) + (link.distance + 0) = _
      rw [add_zero, add_zero, Distance.between_comm place fix, add_assoc, add_comm link.distance]

/-- **The route that is found is as long as the shortest way** between its endpoints. -/
theorem find_isLeast [IsOrderedAddMonoid α] [Distance.Symmetric α] [Distance.Nonnegative α]
    (built : graph.Built) (edges : graph.Nonnegative) {start finish : Endpoint α}
    (links : finish.Nonnegative) {cancel : Option CancelFlag} {route : Route α}
    (found : find graph start finish cancel = .ok route) :
    IsLeast (wayLengths graph start finish) (Distance.total (route.legs.map (·.distance))) := by
  obtain ⟨sources, targets, connection, front, middle, entered, left, searched, opened, along,
    closed⟩ := find_eq_ok found
  obtain ⟨way, exit, before, after, joins, least⟩ := Graph.connection?_isLeast built.wellFormed
    edges (anchors_nonnegative links left) searched
  obtain ⟨entry, place, along⟩ := Graph.routeAlong_eq_ok along
  obtain ⟨last, _, runs⟩ := Graph.nodesAlong_runs joins.follows place along
  obtain ⟨first, _, whole⟩ := opening_runs entered joins.source place opened runs
  have length : Distance.total (route.legs.map (·.distance)) =
      before + (way.map (·.distance)).sum + after := by
    calc Distance.total (route.legs.map (·.distance))
        = legLength route.legs := Distance.total_eq_sum _
      _ = legLength (⟨front ++ middle.nodes⟩ : Route α).legs + after :=
          closing_length left joins.target whole closed
      _ = legLength (⟨front⟩ : Route α).legs + legLength middle.legs + after := by
          rw [Route.legs, List.filterMap_append, legLength_append]
          rfl
      _ = before + (way.map (·.distance)).sum + after := by
          rw [opening_length entered joins.source opened,
            Graph.nodesAlong_legs joins.follows along, legLength, List.map_map]
          rfl
  rw [length]
  constructor
  · refine ⟨connection.start, exit, before, after, way, ?_, joins.follows.walk, ?_, rfl⟩
    · exact (mem_anchors entered).mp (List.mem_of_getElem? joins.source)
    · exact (mem_anchors left).mp (List.mem_of_getElem? joins.target)
  · rintro other ⟨entry, exit, before, after, edges, source, walk, target, rfl⟩
    exact least entry exit before after edges ((mem_anchors entered).mpr source) walk
      (fun _ _ => rfl) ((mem_anchors left).mpr target)

/-! ### Two runways beside the crossing -/

/-- A runway with two links to the first waypoint, the shorter of them by an unpublished fix. -/
def westRunway : Endpoint ℚ :=
  .terminal ⟨"R", 0, 0⟩
    [{ node := 0, airway := "DCT", distance := 4 },
      { node := 0, airway := "P", distance := 1, via := some ⟨"F", 0, 2⟩ }]

/-- A runway with a link to the last waypoint by an unpublished fix and one to the middle. -/
def eastRunway : Endpoint ℚ :=
  .terminal ⟨"S", 0, 9⟩
    [{ node := 2, airway := "Q", distance := 2, via := some ⟨"G", 0, 4⟩ },
      { node := 1, airway := "DCT", distance := 7 }]

/-- The shortest way between the runways takes both unpublished fixes and both short edges. -/
theorem find_isLeast_crossing :
    crossing.Built ∧ crossing.Nonnegative ∧ eastRunway.Nonnegative ∧
      ∃ route, find crossing westRunway eastRunway none = .ok route ∧
        IsLeast (wayLengths crossing westRunway eastRunway) 7 := by
  have edges : crossing.Nonnegative := by decide +kernel
  have links : eastRunway.Nonnegative := by decide
  have total : (find crossing westRunway eastRunway none).map
      (fun route => Distance.total (route.legs.map (·.distance))) = .ok 7 := by decide +kernel
  obtain ⟨route, found, length⟩ := map_eq_ok.mp total
  refine ⟨crossing_built, edges, links, route, found, ?_⟩
  rw [← length]
  exact find_isLeast crossing_built edges links found

end ShortestRoute

end FlightRoute
