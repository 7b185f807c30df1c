/-
**A shortest route is found when there is a way.**

In a well-formed graph every edge leads to a node, so that a search over it fails for one reason only: no
way leads from a source to a target (`Graph.Connects`). That holds for lengths of any sign, on exact numbers
and on floats, as long as the lengths of a way that passes no node twice add up to less than infinity
(`Graph.Summable`); between exact numbers they always do.

* `network_summable`: the costs in the network are lengths of ways;
* `connection?_failsOnly`, `connection?_complete`: a connection is found when there is a way;
* `find_failsOnly`, `find_of_connection?`: so is a route, and nothing else can go wrong on the way to it;
* `routeAlong_ok`: a walk has a route;
* `findBetween_complete`, `findBetween_least`: the route between two nodes that a walk joins.
-/

import FlightRoute.Proofs.Graph.Passage
import FlightRoute.Proofs.Search.Complete
import FlightRoute.Proofs.ShortestRoute.Assembly

namespace FlightRoute

open Search (Arc Hop Trail)

variable {α : Type}

/-! ### Ways -/

namespace Graph

variable {graph : Graph α} {sources targets : List (Nat × α)} {airway : Option String}

/-- A walk from a source along edges of the airway. -/
structure Way (graph : Graph α) (sources : List (Nat × α)) (airway : Option String) (start : Nat)
    (before : α) (edges : List (Edge α)) (finish : Nat) : Prop where
  source : (start, before) ∈ sources
  walk : graph.Walk start edges finish
  along : ∀ edge ∈ edges, airway.all (· == edge.airway) = true

/-- A way leads from one of the sources to one of the targets. -/
def Connects (graph : Graph α) (sources targets : List (Nat × α)) (airway : Option String) : Prop :=
  ∃ start before edges finish after, graph.Way sources airway start before edges finish ∧
    (finish, after) ∈ targets

/-- The lengths along a way that passes no node twice stay below infinity, also with a target. -/
structure Summable [Distance α] (graph : Graph α) (sources targets : List (Nat × α))
    (airway : Option String) : Prop where
  along : ∀ start before edges finish, graph.Way sources airway start before edges finish →
    (stops start edges).Nodup → Distance.bounded (lengthBehind before edges) = true
  ending : ∀ start before edges finish after, graph.Way sources airway start before edges finish →
    (stops start edges).Nodup → (finish, after) ∈ targets →
    Distance.bounded (Distance.add (lengthBehind before edges) after) = true

/-- Exact lengths always add up. -/
theorem summable_exact [Distance α] [AddCommMonoid α] [LinearOrder α] [Distance.Exact α] :
    graph.Summable sources targets airway :=
  ⟨fun _ _ _ _ _ _ => Distance.bounded_eq _, fun _ _ _ _ _ _ _ _ => Distance.bounded_eq _⟩

end Graph

/-- A connection is a way to a target. -/
theorem Connection.Joins.way {connection : Connection} {graph : Graph α}
    {sources targets : List (Nat × α)} {airway : Option String} {edges : List (Edge α)} {finish : Nat}
    {before after : α}
    (joins : connection.Joins graph sources targets airway edges finish before after) :
    graph.Way sources airway connection.start before edges finish :=
  ⟨List.mem_of_getElem? joins.source, joins.follows.walk, joins.along⟩

namespace Graph

variable {graph : Graph α} {sources targets : List (Nat × α)} {airway : Option String}
  {start finish : Nat} {hops : List Hop} {edges : List (Edge α)} {before after : α}

/-! ### The network of a graph -/

/-- A node has arcs, and each leads to a node, or by way of a target to the goal. -/
theorem arcs_of_lt (wellFormed : graph.WellFormed) {node : Nat} (inside : node < graph.size) :
    ∃ arcs, (graph.network targets airway).arcs node = .ok arcs ∧
      ∀ arc ∈ arcs, arc.target < graph.size ∨ arc.target = graph.size ∧ arc.label < targets.length := by
  obtain ⟨edges, leave⟩ := wellFormed.outgoing_of_lt inside
  have leaving : (graph.network targets airway).arcs node = .ok _ := arcs_eq_ok.mpr ⟨edges, leave, rfl⟩
  refine ⟨_, leaving, fun arc member => ?_⟩
  rcases arc_cases leaving member with ⟨target, goal⟩ | ⟨edge, found, _, target, _⟩
  · exact Or.inr ⟨goal, (List.getElem?_eq_some_iff.mp target).1⟩
  · exact Or.inl (target ▸ wellFormed.edge_lt found)

/-- No arc leads out of the graph and its goal. -/
theorem network_closed (wellFormed : graph.WellFormed) :
    (graph.network targets airway).Closed graph.size where
  goal_lt := Nat.lt_succ_self _
  leaves node inside other := by
    have within : node < graph.size := Nat.lt_of_le_of_ne (Nat.le_of_lt_succ inside) other
    obtain ⟨arcs, leaving, leads⟩ := arcs_of_lt wellFormed within
    refine ⟨arcs, leaving, fun arc member => ?_⟩
    rcases leads arc member with inside | ⟨goal, _⟩
    · exact Nat.lt_succ_of_lt inside
    · exact goal ▸ Nat.lt_succ_self _

theorem Follows.start_lt (wellFormed : graph.WellFormed)
    (follows : graph.Follows start hops edges finish) : start < graph.size := by
  cases follows with
  | stay inside => exact inside
  | hop found _ =>
    obtain ⟨leaving, leaves, _⟩ := edge_eq_ok.mp found
    exact wellFormed.lt_of_outgoing leaves

/-- **A walk has a route.** -/
theorem routeAlong_ok (wellFormed : graph.WellFormed)
    (follows : graph.Follows start hops edges finish) :
    ∃ route, graph.routeAlong start hops = .ok route := by
  have along : ∀ waypoint, ∃ nodes, graph.nodesAlong waypoint hops = .ok nodes := by
    induction follows with
    | stay _ => exact fun waypoint => ⟨_, rfl⟩
    | hop found further ih =>
      intro waypoint
      obtain ⟨next, there⟩ := waypoint_of_lt (further.start_lt wellFormed)
      obtain ⟨rest, whole⟩ := ih next
      simp only [nodesAlong, found, there, whole, ok_bind]
      exact ⟨_, rfl⟩
  obtain ⟨first, here⟩ := waypoint_of_lt (follows.start_lt wellFormed)
  obtain ⟨nodes, whole⟩ := along first
  refine ⟨⟨nodes⟩, ?_⟩
  rw [routeAlong, here, ok_bind, whole]
  rfl

variable [Distance α] {cancel : Option CancelFlag}

/-- The goal is no source, so that a trail to it has a last arc. -/
theorem leads_last (inside : ∀ source ∈ sources, source.1 < graph.size) {trail : Trail} {cost : α}
    (leads : (graph.network targets airway).Leads sources trail graph.size cost) :
    ∃ last earlier, trail.hops = last :: earlier := by
  generalize goal : graph.size = node at leads
  cases leads with
  | seed place =>
    have below := inside _ (List.mem_of_getElem? place)
    exact absurd (goal ▸ below) (Nat.lt_irrefl _)
  | arc _ _ _ => exact ⟨_, _, rfl⟩

/-- A trail leads to the goal or to a node. -/
theorem leads_lt (wellFormed : graph.WellFormed) (inside : ∀ source ∈ sources, source.1 < graph.size)
    {trail : Trail} {node : Nat} {cost : α}
    (leads : (graph.network targets airway).Leads sources trail node cost) :
    node = graph.size ∨ node < graph.size := by
  cases leads with
  | seed place => exact Or.inr (inside _ (List.mem_of_getElem? place))
  | arc _ leaving member =>
    rcases arc_cases leaving member with ⟨_, goal⟩ | ⟨edge, found, _, target, _⟩
    · exact Or.inl goal
    · exact Or.inr (target ▸ wellFormed.edge_lt found)

/-- **The costs in the network** are the lengths of ways, and stay below infinity with them. -/
theorem network_summable (wellFormed : graph.WellFormed)
    (inside : ∀ source ∈ sources, source.1 < graph.size)
    (summable : graph.Summable sources targets airway) :
    (graph.network targets airway).Summable sources := by
  intro trail node cost leads nodup
  rcases leads_lt wellFormed inside leads with rfl | within
  · obtain ⟨last, earlier, hops⟩ := leads_last inside leads
    obtain ⟨edges, finish, before, after, joins, rfl, ends⟩ := leads_joins wellFormed hops leads
    refine summable.ending _ _ _ _ _ joins.way ?_ (List.mem_of_getElem? joins.target)
    have passed := (List.nodup_cons.mp nodup).2
    rw [Trail.vertices, hops, List.map_cons, ends] at passed
    rw [joins.follows.stops_eq, List.map_reverse, ← List.reverse_cons]
    exact List.nodup_reverse.mpr passed
  · obtain ⟨edges, before, source, follows, along, rfl⟩ := leads_follows wellFormed leads within
    refine summable.along _ _ _ _ ⟨List.mem_of_getElem? source, follows.walk, along⟩ ?_
    rw [follows.stops_eq, List.map_reverse, ← List.reverse_cons]
    exact List.nodup_reverse.mpr nodup

/-! ### Connections -/

/-- A trail that is found is a connection. -/
theorem connection?_of_shortest (inside : ∀ source ∈ sources, source.1 < graph.size) {trail : Trail}
    (searched : Search.shortest (graph.network targets airway) sources graph.size cancel =
      .ok (some trail)) :
    ∃ connection, graph.connection? sources targets airway cancel = .ok (some connection) := by
  obtain ⟨cost, leads⟩ := Search.shortest_leads searched
  obtain ⟨last, earlier, hops⟩ := leads_last inside leads
  unfold connection?
  rw [searched, ok_bind]
  dsimp only
  rw [hops]
  exact ⟨_, rfl⟩

/-- **A search fails only when it is called off.** -/
theorem connection?_failsOnly (wellFormed : graph.WellFormed)
    (inside : ∀ source ∈ sources, source.1 < graph.size) :
    FailsOnly (CalledOff cancel) (graph.connection? sources targets airway cancel) := by
  unfold connection?
  refine FailsOnly.bind ?_ fun outcome _ => ?_
  · exact Search.shortest_failsOnly (network_closed wellFormed) fun source member =>
      Nat.lt_succ_of_lt (inside source member)
  · split
    · exact .ok _
    · split <;> exact .ok _

/-- **A connection is found** when a way leads from a source to a target. -/
theorem connection?_complete [Distance.Irreflexive α] (wellFormed : graph.WellFormed)
    (inside : ∀ source ∈ sources, source.1 < graph.size)
    (summable : graph.Summable sources targets airway) (calm : checkCancel cancel = .ok ())
    (connects : graph.Connects sources targets airway) :
    ∃ connection, graph.connection? sources targets airway cancel = .ok (some connection) := by
  obtain ⟨start, before, edges, finish, after, way, target⟩ := connects
  obtain ⟨trail, leads⟩ := way.walk.leads_goal wellFormed way.source way.along target
  obtain ⟨found, searched⟩ := Search.shortest_complete (network_closed wellFormed)
    (network_summable wellFormed inside summable)
    (fun source member => Nat.lt_succ_of_lt (inside source member)) calm leads
  exact connection?_of_shortest inside searched

end Graph

namespace ShortestRoute

variable {graph : Graph α} {cancel : Option CancelFlag}

section Endpoints

variable [Distance α] {endpoint start finish : Endpoint α} {anchors sources targets : List (Nat × α)}
  {node index : Nat} {cost : α}

/-! ### Endpoints within the graph -/

/-- An endpoint within the graph has anchors. -/
theorem anchors_ok (within : endpoint.Within graph.size) :
    ∃ anchors, endpoint.anchors graph = .ok anchors := by
  cases endpoint with
  | node index => exact ⟨_, rfl⟩
  | terminal waypoint links =>
    refine mapM_ok fun link member => ?_
    obtain ⟨place, here⟩ := Graph.waypoint_of_lt (within link member)
    unfold TerminalLink.cost
    split
    · rw [here]
      exact ⟨_, rfl⟩
    · exact ⟨_, rfl⟩

omit [Distance α] in
theorem ident_ok (within : endpoint.Within graph.size) :
    ∃ ident, endpoint.ident graph = .ok ident := by
  cases endpoint with
  | node index =>
    obtain ⟨place, here⟩ := Graph.waypoint_of_lt within
    refine ⟨place.ident, ?_⟩
    rw [Endpoint.ident, here]
    rfl
  | terminal waypoint links => exact ⟨_, rfl⟩

/-- The number of an anchor is that of a link, and the link leads to a node. -/
theorem link_of_anchor {waypoint : Waypoint} {links : List (TerminalLink α)}
    (within : (Endpoint.terminal waypoint links).Within graph.size)
    (anchored : (Endpoint.terminal waypoint links).anchors graph = .ok anchors)
    (here : anchors[index]? = some (node, cost)) :
    ∃ link place, linkAt links index = .ok link ∧ graph.waypoint link.node = .ok place := by
  obtain ⟨link, linked, _⟩ := (anchors_terminal anchored).mp here
  obtain ⟨place, there⟩ := Graph.waypoint_of_lt (within link (List.mem_of_getElem? linked))
  exact ⟨link, place, linkAt_eq_ok.mpr linked, there⟩

theorem opening_ok (within : endpoint.Within graph.size)
    (anchored : endpoint.anchors graph = .ok anchors) (here : anchors[index]? = some (node, cost)) :
    ∃ front, opening graph endpoint index = .ok front := by
  cases endpoint with
  | node other => exact ⟨_, rfl⟩
  | terminal waypoint links =>
    obtain ⟨link, place, linked, there⟩ := link_of_anchor within anchored here
    rw [opening, linked, ok_bind]
    split
    · rw [there]
      exact ⟨_, rfl⟩
    · exact ⟨_, rfl⟩

theorem closing_ok (within : endpoint.Within graph.size)
    (anchored : endpoint.anchors graph = .ok anchors) (here : anchors[index]? = some (node, cost))
    (route : Route α) : ∃ whole, closing graph endpoint index route = .ok whole := by
  cases endpoint with
  | node other => exact ⟨_, rfl⟩
  | terminal waypoint links =>
    obtain ⟨link, place, linked, there⟩ := link_of_anchor within anchored here
    rw [closing, linked, ok_bind]
    split
    · rw [there]
      exact ⟨_, rfl⟩
    · exact ⟨_, rfl⟩

/-! ### Routes -/

/-- **A connection has a route.** -/
theorem find_of_connection? (wellFormed : graph.WellFormed) (begins : start.Within graph.size)
    (ends : finish.Within graph.size) (entered : start.anchors graph = .ok sources)
    (left : finish.anchors graph = .ok targets) {connection : Connection}
    (searched : graph.connection? sources targets none cancel = .ok (some connection)) :
    ∃ route, find graph start finish cancel = .ok route := by
  obtain ⟨edges, last, before, after, joins⟩ := Graph.connection?_joins wellFormed searched
  obtain ⟨front, opened⟩ := opening_ok begins entered joins.source
  obtain ⟨middle, along⟩ := Graph.routeAlong_ok wellFormed joins.follows
  obtain ⟨whole, closed⟩ := closing_ok ends left joins.target ⟨front ++ middle.nodes⟩
  refine ⟨whole, ?_⟩
  rw [find, entered, ok_bind, left, ok_bind, searched, ok_bind]
  dsimp only
  rw [opened, ok_bind, along, ok_bind, closed]

/-- **Where no connection is found** there is no route, and the failure names both ends. -/
theorem find_of_none (begins : start.Within graph.size) (ends : finish.Within graph.size)
    (entered : start.anchors graph = .ok sources) (left : finish.anchors graph = .ok targets)
    (searched : graph.connection? sources targets none cancel = .ok none) :
    ∃ origin destination, start.ident graph = .ok origin ∧ finish.ident graph = .ok destination ∧
      find graph start finish cancel = .error (.noPath origin destination) := by
  obtain ⟨origin, here⟩ := ident_ok begins
  obtain ⟨destination, there⟩ := ident_ok ends
  refine ⟨origin, destination, here, there, ?_⟩
  rw [find, entered, ok_bind, left, ok_bind, searched, ok_bind]
  dsimp only
  rw [here, ok_bind, there, ok_bind]
  rfl

/-- A search finds no path between two endpoints. -/
def NoPathBetween (graph : Graph α) (start finish : Endpoint α) (failure : RouteError) : Prop :=
  ∃ origin destination, start.ident graph = .ok origin ∧ finish.ident graph = .ok destination ∧
    failure = .noPath origin destination

/-- **A search between endpoints within the graph** fails only for want of a path, or when it is called
off. -/
theorem find_failsOnly (wellFormed : graph.WellFormed) (begins : start.Within graph.size)
    (ends : finish.Within graph.size) :
    FailsOnly (fun failure => NoPathBetween graph start finish failure ∨ CalledOff cancel failure)
      (find graph start finish cancel) := by
  obtain ⟨sources, entered⟩ := anchors_ok begins
  obtain ⟨targets, left⟩ := anchors_ok ends
  have searches : FailsOnly (CalledOff cancel) (graph.connection? sources targets none cancel) :=
    Graph.connection?_failsOnly wellFormed (anchors_hold begins entered)
  intro failure failed
  cases searched : graph.connection? sources targets none cancel with
  | error other =>
    rw [find, entered, ok_bind, left, ok_bind, searched] at failed
    cases failed
    exact Or.inr (searches _ searched)
  | ok outcome =>
    cases outcome with
    | some connection =>
      obtain ⟨route, found⟩ := find_of_connection? wellFormed begins ends entered left searched
      rw [found] at failed
      cases failed
    | none =>
      obtain ⟨origin, destination, here, there, fails⟩ := find_of_none begins ends entered left searched
      rw [fails] at failed
      cases failed
      exact Or.inl ⟨origin, destination, here, there, rfl⟩

end Endpoints

/-! ### Between two nodes -/

variable [Distance α] {start finish : Nat} {route : Route α}

/-- **Between two nodes that a walk joins** a route is found, when the lengths add up. -/
theorem findBetween_ok [Distance.Irreflexive α] (wellFormed : graph.WellFormed)
    (summable : graph.Summable [(start, Distance.zero)] [(finish, Distance.zero)] none)
    {edges : List (Edge α)} (walk : graph.Walk start edges finish) (inside : start < graph.size)
    (calm : checkCancel cancel = .ok ()) :
    ∃ route, findBetween graph start finish cancel = .ok route := by
  have begins : (Endpoint.node start : Endpoint α).Within graph.size := inside
  have ends : (Endpoint.node finish : Endpoint α).Within graph.size := walk.finish_lt
  have connects : graph.Connects [(start, Distance.zero)] [(finish, Distance.zero)] none :=
    ⟨start, _, edges, finish, _, ⟨List.mem_cons_self, walk, fun _ _ => rfl⟩, List.mem_cons_self⟩
  obtain ⟨connection, searched⟩ := Graph.connection?_complete wellFormed (by simpa using inside)
    summable calm connects
  exact find_of_connection? wellFormed begins ends rfl rfl searched

variable [AddCommMonoid α] [LinearOrder α] [Distance.Exact α]

/-- **Between two nodes that a walk joins** a route is found, on exact lengths. -/
theorem findBetween_complete (wellFormed : graph.WellFormed) {edges : List (Edge α)}
    (walk : graph.Walk start edges finish) (inside : start < graph.size)
    (calm : checkCancel cancel = .ok ()) :
    ∃ route, findBetween graph start finish cancel = .ok route :=
  findBetween_ok wellFormed Graph.summable_exact walk inside calm

/-- **It is as short as every walk** where no edge is of negative length. -/
theorem findBetween_least [IsOrderedAddMonoid α] (wellFormed : graph.WellFormed)
    (nonnegative : graph.Nonnegative) (found : findBetween graph start finish cancel = .ok route)
    {edges : List (Edge α)} (walk : graph.Walk start edges finish) :
    Distance.total (route.legs.map (·.distance)) ≤ (edges.map (·.distance)).sum := by
  obtain ⟨connection, searched, along⟩ := findBetween_eq_ok found
  have free : ∀ target ∈ [((finish, Distance.zero) : Nat × α)], 0 ≤ target.2 := by
    intro target member
    rw [List.mem_singleton.mp member]
    exact Distance.zero_eq.ge
  obtain ⟨taken, node, before, after, joins, least⟩ :=
    Graph.connection?_isLeast wellFormed nonnegative free searched
  obtain ⟨waypoint, _, along⟩ := Graph.routeAlong_eq_ok along
  obtain ⟨_, rfl⟩ := Prod.mk.inj (List.mem_singleton.mp (List.mem_of_getElem? joins.source))
  obtain ⟨_, rfl⟩ := Prod.mk.inj (List.mem_singleton.mp (List.mem_of_getElem? joins.target))
  have bound := least start finish _ _ edges List.mem_cons_self walk (fun _ _ => rfl)
    List.mem_cons_self
  calc Distance.total (route.legs.map (·.distance))
      = (taken.map (·.distance)).sum := by
        rw [Distance.total_eq_sum, Graph.nodesAlong_legs joins.follows along, List.map_map]
        rfl
    _ ≤ (edges.map (·.distance)).sum := by
        simpa [Distance.zero_eq] using bound

end ShortestRoute

end FlightRoute
