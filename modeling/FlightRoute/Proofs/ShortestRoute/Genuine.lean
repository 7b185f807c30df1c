/-
**A shortest route is not made up either.**

A route that is found follows edges of the graph between its ends. At an end off the graph it takes a
link, which is direct or a procedure of the runway; a link by way of the end of a procedure has a direct
leg on the other side of that end. A link is written as seen from the waypoint, so that a direct one is as
long as it should be for a route towards the waypoint only when the distance is symmetric.

* `ofWaypoint_opens`, `ofRunway_opens`, `ofWaypoint_closes`, `ofRunway_closes`: the links of an end;
* `find_genuine`: the spans of a route that is found.
-/

import FlightRoute.Proofs.ShortestRoute.Assembly
import FlightRoute.Proofs.Terminal.Genuine

namespace FlightRoute

variable {α : Type} [Distance α] {store : ProcedureStore α} {graph : Graph α}
  {origin destination : Option Runway}

/-- The waypoint that a link leads to from the end of a route: the end of its procedure, when the graph
does not know that one, or the waypoint of its node. -/
def TerminalLink.LeadsTo (link : TerminalLink α) (graph : Graph α) (far : Waypoint) : Prop :=
  link.via = some far ∨ link.via = none ∧ graph.waypoints[link.node]? = some far

namespace Endpoint

/-- A route that begins with a link of the end begins with a genuine span. -/
def Opens (store : ProcedureStore α) (graph : Graph α) (origin : Option Runway) :
    Endpoint α → Prop
  | node _ => True
  | terminal threshold links => ∀ link ∈ links, ∀ far, link.LeadsTo graph far →
      Genuine store graph origin none [⟨threshold, link.leg, far⟩]

/-- A route that ends with a link of the end ends with a genuine span. -/
def Closes (store : ProcedureStore α) (graph : Graph α) (destination : Option Runway) :
    Endpoint α → Prop
  | node _ => True
  | terminal threshold links => ∀ link ∈ links, ∀ far, link.LeadsTo graph far →
      Genuine store graph none destination [⟨far, link.leg, threshold⟩]

variable {waypoint : Waypoint} {count : Nat} {endpoint : Endpoint α} {links : List (TerminalLink α)}

/-! ### Links -/

/-- A direct link is as long as the waypoints are apart. -/
theorem nearestLinks_leg (found : nearestLinks graph waypoint count = .ok links)
    {link : TerminalLink α} (member : link ∈ links) {far : Waypoint}
    (leads : link.LeadsTo graph far) : link.leg = .direct (Distance.between waypoint far) := by
  obtain ⟨position, inside, here⟩ := List.getElem_of_mem member
  have known : links[position]? = some link := here ▸ List.getElem?_eq_getElem inside
  obtain ⟨node, _, made⟩ := (mapM_getElem? found).mp known
  obtain ⟨own, place, made⟩ := bind_eq_ok.mp made
  cases made
  rcases leads with via | ⟨_, there⟩
  · cases via
  · rw [Graph.waypoint_eq_ok] at place
    have same : graph.waypoints[node]? = some far := there
    rw [place] at same
    cases same
    rfl

/-- Direct links open a route. -/
theorem nearestLinks_opens (found : nearestLinks graph waypoint count = .ok links) :
    (terminal waypoint links).Opens store graph origin := by
  intro link member far leads
  rw [nearestLinks_leg found member leads]
  exact genuine_direct waypoint far

/-- On symmetric distances they close a route as well. -/
theorem nearestLinks_closes [Distance.Symmetric α]
    (found : nearestLinks graph waypoint count = .ok links) :
    (terminal waypoint links).Closes store graph destination := by
  intro link member far leads
  rw [nearestLinks_leg found member leads, Distance.between_comm]
  exact genuine_direct far waypoint

/-- A link of a procedure is the procedure up to where it meets the network. -/
theorem procedureLinks_publishes (exactIndex : graph.ExactIndex) {runway : Runway}
    {kind : ProcedureKind} {name : String} {procedure : Procedure α}
    (published : store.procedure runway kind name = .ok procedure) {link : TerminalLink α}
    (member : link ∈ procedureLinks graph name procedure count) {far : Waypoint}
    (leads : link.LeadsTo graph far) : store.Publishes graph runway kind link.leg far := by
  unfold procedureLinks at member
  split at member
  · cases member
  · rename_i fix ends
    split at member
    · rename_i node known
      obtain rfl := List.mem_singleton.mp member
      obtain ⟨own, place, copies⟩ := Graph.sameFix?_eq_some exactIndex known
      rcases leads with via | ⟨_, there⟩
      · cases via
      · have same : graph.waypoints[node]? = some far := there
        rw [place] at same
        cases same
        exact ⟨procedure, published, rfl, rfl, fix, ends, Or.inr copies⟩
    · obtain ⟨node, _, rfl⟩ := List.mem_map.mp member
      rcases leads with via | ⟨joined, _⟩
      · obtain rfl : fix = far := Option.some.inj via
        exact ⟨procedure, published, rfl, rfl, fix, ends, Or.inl (.refl _)⟩
      · cases joined

/-- The links of the procedures of a runway. -/
theorem linksOfNames_publishes {terminal : Terminal α} {kind : ProcedureKind}
    (exactIndex : terminal.graph.ExactIndex) {names : List String}
    (found : linksOfNames terminal kind count names = .ok links) :
    ∀ link ∈ links, ∀ far, link.LeadsTo terminal.graph far →
      terminal.store.Publishes terminal.graph terminal.runway kind link.leg far := by
  induction names generalizing links with
  | nil =>
    cases found
    exact fun link member => absurd member List.not_mem_nil
  | cons name rest ih =>
    unfold linksOfNames at found
    obtain ⟨known, asked, found⟩ := bind_eq_ok.mp found
    obtain ⟨others, further, found⟩ := bind_eq_ok.mp found
    cases found
    intro link member far leads
    rcases List.mem_append.mp member with own | other
    · cases known with
      | none => cases own
      | some procedure =>
        have published := ProcedureStore.procedure?_eq_some_iff.mp asked
        exact procedureLinks_publishes exactIndex published own leads
    · exact ih further link other far leads

/-! ### Ends of a route -/

/-- A waypoint opens a route with nothing but a direct leg. -/
theorem ofWaypoint_opens (found : ofWaypoint graph waypoint count = .ok endpoint) :
    endpoint.Opens store graph origin := by
  unfold ofWaypoint at found
  split at found
  · cases found
    exact trivial
  · obtain ⟨links, nearest, found⟩ := bind_eq_ok.mp found
    cases found
    exact nearestLinks_opens nearest

theorem ofWaypoint_closes [Distance.Symmetric α]
    (found : ofWaypoint graph waypoint count = .ok endpoint) :
    endpoint.Closes store graph destination := by
  unfold ofWaypoint at found
  split at found
  · cases found
    exact trivial
  · obtain ⟨links, nearest, found⟩ := bind_eq_ok.mp found
    cases found
    exact nearestLinks_closes nearest

variable {terminal : Terminal α}

/-- A runway opens a route with one of its departures, or with a direct leg. -/
theorem departure_opens (exactIndex : terminal.graph.ExactIndex)
    (found : departure terminal count = .ok endpoint) :
    endpoint.Opens terminal.store terminal.graph (some terminal.runway) := by
  unfold departure ofRunway at found
  obtain ⟨links, named, found⟩ := bind_eq_ok.mp found
  split at found
  · obtain ⟨links, nearest, found⟩ := bind_eq_ok.mp found
    cases found
    exact nearestLinks_opens nearest
  · cases found
    intro link member far leads
    have leg := linksOfNames_publishes exactIndex named link member far leads
    exact Span.Departs.genuine ⟨.refl _, leg⟩

/-- A runway closes a route with one of its arrivals, or with a direct leg. -/
theorem arrival_closes [Distance.Symmetric α] (exactIndex : terminal.graph.ExactIndex)
    (found : arrival terminal count = .ok endpoint) :
    endpoint.Closes terminal.store terminal.graph (some terminal.runway) := by
  unfold arrival ofRunway at found
  obtain ⟨links, named, found⟩ := bind_eq_ok.mp found
  split at found
  · obtain ⟨links, nearest, found⟩ := bind_eq_ok.mp found
    cases found
    exact nearestLinks_closes nearest
  · cases found
    intro link member far leads
    have leg := linksOfNames_publishes exactIndex named link member far leads
    exact Span.Arrives.genuine ⟨.refl _, leg⟩

end Endpoint

namespace ShortestRoute

variable {endpoint : Endpoint α} {anchors : List (Nat × α)} {index node : Nat} {cost : α}
  {waypoint start finish : Waypoint}

/-- **The spans in front of a route from an anchor** are genuine. -/
theorem opening_genuine (opens : endpoint.Opens store graph origin)
    (anchored : endpoint.anchors graph = .ok anchors) (here : anchors[index]? = some (node, cost))
    (found : graph.waypoints[node]? = some waypoint) {front nodes : List (RouteNode α)}
    (opened : opening graph endpoint index = .ok front) (runs : Route.Runs waypoint nodes finish) :
    ∃ more, spansOf (front ++ nodes) = more ++ spansOf nodes ∧
      Genuine store graph origin none more := by
  cases endpoint with
  | node other =>
    cases opened
    exact ⟨[], rfl, genuine_plain fun span member => absurd member List.not_mem_nil⟩
  | terminal threshold links =>
    obtain ⟨link, linked, opened⟩ := bind_eq_ok.mp opened
    obtain ⟨other, known, rfl, _⟩ := (anchors_terminal anchored).mp here
    rw [linkAt_eq_ok, known] at linked
    cases linked
    have member : link ∈ links := List.mem_of_getElem? known
    cases via : link.via with
    | none =>
      rw [via] at opened
      cases opened
      exact ⟨[⟨threshold, link.leg, waypoint⟩], runs.spansOf_leg link.leg,
        opens link member waypoint (Or.inr ⟨via, found⟩)⟩
    | some bridge =>
      rw [via] at opened
      obtain ⟨place, known, opened⟩ := bind_eq_ok.mp opened
      cases opened
      rw [Graph.waypoint_eq_ok, found] at known
      cases known
      have first := opens link member bridge (Or.inl via)
      refine ⟨_, ?_, first.append (genuine_direct bridge waypoint)⟩
      have bridged : Route.Runs bridge (_ :: nodes) finish :=
        .leg (.direct (Distance.between bridge waypoint)) runs
      exact (bridged.spansOf_leg link.leg).trans (congrArg _ (runs.spansOf_leg _))

/-- **The spans behind a route to an anchor** are genuine. -/
theorem closing_genuine (closes : endpoint.Closes store graph destination)
    (anchored : endpoint.anchors graph = .ok anchors) (here : anchors[index]? = some (node, cost))
    (found : graph.waypoints[node]? = some finish) {route whole : Route α}
    (closed : closing graph endpoint index route = .ok whole)
    (runs : Route.Runs start route.nodes finish) :
    ∃ more, whole.spans = route.spans ++ more ∧ Genuine store graph none destination more := by
  cases endpoint with
  | node other =>
    cases closed
    refine ⟨[], (List.append_nil _).symm, ?_⟩
    exact genuine_plain fun span member => absurd member List.not_mem_nil
  | terminal threshold links =>
    obtain ⟨link, linked, closed⟩ := bind_eq_ok.mp closed
    obtain ⟨other, known, rfl, _⟩ := (anchors_terminal anchored).mp here
    rw [linkAt_eq_ok, known] at linked
    cases linked
    have member : link ∈ links := List.mem_of_getElem? known
    cases via : link.via with
    | none =>
      rw [via] at closed
      cases closed
      exact ⟨_, runs.spansOf_extend _ _, closes link member finish (Or.inr ⟨via, found⟩)⟩
    | some bridge =>
      rw [via] at closed
      obtain ⟨place, known, closed⟩ := bind_eq_ok.mp closed
      cases closed
      rw [Graph.waypoint_eq_ok, found] at known
      cases known
      have last := closes link member bridge (Or.inl via)
      refine ⟨_, ?_, (genuine_direct finish bridge).append last⟩
      have bridged := runs.extend (.direct (Distance.between finish bridge)) bridge
      show spansOf _ = spansOf _ ++ _
      rw [← List.append_assoc, ← runs.spansOf_extend]
      exact bridged.spansOf_extend link.leg threshold

/-- **The spans of a route that is found** are genuine. -/
theorem find_genuine (wellFormed : graph.WellFormed) {start finish : Endpoint α}
    (opens : start.Opens store graph origin) (closes : finish.Closes store graph destination)
    {cancel : Option CancelFlag} {route : Route α}
    (found : find graph start finish cancel = .ok route) :
    Genuine store graph origin destination route.spans := by
  obtain ⟨sources, targets, connection, front, middle, entered, left, searched, opened, along,
    closed⟩ := find_eq_ok found
  obtain ⟨edges, node, before, after, joins⟩ := Graph.connection?_joins wellFormed searched
  obtain ⟨entry, place, along⟩ := Graph.routeAlong_eq_ok along
  obtain ⟨exit, there, runs⟩ := Graph.nodesAlong_runs joins.follows place along
  have inside : ∀ span ∈ spansOf middle.nodes, span.IsPlain graph := by
    intro span member
    obtain ⟨edge, _, follows⟩ := Graph.nodesAlong_spans joins.follows place along span member
    exact Or.inr ⟨edge, follows⟩
  obtain ⟨ahead, spans, first⟩ := opening_genuine opens entered joins.source place opened runs
  obtain ⟨_, _, further⟩ := opening_runs entered joins.source place opened runs
  obtain ⟨behind, whole, last⟩ := closing_genuine closes left joins.target there closed further
  rw [whole]
  show Genuine store graph origin destination (spansOf (front ++ middle.nodes) ++ behind)
  rw [spans]
  exact (first.append (genuine_plain inside)).append last

end ShortestRoute

end FlightRoute
