/-
**A link and the tokens that name its procedure agree.**

How a procedure meets the network is decided twice: a search enters or leaves the graph by the links of
a runway, and the tokens of a route are read by `departure` and `arrival`. Both go the same way. A link
without a `via` is what is read from the name of the procedure and its end; a link by way of an end that
the graph does not know is what is read from the name, the end and the waypoint of the link's node; and
where a runway has no procedure to leave by, its direct links are what is read from a waypoint alone.

* `TerminalLink.outward`, `TerminalLink.inward`: the route of a link;
* `departure_joined`, `departure_bridged`, `departure_direct` and their counterparts for arrivals: what
  is read from the tokens;
* `FoundBy.beginsWith`, `FoundBy.endsWith`: what a search makes of a link;
* `links_agree`: both are the route of the link.
-/

import FlightRoute.Proofs.Graph.Nearest
import FlightRoute.Proofs.ShortestRoute.Assembly
import FlightRoute.Proofs.Terminal.Genuine

namespace FlightRoute

variable {α : Type}

/-! ### The route of a link -/

namespace TerminalLink

variable [Distance α]

/-- The route of a link from its runway to the waypoint of its node. -/
def outward (link : TerminalLink α) (threshold place : Waypoint) : Route α :=
  match link.via with
  | none => .ofLeg threshold link.leg place
  | some via =>
    ⟨[{ waypoint := threshold, leg := some link.leg },
      { waypoint := via, leg := some (.direct (Distance.between via place)) },
      .final place]⟩

/-- The route of a link from the waypoint of its node to its runway. -/
def inward (link : TerminalLink α) (threshold place : Waypoint) : Route α :=
  match link.via with
  | none => .ofLeg place link.leg threshold
  | some via =>
    ⟨[{ waypoint := place, leg := some (.direct (Distance.between place via)) },
      { waypoint := via, leg := some link.leg },
      .final threshold]⟩

/-- A link that is one of a procedure, which is published for the runway under a name. -/
structure StemsFrom (link : TerminalLink α) (terminal : Terminal α) (kind : ProcedureKind) (count : Nat)
    (name : String) (procedure : Procedure α) : Prop where
  listed : name ∈ terminal.store.names terminal.runway kind
  published : terminal.store.procedure terminal.runway kind name = .ok procedure
  linked : link ∈ Endpoint.procedureLinks terminal.graph name procedure count

end TerminalLink

/-- A route that begins with another one, the last node of which may lead on. -/
def Route.BeginsWith (route first : Route α) : Prop :=
  ∃ rest, route.nodes = first.nodes.dropLast ++ rest ∧
    rest.head?.map (·.waypoint) = first.last?

/-- A route that ends with another one. -/
def Route.EndsWith (route last : Route α) : Prop :=
  ∃ front, route.nodes = front ++ last.nodes

/-! ### Where the links of a runway come from -/

namespace Endpoint

variable [Distance α] {terminal : Terminal α} {kind : ProcedureKind} {count : Nat}
  {links : List (TerminalLink α)} {link : TerminalLink α}

theorem linksOfNames_stem {names : List String}
    (found : linksOfNames terminal kind count names = .ok links) (member : link ∈ links) :
    ∃ name ∈ names, ∃ procedure,
      terminal.store.procedure terminal.runway kind name = .ok procedure ∧
      link ∈ procedureLinks terminal.graph name procedure count := by
  induction names generalizing links with
  | nil =>
    cases found
    exact absurd member List.not_mem_nil
  | cons name rest ih =>
    unfold linksOfNames at found
    obtain ⟨known, asked, found⟩ := bind_eq_ok.mp found
    obtain ⟨others, further, found⟩ := bind_eq_ok.mp found
    cases found
    rcases List.mem_append.mp member with own | other
    · cases known with
      | none => cases own
      | some procedure =>
        have published := ProcedureStore.procedure?_eq_some_iff.mp asked
        exact ⟨name, List.mem_cons_self, procedure, published, own⟩
    · obtain ⟨name, listed, stems⟩ := ih further other
      exact ⟨name, List.mem_cons_of_mem _ listed, stems⟩

/-- The links of a runway are those of its procedures, or direct ones when there are none. -/
theorem ofRunway_eq_ok {endpoint : Endpoint α} (found : ofRunway terminal kind count = .ok endpoint) :
    ∃ links, endpoint = .terminal terminal.runway.threshold links ∧
      ((∀ link ∈ links, ∃ name procedure, link.StemsFrom terminal kind count name procedure) ∨
        linksOfNames terminal kind count (terminal.store.names terminal.runway kind) = .ok [] ∧
        nearestLinks terminal.graph terminal.runway.threshold count = .ok links) := by
  unfold ofRunway at found
  obtain ⟨links, named, found⟩ := bind_eq_ok.mp found
  split at found
  · rename_i empty
    rw [List.isEmpty_iff.mp empty] at named
    obtain ⟨straight, nearest, found⟩ := bind_eq_ok.mp found
    cases found
    exact ⟨straight, rfl, Or.inr ⟨named, nearest⟩⟩
  · cases found
    refine ⟨links, rfl, Or.inl fun link member => ?_⟩
    obtain ⟨name, listed, procedure, published, linked⟩ := linksOfNames_stem named member
    exact ⟨name, procedure, listed, published, linked⟩

/-- A direct link is one to the waypoint of its node. -/
theorem mem_nearestLinks {graph : Graph α} {waypoint : Waypoint}
    (found : nearestLinks graph waypoint count = .ok links) (member : link ∈ links) :
    ∃ place, graph.waypoints[link.node]? = some place ∧ link.via = none ∧
      link.leg = .direct (Distance.between waypoint place) := by
  obtain ⟨position, known⟩ := List.mem_iff_getElem?.mp member
  obtain ⟨node, _, made⟩ := (mapM_getElem? found).mp known
  obtain ⟨place, here, made⟩ := bind_eq_ok.mp made
  cases made
  exact ⟨place, Graph.waypoint_eq_ok.mp here, rfl, rfl⟩

/-- **A link of a procedure** leads to the graph's copy of the end, or by way of the end to a node when
there is no copy. -/
theorem procedureLinks_cases {graph : Graph α} {name : String} {procedure : Procedure α}
    (member : link ∈ procedureLinks graph name procedure count) :
    ∃ fix place, procedure.enrouteEnd? = some fix ∧ graph.waypoints[link.node]? = some place ∧
      link.leg = ⟨name, procedure.totalDistance, procedure.inner⟩ ∧
      ((link.via = none ∧ graph.sameFix? fix = some link.node) ∨
        (link.via = some fix ∧ graph.sameFix? fix = none)) := by
  unfold procedureLinks at member
  split at member
  · cases member
  · rename_i fix ends
    split at member
    · rename_i node known
      obtain rfl := List.mem_singleton.mp member
      obtain ⟨_, near⟩ := Option.filter_eq_some_iff.mp known
      obtain ⟨place, here, _⟩ := (Option.any_eq_true ..).mp near
      exact ⟨fix, place, ends, here, rfl, Or.inl ⟨rfl, known⟩⟩
    · rename_i unknown
      obtain ⟨node, nearest, rfl⟩ := List.mem_map.mp member
      obtain ⟨place, here⟩ := Graph.mem_nearest nearest
      exact ⟨fix, place, ends, here, rfl, Or.inr ⟨rfl, unknown⟩⟩

end Endpoint

/-! ### What is read from the tokens -/

namespace Terminal

variable [Distance α] {terminal : Terminal α} {kind : ProcedureKind} {name : String}
  {procedure : Procedure α} {fix place : Waypoint} {node : Nat} {seam token : Token}

omit [Distance α] in
theorem procedureOf_ident
    (published : terminal.store.procedure terminal.runway kind name = .ok procedure) :
    terminal.procedureOf kind (.ident name) = .ok (some procedure) := by
  unfold procedureOf ProcedureStore.procedure?
  dsimp only
  rw [published]

theorem graphCopy_of_sameFix (known : terminal.graph.sameFix? fix = some node)
    (here : terminal.graph.waypoints[node]? = some place) :
    terminal.graphCopy fix = .ok (some place) := by
  unfold graphCopy
  rw [known]
  exact map_eq_ok.mpr ⟨place, Graph.waypoint_eq_ok.mpr here, rfl⟩

theorem graphCopy_of_unknown (unknown : terminal.graph.sameFix? fix = none) :
    terminal.graphCopy fix = .ok none := by
  unfold graphCopy
  rw [unknown]

/-- A token that stands for a waypoint is no direct leg. -/
theorem skipDirect_of_waypointOf (resolved : terminal.waypointOf token = .ok place)
    (rest : List Token) : skipDirect (token :: rest) = token :: rest := by
  cases token with
  | direct => cases resolved
  | _ => rfl

/-- A departure whose end the graph knows. -/
theorem departure_joined
    (published : terminal.store.procedure terminal.runway .sid name = .ok procedure)
    (ends : procedure.last? = some fix) (known : terminal.graph.sameFix? fix = some node)
    (here : terminal.graph.waypoints[node]? = some place) (named : seam.text = fix.ident)
    (rest : List Token) :
    terminal.departure (.ident name :: seam :: rest) =
      .ok ⟨seam :: rest, .ofLeg terminal.runway.threshold procedure.leg place⟩ := by
  simp only [departure, procedureOf_ident published, ok_bind, procedureDeparture, ends]
  rw [if_neg (not_not.mpr named), graphCopy_of_sameFix known here]
  rfl

/-- A departure whose end only the procedure knows. -/
theorem departure_bridged
    (published : terminal.store.procedure terminal.runway .sid name = .ok procedure)
    (ends : procedure.last? = some fix) (unknown : terminal.graph.sameFix? fix = none)
    (named : seam.text = fix.ident) (resolved : terminal.waypointOf token = .ok place)
    (rest : List Token) :
    terminal.departure (.ident name :: seam :: token :: rest) =
      .ok ⟨token :: rest,
        ⟨[{ waypoint := terminal.runway.threshold, leg := some procedure.leg },
          { waypoint := fix, leg := some (.direct (Distance.between fix place)) },
          .final place]⟩⟩ := by
  simp only [departure, procedureOf_ident published, ok_bind, procedureDeparture, ends]
  rw [if_neg (not_not.mpr named), graphCopy_of_unknown unknown, ok_bind]
  simp only [bridgedDeparture, skipDirect_of_waypointOf resolved, resolved, ok_bind]
  rfl

/-- A departure without a procedure. -/
theorem departure_direct (unnamed : terminal.procedureOf .sid token = .ok none)
    (resolved : terminal.waypointOf token = .ok place) (rest : List Token) :
    terminal.departure (token :: rest) =
      .ok ⟨token :: rest, .ofLeg terminal.runway.threshold
        (.direct (Distance.between terminal.runway.threshold place)) place⟩ := by
  simp only [departure, unnamed, ok_bind, directDeparture, resolved]
  rfl

/-- An arrival whose beginning the graph knows. -/
theorem arrival_joined
    (published : terminal.store.procedure terminal.runway .star name = .ok procedure)
    (begins : procedure.first? = some fix) (known : terminal.graph.sameFix? fix = some node)
    (here : terminal.graph.waypoints[node]? = some place) (named : seam.text = fix.ident)
    (rest : List Token) :
    terminal.arrival (.ident name :: seam :: rest).reverse =
      .ok ⟨(seam :: rest).reverse, .ofLeg place procedure.leg terminal.runway.threshold⟩ := by
  simp only [arrival, List.reverse_reverse, procedureOf_ident published, ok_bind, procedureArrival,
    begins]
  rw [if_neg (not_not.mpr named), graphCopy_of_sameFix known here]
  rfl

/-- An arrival whose beginning only the procedure knows. -/
theorem arrival_bridged
    (published : terminal.store.procedure terminal.runway .star name = .ok procedure)
    (begins : procedure.first? = some fix) (unknown : terminal.graph.sameFix? fix = none)
    (named : seam.text = fix.ident) (resolved : terminal.waypointOf token = .ok place)
    (rest : List Token) :
    terminal.arrival (.ident name :: seam :: token :: rest).reverse =
      .ok ⟨(token :: rest).reverse,
        ⟨[{ waypoint := place, leg := some (.direct (Distance.between place fix)) },
          { waypoint := fix, leg := some procedure.leg },
          .final terminal.runway.threshold]⟩⟩ := by
  simp only [arrival, List.reverse_reverse, procedureOf_ident published, ok_bind, procedureArrival,
    begins]
  rw [if_neg (not_not.mpr named), graphCopy_of_unknown unknown, ok_bind]
  simp only [bridgedArrival, skipDirect_of_waypointOf resolved, resolved, ok_bind]
  rfl

/-- An arrival without a procedure. -/
theorem arrival_direct (unnamed : terminal.procedureOf .star token = .ok none)
    (resolved : terminal.waypointOf token = .ok place) (rest : List Token) :
    terminal.arrival (token :: rest).reverse =
      .ok ⟨(token :: rest).reverse, .ofLeg place
        (.direct (Distance.between place terminal.runway.threshold)) terminal.runway.threshold⟩ := by
  simp only [arrival, List.reverse_reverse, unnamed, ok_bind, directArrival, resolved]
  rfl

end Terminal

/-! ### What a search makes of a link -/

namespace ShortestRoute

variable [Distance α]

/-- A route that is found by way of the source of one number and the target of another. -/
structure FoundBy (graph : Graph α) (start finish : Endpoint α) (cancel : Option CancelFlag)
    (source target : Nat) (route : Route α) : Prop where
  found : find graph start finish cancel = .ok route
  connected : ∃ sources targets connection, start.anchors graph = .ok sources ∧
    finish.anchors graph = .ok targets ∧
    graph.connection? sources targets none cancel = .ok (some connection) ∧
    connection.source = source ∧ connection.target = target

variable {graph : Graph α} {start finish : Endpoint α} {cancel : Option CancelFlag}
  {source target index : Nat} {route : Route α} {threshold place : Waypoint}
  {links : List (TerminalLink α)} {link : TerminalLink α}

/-- The parts of a route that is found by way of a source and a target: it enters the graph at the node
of the one, and leaves it at the node of the other. -/
structure Parts (graph : Graph α) (start finish : Endpoint α) (source target : Nat) (route : Route α)
    (entry exit : Nat) (front nodes : List (RouteNode α)) : Prop where
  enters : ∃ sources before, start.anchors graph = .ok sources ∧ sources[source]? = some (entry, before)
  leaves : ∃ targets after, finish.anchors graph = .ok targets ∧ targets[target]? = some (exit, after)
  opened : opening graph start source = .ok front
  runs : ∃ first last, graph.waypoints[entry]? = some first ∧ graph.waypoints[exit]? = some last ∧
    Route.Runs first nodes last
  closed : closing graph finish target ⟨front ++ nodes⟩ = .ok route

theorem FoundBy.parts (wellFormed : graph.WellFormed)
    (foundBy : FoundBy graph start finish cancel source target route) :
    ∃ entry exit front nodes, Parts graph start finish source target route entry exit front nodes := by
  obtain ⟨sources, targets, connection, entered, left, searched, rfl, rfl⟩ := foundBy.connected
  obtain ⟨edges, exit, before, after, joins⟩ := Graph.connection?_joins wellFormed searched
  have whole := foundBy.found
  unfold find at whole
  simp only [entered, left, searched, ok_bind] at whole
  obtain ⟨front, opened, whole⟩ := bind_eq_ok.mp whole
  obtain ⟨middle, along, closed⟩ := bind_eq_ok.mp whole
  obtain ⟨first, place, along⟩ := Graph.routeAlong_eq_ok along
  obtain ⟨last, there, runs⟩ := Graph.nodesAlong_runs joins.follows place along
  exact ⟨connection.start, exit, front, middle.nodes, ⟨sources, before, entered, joins.source⟩,
    ⟨targets, after, left, joins.target⟩, opened, ⟨first, last, place, there, runs⟩, closed⟩

/-- A link is at the node of its anchor. -/
theorem anchors_link {anchors : List (Nat × α)} {node : Nat} {cost : α}
    (anchored : (Endpoint.terminal threshold links).anchors graph = .ok anchors)
    (at_index : anchors[index]? = some (node, cost)) (linked : links[index]? = some link) :
    node = link.node := by
  obtain ⟨other, known, same, _⟩ := (anchors_terminal anchored).mp at_index
  rw [linked] at known
  cases known
  exact same.symm

/-- The nodes in front of a route are those of the link, up to its node. -/
theorem opening_outward (linked : links[index]? = some link)
    (here : graph.waypoints[link.node]? = some place) :
    opening graph (.terminal threshold links) index =
      .ok (link.outward threshold place).nodes.dropLast := by
  unfold opening TerminalLink.outward
  simp only [linkAt_eq_ok.mpr linked, ok_bind]
  cases via : link.via with
  | none => rfl
  | some bridge =>
    simp only [Graph.waypoint_eq_ok.mpr here, ok_bind]
    rfl

/-- The nodes behind a route are those of the link, from its node on. -/
theorem closing_inward {first : Waypoint} (linked : links[index]? = some link)
    (here : graph.waypoints[link.node]? = some place)
    (runs : Route.Runs first route.nodes place) :
    closing graph (.terminal threshold links) index route =
      .ok ⟨route.nodes.dropLast ++ (link.inward threshold place).nodes⟩ := by
  unfold closing TerminalLink.inward
  simp only [linkAt_eq_ok.mpr linked, ok_bind]
  cases via : link.via with
  | none =>
    show Except.ok (route.extend link.leg threshold) = _
    exact congrArg (Except.ok ∘ Route.mk) (runs.extend_nodes link.leg threshold)
  | some bridge =>
    simp only [Graph.waypoint_eq_ok.mpr here, ok_bind]
    have bridged := runs.extend (.direct (Distance.between place bridge)) bridge
    refine congrArg (Except.ok ∘ Route.mk) ((bridged.extend_nodes link.leg threshold).trans ?_)
    rw [runs.extend_nodes, List.dropLast_append_of_ne_nil (List.cons_ne_nil _ _),
      List.append_assoc]
    rfl

/-- The nodes behind a route take the place of its last one. -/
theorem closing_rejoins {first last : Waypoint}
    (leaves : ∃ targets after node, finish.anchors graph = .ok targets ∧
      targets[index]? = some (node, after) ∧ graph.waypoints[node]? = some last)
    (runs : Route.Runs first route.nodes last) {whole : Route α}
    (closed : closing graph finish index route = .ok whole) :
    ∃ behind, whole.nodes = route.nodes.dropLast ++ behind ∧
      behind.head?.map (·.waypoint) = some last := by
  obtain ⟨targets, after, node, anchored, at_index, there⟩ := leaves
  cases finish with
  | node other =>
    cases closed
    refine ⟨[.final last], ?_, rfl⟩
    exact (List.dropLast_append_getLast? _ runs.getLast?).symm
  | terminal threshold links =>
    obtain ⟨link, linked, rfl, _⟩ := (anchors_terminal anchored).mp at_index
    rw [closing_inward linked there runs] at closed
    cases closed
    refine ⟨_, rfl, ?_⟩
    unfold TerminalLink.inward
    cases link.via <;> rfl

/-- **A route that uses a link of its start** begins with the route of the link. -/
theorem FoundBy.beginsWith (wellFormed : graph.WellFormed)
    (foundBy : FoundBy graph (.terminal threshold links) finish cancel source target route)
    (linked : links[source]? = some link) (here : graph.waypoints[link.node]? = some place) :
    route.BeginsWith (link.outward threshold place) := by
  obtain ⟨entry, exit, front, nodes, parts⟩ := foundBy.parts wellFormed
  obtain ⟨first, last, begins, ends, runs⟩ := parts.runs
  obtain ⟨sources, before, entered, at_source⟩ := parts.enters
  obtain ⟨targets, after, left, at_target⟩ := parts.leaves
  obtain rfl : entry = link.node := anchors_link entered at_source linked
  obtain rfl : first = place := Option.some.inj (begins.symm.trans here)
  have opened := parts.opened
  rw [opening_outward linked here] at opened
  cases opened
  obtain ⟨start, _, further⟩ := opening_runs entered at_source here parts.opened runs
  obtain ⟨behind, whole, meets⟩ :=
    closing_rejoins ⟨targets, after, exit, left, at_target, ends⟩ further parts.closed
  refine ⟨nodes.dropLast ++ behind, ?_, ?_⟩
  · rw [whole, List.dropLast_append_of_ne_nil runs.ne_nil, List.append_assoc]
  · rw [runs.head?_rejoin meets]
    unfold TerminalLink.outward
    cases link.via <;> rfl

/-- **A route that uses a link of its end** ends with the route of the link. -/
theorem FoundBy.endsWith (wellFormed : graph.WellFormed)
    (foundBy : FoundBy graph start (.terminal threshold links) cancel source target route)
    (linked : links[target]? = some link) (here : graph.waypoints[link.node]? = some place) :
    route.EndsWith (link.inward threshold place) := by
  obtain ⟨entry, exit, front, nodes, parts⟩ := foundBy.parts wellFormed
  obtain ⟨first, last, begins, ends, runs⟩ := parts.runs
  obtain ⟨sources, before, entered, at_source⟩ := parts.enters
  obtain ⟨targets, after, left, at_target⟩ := parts.leaves
  obtain rfl : exit = link.node := anchors_link left at_target linked
  obtain rfl : last = place := Option.some.inj (ends.symm.trans here)
  obtain ⟨_, _, further⟩ := opening_runs entered at_source begins parts.opened runs
  have closed := parts.closed
  rw [closing_inward linked here further] at closed
  cases closed
  exact ⟨_, rfl⟩

end ShortestRoute

/-! ### Both read the same -/

namespace Terminal

variable [Distance α] {terminal : Terminal α} {kind : ProcedureKind} {count : Nat}
  {links : List (TerminalLink α)} {link : TerminalLink α} {place : Waypoint}

/-- Tokens at a runway that are read as a route and leave some of them. They come from the runway on. -/
def Reads (terminal : Terminal α) (kind : ProcedureKind) (tokens remaining : List Token)
    (route : Route α) : Prop :=
  match kind with
  | .sid => terminal.departure tokens = .ok ⟨remaining, route⟩
  | .star => terminal.arrival tokens.reverse = .ok ⟨remaining.reverse, route⟩

/-- The route of a link between its runway and the waypoint of its node, as it is flown. -/
def linkRoute (terminal : Terminal α) (kind : ProcedureKind) (link : TerminalLink α)
    (place : Waypoint) : Route α :=
  match kind with
  | .sid => link.outward terminal.runway.threshold place
  | .star => link.inward terminal.runway.threshold place

/-- The tokens for a link are read as its route. A direct link is measured from the runway, so that for
an arrival the distance has to be symmetric. -/
structure ReadsLink (terminal : Terminal α) (kind : ProcedureKind) (count : Nat)
    (link : TerminalLink α) (place : Waypoint) : Prop where
  named : ∀ name procedure, link.StemsFrom terminal kind count name procedure →
    ∃ fix, procedure.enrouteEnd? = some fix ∧
      (link.via = none → ∀ seam rest, seam.text = fix.ident →
        terminal.Reads kind (.ident name :: seam :: rest) (seam :: rest)
          (terminal.linkRoute kind link place)) ∧
      ∀ via, link.via = some via → via = fix ∧
        ∀ seam token rest, seam.text = fix.ident → terminal.waypointOf token = .ok place →
          terminal.Reads kind (.ident name :: seam :: token :: rest) (token :: rest)
            (terminal.linkRoute kind link place)
  direct : (∀ name procedure, ¬ link.StemsFrom terminal kind count name procedure) →
    (kind = .star → Distance.Symmetric α) → link.via = none ∧
      ∀ token rest, terminal.procedureOf kind token = .ok none → terminal.waypointOf token = .ok place →
        terminal.Reads kind (token :: rest) (token :: rest) (terminal.linkRoute kind link place)

/-- The tokens that name a procedure are read as the route of its link. -/
theorem reads_of_stemsFrom (named : terminal.store.Named) (kinded : terminal.store.Kinded)
    (here : terminal.graph.waypoints[link.node]? = some place) {name : String}
    {procedure : Procedure α} (stems : link.StemsFrom terminal kind count name procedure) :
    ∃ fix, procedure.enrouteEnd? = some fix ∧
      (link.via = none → ∀ seam rest, seam.text = fix.ident →
        terminal.Reads kind (.ident name :: seam :: rest) (seam :: rest)
          (terminal.linkRoute kind link place)) ∧
      ∀ via, link.via = some via → via = fix ∧
        ∀ seam token rest, seam.text = fix.ident → terminal.waypointOf token = .ok place →
          terminal.Reads kind (.ident name :: seam :: token :: rest) (token :: rest)
            (terminal.linkRoute kind link place) := by
  obtain ⟨fix, _, ends, _, leg, meets⟩ := Endpoint.procedureLinks_cases stems.linked
  have published := stems.published
  have same : link.leg = procedure.leg := by
    rw [leg, ← named _ _ _ _ published]
    rfl
  have seam : procedure.seam? kind = some fix := by
    rw [← kinded _ _ _ _ published, ← Procedure.enrouteEnd?_eq, ends]
  refine ⟨fix, ends, ?_, ?_⟩
  · intro noProcedure token rest names
    obtain ⟨_, known⟩ := meets.resolve_right fun other => by simp [noProcedure] at other
    cases kind with
    | sid =>
      simpa [Reads, linkRoute, TerminalLink.outward, noProcedure, same] using
        departure_joined published seam known here names rest
    | star =>
      simpa [Reads, linkRoute, TerminalLink.inward, noProcedure, same] using
        arrival_joined published seam known here names rest
  · intro via bridged
    obtain ⟨known, unknown⟩ := meets.resolve_left fun other => by simp [bridged] at other
    obtain rfl : via = fix := Option.some.inj (bridged.symm.trans known)
    refine ⟨rfl, fun token enroute rest names resolved => ?_⟩
    cases kind with
    | sid =>
      simpa [Reads, linkRoute, TerminalLink.outward, bridged, same] using
        departure_bridged published seam unknown names resolved rest
    | star =>
      simpa [Reads, linkRoute, TerminalLink.inward, bridged, same] using
        arrival_bridged published seam unknown names resolved rest

/-- A waypoint alone is read as the route of a direct link. -/
theorem reads_direct (symmetric : kind = .star → Distance.Symmetric α) (noProcedure : link.via = none)
    (leg : link.leg = .direct (Distance.between terminal.runway.threshold place)) {token : Token}
    (unnamed : terminal.procedureOf kind token = .ok none)
    (resolved : terminal.waypointOf token = .ok place) (rest : List Token) :
    terminal.Reads kind (token :: rest) (token :: rest) (terminal.linkRoute kind link place) := by
  cases kind with
  | sid =>
    simpa [Reads, linkRoute, TerminalLink.outward, noProcedure, leg] using
      departure_direct unnamed resolved rest
  | star =>
    have := symmetric rfl
    rw [Distance.between_comm] at leg
    simpa [Reads, linkRoute, TerminalLink.inward, noProcedure, leg] using
      arrival_direct unnamed resolved rest

/-- **The tokens for a link of a runway are read as its route.** -/
theorem readsLink (named : terminal.store.Named) (kinded : terminal.store.Kinded)
    {endpoint : Endpoint α} (found : Endpoint.ofRunway terminal kind count = .ok endpoint) :
    ∃ links, endpoint = .terminal terminal.runway.threshold links ∧
      ∀ link ∈ links, ∃ place, terminal.graph.waypoints[link.node]? = some place ∧
        terminal.ReadsLink kind count link place := by
  obtain ⟨links, rfl, stems | ⟨_, nearest⟩⟩ := Endpoint.ofRunway_eq_ok found
  · refine ⟨links, rfl, fun link member => ?_⟩
    obtain ⟨name, procedure, stem⟩ := stems link member
    obtain ⟨_, place, _, here, _⟩ := Endpoint.procedureLinks_cases stem.linked
    refine ⟨place, here, fun _ _ stem => reads_of_stemsFrom named kinded here stem, ?_⟩
    exact fun without => absurd stem (without name procedure)
  · refine ⟨links, rfl, fun link member => ?_⟩
    obtain ⟨place, here, noProcedure, leg⟩ := Endpoint.mem_nearestLinks nearest member
    refine ⟨place, here, fun _ _ stem => reads_of_stemsFrom named kinded here stem, ?_⟩
    intro _ symmetric
    exact ⟨noProcedure, fun token rest unnamed resolved =>
      reads_direct symmetric noProcedure leg unnamed resolved rest⟩

/-- **Links and tokens agree.** At a departure, for every link, the tokens that name its procedure and
where it meets the network, or a waypoint alone where the runway has no procedure, are read as the
route of the link, and every route that a search finds by way of the link begins with it. At an arrival
the same holds, seen from the other end. -/
theorem links_agree (named : terminal.store.Named) (kinded : terminal.store.Kinded)
    (wellFormed : terminal.graph.WellFormed) {endpoint : Endpoint α} :
    (Endpoint.departure terminal count = .ok endpoint →
      ∃ links, endpoint = .terminal terminal.runway.threshold links ∧
        ∀ (index : Nat) (link : TerminalLink α), links[index]? = some link →
          ∃ place, terminal.graph.waypoints[link.node]? = some place ∧
            terminal.ReadsLink .sid count link place ∧
            ∀ finish cancel target route,
              ShortestRoute.FoundBy terminal.graph endpoint finish cancel index target route →
              route.BeginsWith (link.outward terminal.runway.threshold place)) ∧
    (Endpoint.arrival terminal count = .ok endpoint →
      ∃ links, endpoint = .terminal terminal.runway.threshold links ∧
        ∀ (index : Nat) (link : TerminalLink α), links[index]? = some link →
          ∃ place, terminal.graph.waypoints[link.node]? = some place ∧
            terminal.ReadsLink .star count link place ∧
            ∀ start cancel source route,
              ShortestRoute.FoundBy terminal.graph start endpoint cancel source index route →
              route.EndsWith (link.inward terminal.runway.threshold place)) := by
  constructor
  · intro found
    obtain ⟨links, rfl, reads⟩ := readsLink named kinded found
    refine ⟨links, rfl, fun index link linked => ?_⟩
    obtain ⟨place, here, read⟩ := reads link (List.mem_of_getElem? linked)
    exact ⟨place, here, read, fun _ _ _ _ foundBy => foundBy.beginsWith wellFormed linked here⟩
  · intro found
    obtain ⟨links, rfl, reads⟩ := readsLink named kinded found
    refine ⟨links, rfl, fun index link linked => ?_⟩
    obtain ⟨place, here, read⟩ := reads link (List.mem_of_getElem? linked)
    exact ⟨place, here, read, fun _ _ _ _ foundBy => foundBy.endsWith wellFormed linked here⟩

/-- The departure of the runway beside the crossing leads by way of its end to the closest node. -/
theorem besideCrossing_departs :
    Endpoint.departure besideCrossing 1 = .ok (.terminal ⟨"KAAA09", 0, 0⟩
      [.ofProcedure "DEP1" (.ofFixes "DEP1" .sid [⟨"X", 1, 0⟩] ⟨"KAAA09", 0, 0⟩)
        (some ⟨"X", 1, 0⟩) 0]) := by
  have nearest : besideCrossing.graph.nearest ⟨"X", 1, 0⟩ 1 = [0] := by
    show crossing.nearest ⟨"X", 1, 0⟩ 1 = [0]
    rw [Graph.nearest_eq_of_sorted (.refl (crossing.measured ⟨"X", 1, 0⟩)) (by decide +kernel)]
    decide
  have links : Endpoint.linksOfNames besideCrossing .sid 1 ["DEP1"] = .ok
      [.ofProcedure "DEP1" (.ofFixes "DEP1" .sid [⟨"X", 1, 0⟩] ⟨"KAAA09", 0, 0⟩)
        (some ⟨"X", 1, 0⟩) 0] := by
    show Except.ok (Endpoint.procedureLinks besideCrossing.graph "DEP1"
      (.ofFixes "DEP1" .sid [⟨"X", 1, 0⟩] ⟨"KAAA09", 0, 0⟩) 1 ++ []) = _
    have ends : (Procedure.ofFixes "DEP1" .sid [⟨"X", 1, 0⟩] ⟨"KAAA09", 0, 0⟩ :
        Procedure ℚ).enrouteEnd? = some ⟨"X", 1, 0⟩ := rfl
    simp only [Endpoint.procedureLinks, ends, besideCrossing_unknown, nearest]
    rfl
  show (Endpoint.linksOfNames besideCrossing .sid 1 ["DEP1"] >>= _) = _
  rw [links]
  rfl

/-- Its arrival begins at a node. -/
theorem besideCrossing_arrives :
    Endpoint.arrival besideCrossing 1 = .ok (.terminal ⟨"KAAA09", 0, 0⟩
      [.ofProcedure "ARR1" (.ofFixes "ARR1" .star [⟨"C", 0, 3⟩] ⟨"KAAA09", 0, 0⟩) none 2]) := by
  have links : Endpoint.linksOfNames besideCrossing .star 1 ["ARR1"] = .ok
      [.ofProcedure "ARR1" (.ofFixes "ARR1" .star [⟨"C", 0, 3⟩] ⟨"KAAA09", 0, 0⟩) none 2] := by
    show Except.ok (Endpoint.procedureLinks besideCrossing.graph "ARR1"
      (.ofFixes "ARR1" .star [⟨"C", 0, 3⟩] ⟨"KAAA09", 0, 0⟩) 1 ++ []) = _
    have begins : (Procedure.ofFixes "ARR1" .star [⟨"C", 0, 3⟩] ⟨"KAAA09", 0, 0⟩ :
        Procedure ℚ).enrouteEnd? = some ⟨"C", 0, 3⟩ := rfl
    simp only [Endpoint.procedureLinks, begins, besideCrossing_known]
    rfl
  show (Endpoint.linksOfNames besideCrossing .star 1 ["ARR1"] >>= _) = _
  rw [links]
  rfl

/-- A departure that is bridged and an arrival that is joined, each by its one link. -/
theorem links_agree_crossing :
    besideCrossing.store.Named ∧ besideCrossing.store.Kinded ∧ besideCrossing.graph.WellFormed ∧
      (∃ link, Endpoint.departure besideCrossing 1 = .ok (.terminal ⟨"KAAA09", 0, 0⟩ [link]) ∧
        link.via = some ⟨"X", 1, 0⟩ ∧ besideCrossing.ReadsLink .sid 1 link ⟨"A", 0, 1⟩) ∧
      ∃ link, Endpoint.arrival besideCrossing 1 = .ok (.terminal ⟨"KAAA09", 0, 0⟩ [link]) ∧
        link.via = none ∧ besideCrossing.ReadsLink .star 1 link ⟨"C", 0, 3⟩ := by
  have named : besideCrossing.store.Named := ProcedureTable.store_named _
  have kinded : besideCrossing.store.Kinded := ProcedureTable.store_kinded _
  have wellFormed : besideCrossing.graph.WellFormed := crossing_built.wellFormed
  refine ⟨named, kinded, wellFormed, ⟨_, besideCrossing_departs, rfl, ?_⟩,
    ⟨_, besideCrossing_arrives, rfl, ?_⟩⟩
  · obtain ⟨links, whole, agree⟩ := (links_agree named kinded wellFormed).1 besideCrossing_departs
    cases whole
    obtain ⟨place, here, reads, _⟩ := agree 0 _ rfl
    cases here
    exact reads
  · obtain ⟨links, whole, agree⟩ := (links_agree named kinded wellFormed).2 besideCrossing_arrives
    cases whole
    obtain ⟨place, here, reads, _⟩ := agree 0 _ rfl
    cases here
    exact reads

end Terminal

end FlightRoute
