/-
**From node to node along the tokens.**

A run keeps the number of the node it has come to. A direct leg leads to a node and the run goes on from
there. The search for an airway ends on a node too, but the run does not keep its number: it looks the
node up again by its waypoint, and goes on from the first one that agrees (`Graph.Lands`). That is the
node itself when no earlier one has the same waypoint (`Graph.Foremost`), and a twin of it otherwise,
whose edges are others. Where the nodes that the tokens name are foremost, all legs are made over one
sequence of nodes, each beginning where the one before it ended.

* `airwayLeg_lands`: where an airway leads, and where the run goes on;
* `follow_stages`, `resolve_stages`: the stages of a run;
* `Stages.settle`: foremost nodes are gone on from;
* `follow_beyond_airway`: how the token behind an airway is read;
* `scan_continues`: where a run goes on;
* `resolve_twins`: a run that goes on from a twin.
-/

import FlightRoute.Proofs.Graph.Reachable
import FlightRoute.Proofs.LiteralRun.Course

namespace FlightRoute

variable {α : Type}

/-! ### Nodes that are looked up by their waypoint -/

namespace Graph

variable {graph : Graph α} {reached next : Nat} {own : Waypoint}

/-- The first of the nodes that agree with a node's waypoint. -/
def Lands (graph : Graph α) (reached next : Nat) : Prop :=
  ∃ own, graph.waypoints[reached]? = some own ∧ IsLeast (graph.agreeing own) next

/-- A node whose waypoint no earlier one has. -/
def Foremost (graph : Graph α) (node : Nat) : Prop := graph.Lands node node

/-- **The look-up leads to the node itself** exactly when it is foremost. -/
theorem Lands.eq_iff (lands : graph.Lands reached next) : next = reached ↔ graph.Foremost reached := by
  constructor
  · rintro rfl
    exact lands
  · rintro ⟨own, here, least⟩
    obtain ⟨same, there, other⟩ := lands
    rw [here] at there
    cases there
    exact other.unique least

/-- A node is foremost when no other one bears its name. -/
theorem foremost_of_unique (wellFormed : graph.WellFormed)
    (bearers : graph.bearers own.ident = [reached]) (here : graph.waypoints[reached]? = some own)
    (number : (own == own) = true) : graph.Foremost reached :=
  ⟨own, here, (byWaypoint?_isLeast wellFormed).mp
    (byWaypoint?_of_unique wellFormed.exactIndex bearers here number)⟩

end Graph

namespace LiteralRun

variable [Distance α] {run : LiteralRun α} {current reached next : Nat} {route leg more whole : Route α}
  {start finish own : Waypoint} {token : Token} {tokens : List Token} {airway : String}
  {candidates : List Nat} {edges : List (Edge α)} {isLast : Bool}

/-! ### One stage -/

/-- The search for an airway from a node ended on one of the candidates, over edges of the airway. -/
structure Ended (run : LiteralRun α) (current : Nat) (candidates : List Nat) (airway : String)
    (edges : List (Edge α)) (reached : Nat) (leg : Route α) : Prop where
  searched : ∃ connection, run.graph.connection? [(current, Distance.zero)]
      (candidates.map fun node => (node, Distance.zero)) (some airway) run.cancel =
        .ok (some connection) ∧
    connection.start = current ∧ run.graph.Follows current connection.hops edges reached ∧
    candidates[connection.target]? = some reached ∧
    run.graph.routeAlong current connection.hops = .ok leg
  named : ∀ edge ∈ edges, edge.airway = airway

theorem Ended.member (ended : run.Ended current candidates airway edges reached leg) :
    reached ∈ candidates := by
  obtain ⟨_, _, _, _, member, _⟩ := ended.searched
  exact List.mem_of_getElem? member

/-- The leg runs from the waypoint of the one node to that of the other, along the edges. -/
theorem Ended.runs (ended : run.Ended current candidates airway edges reached leg) :
    ∃ first last, run.graph.waypoints[current]? = some first ∧
      run.graph.waypoints[reached]? = some last ∧ Route.Runs first leg.nodes last ∧
      leg.legs = edges.map Edge.leg := by
  obtain ⟨_, _, _, follows, _, along⟩ := ended.searched
  obtain ⟨first, here, along⟩ := Graph.routeAlong_eq_ok along
  obtain ⟨last, there, runs⟩ := Graph.nodesAlong_runs follows here along
  exact ⟨first, last, here, there, runs, Graph.nodesAlong_legs follows along⟩

/-- A search along an airway that finds a route ended on a node. -/
theorem exists_ended (wellFormed : run.graph.WellFormed)
    (along : ShortestRoute.alongAirway run.graph current candidates airway run.cancel = .ok leg) :
    ∃ edges reached, run.Ended current candidates airway edges reached leg := by
  obtain ⟨connection, searched, along⟩ := ShortestRoute.alongAirway_connection along
  obtain ⟨edges, reached, before, after, joins⟩ := Graph.connection?_joins wellFormed searched
  obtain ⟨begins, _⟩ := Prod.mk.inj (List.mem_singleton.mp (List.mem_of_getElem? joins.source))
  have member := joins.target
  rw [List.getElem?_map] at member
  obtain ⟨target, listed, same⟩ := Option.map_eq_some_iff.mp member
  obtain ⟨rfl, _⟩ := Prod.mk.inj same
  refine ⟨edges, target, ⟨connection, searched, begins, ?_, listed, ?_⟩, fun edge taken => ?_⟩
  · exact begins ▸ joins.follows
  · exact begins ▸ along
  · have named : (airway == edge.airway) = true := joins.along edge taken
    exact (beq_iff_eq.mp named).symm

/-- The other way round, a search that ended on a node gives its leg. -/
theorem Ended.along (ended : run.Ended current candidates airway edges reached leg) :
    ShortestRoute.alongAirway run.graph current candidates airway run.cancel = .ok leg := by
  obtain ⟨connection, searched, rfl, _, _, along⟩ := ended.searched
  unfold ShortestRoute.alongAirway
  dsimp only
  rw [searched]
  exact along

/-- **Where an airway leads, and where the run goes on**: the search ends on a candidate, and the run
goes on from the first node that agrees with it. -/
theorem airwayLeg_lands (wellFormed : run.graph.WellFormed)
    (found : run.airwayLeg current route airway token isLast = .ok (next, more)) :
    token.isWaypoint = true ∧ ∃ candidates edges reached leg,
      run.airwayTargets token isLast = .ok candidates ∧
      run.Ended current candidates airway edges reached leg ∧ run.graph.Lands reached next ∧
      route.connect leg = .ok more := by
  obtain ⟨stands, candidates, leg, meant, along, known, connected⟩ := airwayLeg_steps found
  obtain ⟨edges, reached, ended⟩ := exists_ended wellFormed along
  obtain ⟨first, last, _, there, runs, _⟩ := ended.runs
  rw [runs.last?, Option.bind_some, Graph.byWaypoint?_isLeast wellFormed] at known
  exact ⟨stands, candidates, edges, reached, leg, meant, ended, ⟨last, there, known⟩, connected⟩

/-- A direct leg leads from a node to the one that its token means, as seen from there. -/
def Straight (run : LiteralRun α) (current : Nat) (token : Token) (isLast : Bool) (next : Nat)
    (leg : Leg α) : Prop :=
  ∃ near own seam, run.graph.waypoints[current]? = some near ∧
    run.nodeOf token near (run.pinFor isLast token) = .ok next ∧
    run.graph.waypoints[next]? = some own ∧ near.Same seam ∧
    leg = .direct (Distance.between seam own)

/-- **A direct leg** is one leg more, from the node to the one that it leads to. -/
theorem directLeg_straight (exactIndex : run.graph.ExactIndex)
    (reaches : run.Reaches current route start finish)
    (found : run.directLeg current route token isLast = .ok (next, more)) :
    ∃ leg last, run.Straight current token isLast next leg ∧ run.Reaches next more start last ∧
      ∀ legs, more.legs ++ legs = route.legs ++ leg :: legs := by
  obtain ⟨last, further⟩ := directLeg_reaches exactIndex reaches found
  obtain ⟨near, here, found⟩ := bind_eq_ok.mp found
  obtain ⟨node, meant, found⟩ := bind_eq_ok.mp found
  obtain ⟨own, there, found⟩ := bind_eq_ok.mp found
  cases found
  rw [Graph.waypoint_eq_ok] at here there
  obtain ⟨place, same, agrees⟩ := reaches.node
  obtain rfl : near = place := Option.some.inj (here.symm.trans same)
  refine ⟨_, last, ⟨near, own, finish, here, meant, there, agrees, rfl⟩, further, fun legs => ?_⟩
  rw [reaches.runs.legs_pushBack own FlightRoute.direct none, List.append_assoc]
  rfl

/-! ### Stage by stage -/

/-- The legs that tokens are turned into, from node to node. Behind an airway the run goes on from a node
where the one reached `lands`. -/
inductive Stages (run : LiteralRun α) (lands : Nat → Nat → Prop) :
    Nat → List Token → List (Leg α) → Prop
  /-- No tokens are left. -/
  | done {current : Nat} : Stages run lands current [] []
  /-- A token that is no airway here is a direct leg. -/
  | next {current next : Nat} {target : Token} {rest : List Token} {leg : Leg α}
      {legs : List (Leg α)} :
      (∀ airway, target = .ident airway → rest ≠ [] →
        run.graph.hasAirway current airway = .ok false) →
      run.Straight current target rest.isEmpty next leg → Stages run lands next rest legs →
      Stages run lands current (target :: rest) (leg :: legs)
  /-- So is a token behind `DCT`. -/
  | direct {current next : Nat} {target : Token} {rest : List Token} {leg : Leg α}
      {legs : List (Leg α)} :
      run.Straight current target rest.isEmpty next leg → Stages run lands next rest legs →
      Stages run lands current (.direct :: target :: rest) (leg :: legs)
  /-- An airway that leaves the node is flown to one of the nodes that the token behind it may mean. -/
  | airway {current reached next : Nat} {airway : String} {target : Token} {rest : List Token}
      {candidates : List Nat} {edges : List (Edge α)} {leg : Route α} {legs : List (Leg α)} :
      run.graph.hasAirway current airway = .ok true → target.isWaypoint = true →
      run.airwayTargets target rest.isEmpty = .ok candidates →
      run.Ended current candidates airway edges reached leg → lands reached next →
      Stages run lands next rest legs →
      Stages run lands current (.ident airway :: target :: rest) (edges.map Edge.leg ++ legs)

/-- **The rest of the tokens** is turned into stages from where the run has come to. -/
theorem follow_stages (wellFormed : run.graph.WellFormed)
    (reaches : run.Reaches current route start finish)
    (followed : run.follow current route tokens = .ok whole) :
    ∃ legs, run.Stages run.graph.Lands current tokens legs ∧ whole.legs = route.legs ++ legs := by
  induction current, route, tokens using LiteralRun.follow.induct generalizing start finish with
  | case1 current route =>
    cases followed
    exact ⟨[], .done, (List.append_nil _).symm⟩
  | case2 current route => cases followed
  | case3 current route rest => cases followed
  | case4 current route next rest other ih =>
    rw [follow] at followed
    · obtain ⟨⟨node, longer⟩, found, followed⟩ := bind_eq_ok.mp followed
      obtain ⟨leg, last, straight, further, added⟩ :=
        directLeg_straight wellFormed.exactIndex reaches found
      obtain ⟨legs, stages, whole⟩ := ih node longer further followed
      exact ⟨leg :: legs, .direct straight stages, whole.trans (added legs)⟩
    · exact other
  | case5 current route airway target rest ih again =>
    rw [follow] at followed
    obtain ⟨known, asked, followed⟩ := bind_eq_ok.mp followed
    cases known with
    | true =>
      obtain ⟨⟨node, longer⟩, found, followed⟩ := bind_eq_ok.mp followed
      obtain ⟨_, last, _, further⟩ := airwayLeg_reaches wellFormed reaches found
      obtain ⟨stands, candidates, edges, reached, leg, meant, ended, lands, connected⟩ :=
        airwayLeg_lands wellFormed found
      obtain ⟨_, _, _, _, runs, along⟩ := ended.runs
      obtain ⟨legs, stages, whole⟩ := ih node longer further followed
      refine ⟨_, .airway asked stands meant ended lands stages, ?_⟩
      rw [whole, reaches.runs.legs_connect runs connected, along, List.append_assoc]
    | false =>
      obtain ⟨⟨node, longer⟩, found, followed⟩ := bind_eq_ok.mp followed
      obtain ⟨leg, last, straight, further, added⟩ :=
        directLeg_straight wellFormed.exactIndex reaches found
      obtain ⟨legs, stages, whole⟩ := again node longer further followed
      refine ⟨leg :: legs, .next ?_ straight stages, whole.trans (added legs)⟩
      rintro name ⟨⟩ _
      exact asked
  | case6 current route token rest alone twice onward named ih =>
    rw [follow] at followed
    · obtain ⟨⟨node, longer⟩, found, followed⟩ := bind_eq_ok.mp followed
      obtain ⟨leg, last, straight, further, added⟩ :=
        directLeg_straight wellFormed.exactIndex reaches found
      obtain ⟨legs, stages, whole⟩ := ih node longer further followed
      refine ⟨leg :: legs, .next ?_ straight stages, whole.trans (added legs)⟩
      -- An identifier with tokens behind it has its own case.
      rintro name rfl more
      obtain ⟨target, rest, rfl⟩ := List.exists_cons_of_ne_nil more
      exact absurd rfl (named name target rest rfl)
    all_goals assumption

/-- **A literal run** is made of stages, from the node that its first token means. -/
theorem resolve_stages (wellFormed : run.graph.WellFormed)
    (resolved : run.resolve tokens = .ok whole) :
    ∃ first rest origin, tokens = first :: rest ∧
      run.nodeOf first run.reference (run.firstPin.or (run.pinBefore rest)) = .ok origin ∧
      run.Stages run.graph.Lands origin rest whole.legs := by
  unfold resolve at resolved
  split at resolved
  · cases resolved
  · rename_i first rest
    dsimp only at resolved
    split at resolved
    · cases resolved
    · obtain ⟨origin, meant, resolved⟩ := bind_eq_ok.mp resolved
      obtain ⟨waypoint, place, resolved⟩ := bind_eq_ok.mp resolved
      rw [Graph.waypoint_eq_ok] at place
      have begins : run.Reaches origin (.single waypoint) waypoint waypoint :=
        ⟨.final waypoint, waypoint, place, .refl waypoint⟩
      obtain ⟨legs, stages, all⟩ := follow_stages wellFormed begins resolved
      obtain rfl : whole.legs = legs := all
      exact ⟨first, rest, origin, rfl, meant, stages⟩

/-- All nodes that one of the tokens may name are foremost. -/
def NamesForemost (graph : Graph α) (tokens : List Token) : Prop :=
  ∀ token ∈ tokens, ∀ (node : Nat) (own : Waypoint), graph.waypoints[node]? = some own →
    own.ident = token.text → graph.Foremost node

/-- **Foremost nodes are gone on from.** Where all those that the tokens name are foremost, the stages
are made over one sequence of nodes. -/
theorem Stages.settle {legs : List (Leg α)} (exactIndex : run.graph.ExactIndex)
    (foremost : NamesForemost run.graph tokens)
    (stages : run.Stages run.graph.Lands current tokens legs) : run.Stages Eq current tokens legs := by
  induction stages with
  | done => exact .done
  | next other straight _ ih =>
    exact .next other straight (ih fun token member => foremost token (.tail _ member))
  | direct straight _ ih =>
    exact .direct straight (ih fun token member => foremost token (.tail _ (.tail _ member)))
  | @airway current reached next airway target rest _ _ _ _ leaves stands meant ended lands _ ih =>
    obtain ⟨_, own, _, there, _⟩ := ended.runs
    have means := airwayTargets_means exactIndex stands meant ended.member there
    have first := foremost target (.tail _ (.head _)) reached own there means.named.symm
    exact .airway leaves stands meant ended (lands.eq_iff.mpr first).symm
      (ih fun token member => foremost token (.tail _ (.tail _ member)))

/-! ### The token behind an airway -/

/-- A search along an airway that ended on a node makes a leg, from which the run goes on where the node
lands. -/
theorem Ended.airwayLeg (wellFormed : run.graph.WellFormed) (comparable : run.graph.Comparable)
    (reaches : run.Reaches current route start finish) (stands : token.isWaypoint = true)
    (meant : run.airwayTargets token isLast = .ok candidates)
    (ended : run.Ended current candidates airway edges reached leg)
    (lands : run.graph.Lands reached next) :
    ∃ more, run.airwayLeg current route airway token isLast = .ok (next, more) := by
  obtain ⟨first, last, here, there, runs, _⟩ := ended.runs
  obtain ⟨own, place, least⟩ := lands
  obtain rfl : last = own := Option.some.inj (there.symm.trans place)
  obtain ⟨same, place, agrees⟩ := reaches.node
  obtain rfl : first = same := Option.some.inj (here.symm.trans place)
  have meets : (finish == first) = true := BEq.symm (comparable.beq here agrees)
  refine ⟨⟨route.nodes.dropLast ++ leg.nodes⟩, ?_⟩
  unfold LiteralRun.airwayLeg
  rw [stands, meant, ok_bind, ended.along, ok_bind, runs.last?, Option.bind_some,
    (Graph.byWaypoint?_isLeast wellFormed).mpr least]
  dsimp only
  rw [Route.connect_eq reaches.runs.last? runs.first?, if_pos meets]
  rfl

/-- **The token behind an airway** is read at the node that is gone on from: as an airway if it leaves
that node, and as a waypoint otherwise. -/
theorem follow_beyond_airway (wellFormed : run.graph.WellFormed) (comparable : run.graph.Comparable)
    (reaches : run.Reaches current route start finish)
    (leaves : run.graph.hasAirway current airway = .ok true) (stands : token.isWaypoint = true)
    (meant : run.airwayTargets token false = .ok candidates)
    (ended : run.Ended current candidates airway edges reached leg)
    (lands : run.graph.Lands reached next) {name : String} {known : Bool}
    (asked : run.graph.hasAirway next name = .ok known) (target : Token) (rest : List Token) :
    ∃ more, run.airwayLeg current route airway token false = .ok (next, more) ∧
      run.follow current route (.ident airway :: token :: .ident name :: target :: rest) =
        if known then
          run.airwayLeg next more name target rest.isEmpty >>= fun leg => run.follow leg.1 leg.2 rest
        else
          run.directLeg next more (.ident name) false >>= fun leg =>
            run.follow leg.1 leg.2 (target :: rest) := by
  obtain ⟨more, found⟩ := ended.airwayLeg wellFormed comparable reaches stands meant lands
  refine ⟨more, found, ?_⟩
  rw [follow, leaves, ok_bind, if_pos rfl]
  show (run.airwayLeg current route airway token false >>= _) = _
  rw [found, ok_bind]
  show run.follow next more (.ident name :: target :: rest) = _
  rw [follow, asked, ok_bind]

/-! ### What the run goes on from -/

/-- **Where a run goes on.** An airway leads to one of the nodes that the token behind it may mean, and
the run goes on from the first node that agrees with it, which is the same one exactly when that is
foremost. So a run is made of stages, over one sequence of nodes where the nodes that its tokens name are
foremost, and an airway that leaves such a node is taken behind the one that leads there. -/
theorem scan_continues (wellFormed : run.graph.WellFormed) :
    (∀ (current : Nat) (route : Route α) (airway : String) (token : Token) (isLast : Bool) (next : Nat)
        (more : Route α), run.airwayLeg current route airway token isLast = .ok (next, more) →
      ∃ candidates edges reached leg, run.airwayTargets token isLast = .ok candidates ∧
        run.Ended current candidates airway edges reached leg ∧ run.graph.Lands reached next ∧
        (next = reached ↔ run.graph.Foremost reached) ∧ route.connect leg = .ok more) ∧
    (∀ (tokens : List Token) (route : Route α), run.resolve tokens = .ok route →
      ∃ first rest origin, tokens = first :: rest ∧
        run.nodeOf first run.reference (run.firstPin.or (run.pinBefore rest)) = .ok origin ∧
        run.Stages run.graph.Lands origin rest route.legs ∧
        (NamesForemost run.graph rest → run.Stages Eq origin rest route.legs)) ∧
    ∀ (current reached : Nat) (route leg : Route α) (start finish : Waypoint) (airway name : String)
      (token target : Token) (rest : List Token) (candidates : List Nat) (edges : List (Edge α)),
      run.graph.Comparable → run.Reaches current route start finish →
      run.graph.hasAirway current airway = .ok true → token.isWaypoint = true →
      run.airwayTargets token false = .ok candidates →
      run.Ended current candidates airway edges reached leg → run.graph.Foremost reached →
      run.graph.hasAirway reached name = .ok true →
      ∃ more, run.airwayLeg current route airway token false = .ok (reached, more) ∧
        run.follow current route (.ident airway :: token :: .ident name :: target :: rest) =
          run.airwayLeg reached more name target rest.isEmpty >>= fun leg =>
            run.follow leg.1 leg.2 rest := by
  refine ⟨?_, ?_, ?_⟩
  · intro current route airway token isLast next more found
    obtain ⟨_, candidates, edges, reached, leg, meant, ended, lands, connected⟩ :=
      airwayLeg_lands wellFormed found
    exact ⟨candidates, edges, reached, leg, meant, ended, lands, lands.eq_iff, connected⟩
  · intro tokens route resolved
    obtain ⟨first, rest, origin, split, meant, stages⟩ := resolve_stages wellFormed resolved
    exact ⟨first, rest, origin, split, meant, stages,
      fun foremost => stages.settle wellFormed.exactIndex foremost⟩
  · intro current reached route leg start finish airway name token target rest candidates edges
      comparable reaches leaves stands meant ended foremost asked
    exact follow_beyond_airway wellFormed comparable reaches leaves stands meant ended foremost asked
      target rest

/-- All nodes of the crossing are foremost. -/
theorem crossing_foremost {node : Nat} (here : crossing.waypoints[node]? = some own) :
    crossing.Foremost node := by
  have wellFormed : crossing.WellFormed := crossing_built.wellFormed
  match node, here with
  | 0, here | 1, here | 2, here =>
    cases here
    exact Graph.foremost_of_unique wellFormed (by decide) rfl (by decide)

/-- From the first waypoint of the crossing to the second, and on along the airway from there. -/
theorem scan_continues_crossing :
    crossingRun.graph.WellFormed ∧ ∃ leg more route origin,
      crossingRun.airwayLeg 0 (.single ⟨"A", 0, 1⟩) "Y" (.ident "B") true = .ok (1, leg) ∧
      crossingRun.resolve [.ident "A", .ident "Y", .ident "B"] = .ok route ∧
      crossingRun.Stages Eq origin [.ident "Y", .ident "B"] route.legs ∧
      crossingRun.airwayLeg 0 (.single ⟨"A", 0, 1⟩) "Y" (.ident "B") false = .ok (1, more) ∧
      crossingRun.follow 0 (.single ⟨"A", 0, 1⟩)
          [.ident "Y", .ident "B", .ident "Y", .ident "C"] =
        crossingRun.airwayLeg 1 more "Y" (.ident "C") true >>= fun leg =>
          crossingRun.follow leg.1 leg.2 [] := by
  have wellFormed : crossingRun.graph.WellFormed := crossing_built.wellFormed
  obtain ⟨onward, along, beyond⟩ := scan_continues wellFormed
  obtain ⟨leg, _, course⟩ := crossing_alongAirway
  have found := crossing_airwayLeg course rfl rfl crossingRun_targets
  obtain ⟨candidates, edges, reached, path, meant, ended, lands, same, _⟩ :=
    onward _ _ _ _ _ _ _ found
  obtain ⟨_, here, _⟩ := lands
  obtain rfl : 1 = reached := same.mpr (crossing_foremost here)
  obtain ⟨route, resolved⟩ := crossingRun_resolve
  obtain ⟨_, _, origin, split, _, _, settled⟩ := along _ _ resolved
  cases split
  have comparable : crossingRun.graph.Comparable := by
    show ∀ waypoint ∈ crossing.waypoints, (waypoint == waypoint) = true
    decide
  have begins : crossingRun.Reaches 0 (.single ⟨"A", 0, 1⟩) ⟨"A", 0, 1⟩ ⟨"A", 0, 1⟩ :=
    ⟨.final _, ⟨"A", 0, 1⟩, rfl, .refl _⟩
  obtain ⟨more, further, follows⟩ := beyond 0 1 _ path _ _ "Y" "Y" (.ident "B") (.ident "C") []
    candidates edges comparable begins crossing_hasAirway rfl meant ended (crossing_foremost rfl)
    (toOption_eq_some.mp (by decide +kernel))
  exact ⟨wellFormed, _, more, route, origin, found, resolved,
    settled fun _ _ _ _ here _ => crossing_foremost here, further, follows⟩

/-- Two nodes of one waypoint, of which only the second lies on the airways. -/
def twins : Graph ℚ :=
  let row := (((Graph.empty.addWaypoint ⟨"A", 0, 0⟩).addWaypoint ⟨"B", 0, 1⟩).addWaypoint
    ⟨"B", 0, 1⟩).addWaypoint ⟨"C", 0, 2⟩
  (row.addEdge 0 2 "J1" none).addEdge 2 3 "J2" none

theorem twins_wellFormed : twins.WellFormed :=
  (Graph.Built.addEdge 2 3 "J2" none (.addEdge 0 2 "J1" none (.addWaypoint _ (.addWaypoint _
    (.addWaypoint _ (.addWaypoint _ .empty)))))).wellFormed

/-- Both of them land on the first. -/
theorem twins_lands (member : reached ∈ [1, 2]) : twins.Lands reached 1 := by
  have here : twins.waypoints[reached]? = some ⟨"B", 0, 1⟩ := by
    rcases List.mem_pair.mp member with rfl | rfl <;> rfl
  refine ⟨_, here, ⟨_, rfl, by decide⟩, fun node agreeing => ?_⟩
  obtain ⟨own, there, agrees⟩ := agreeing
  match node, there with
  | 0, there =>
    cases there
    revert agrees
    decide
  | node + 1, _ => exact Nat.le_add_left 1 node

/-- A run on them. -/
def twinsRun : LiteralRun ℚ where
  graph := twins
  reference := ⟨"REF", 0, 0⟩

/-- The first airway leads to one of the two. -/
theorem twinsRun_ended : ∃ edges reached leg,
    twinsRun.airwayTargets (.ident "B") false = .ok [1, 2] ∧
      twinsRun.Ended 0 [1, 2] "J1" edges reached leg := by
  have targets : twinsRun.airwayTargets (.ident "B") false = .ok [1, 2] := by
    have listed : (twins.allByIdent "B").toList = [1, 2] :=
      (twins_wellFormed.exactIndex "B").trans (by decide)
    unfold airwayTargets twinsRun
    dsimp only [pinFor, Token.text, Token.coordinateWaypoint, Option.filter]
    rw [listed]
    rfl
  obtain ⟨leg, found⟩ := Option.isSome_iff_exists.mp
    (show (ShortestRoute.alongAirway twins 0 [1, 2] "J1" none).toOption.isSome by decide +kernel)
  have wellFormed : twinsRun.graph.WellFormed := twins_wellFormed
  obtain ⟨edges, reached, ended⟩ := exists_ended wellFormed (toOption_eq_some.mp found)
  exact ⟨edges, reached, leg, targets, ended⟩

/-- No node has the name of the second airway. -/
theorem twinsRun_nodeOf (near : Waypoint) :
    twinsRun.nodeOf (.ident "J2") near none = .error (.unresolvedReference "J2") := by
  have unknown : twins.closestByIdent? "J2" near = none := by
    rw [← Option.not_isSome_iff_eq_none, Graph.closestByIdent?_isSome_iff twins_wellFormed.exactIndex]
    rintro ⟨node, own, here, named⟩
    have bears : node ∈ twins.bearers "J2" := Graph.mem_bearers.mpr ⟨own, here, named⟩
    rw [show twins.bearers "J2" = [] by decide] at bears
    cases bears
  rw [nodeOf_ident, twinsRun, unknown]

/-- **A run goes astray** behind the first airway, which ends on the second of the two: the run goes on
from the first, and so the second airway is taken for the name of a waypoint. -/
theorem resolve_twins :
    twinsRun.resolve [.ident "A", .ident "J1", .ident "B", .ident "J2", .ident "C"] =
      .error (.unresolvedReference "J2") := by
  have wellFormed : twinsRun.graph.WellFormed := twins_wellFormed
  have comparable : twinsRun.graph.Comparable := by
    show ∀ waypoint ∈ twins.waypoints, (waypoint == waypoint) = true
    decide
  have begins : twinsRun.nodeOf (.ident "A") twinsRun.reference none = .ok 0 :=
    nodeOf_of_unique wellFormed.exactIndex (by decide) _
  obtain ⟨edges, reached, leg, meant, ended⟩ := twinsRun_ended
  have leaves : twinsRun.graph.hasAirway 0 "J1" = .ok true :=
    toOption_eq_some.mp (by decide +kernel)
  have stays : twinsRun.graph.hasAirway 1 "J2" = .ok false :=
    toOption_eq_some.mp (by decide +kernel)
  have there : twinsRun.Reaches 0 (.single ⟨"A", 0, 0⟩) ⟨"A", 0, 0⟩ ⟨"A", 0, 0⟩ :=
    ⟨.final _, ⟨"A", 0, 0⟩, rfl, .refl _⟩
  obtain ⟨more, _, follows⟩ := follow_beyond_airway wellFormed comparable there leaves rfl meant ended
    (twins_lands ended.member) stays (.ident "C") []
  show (twinsRun.nodeOf (.ident "A") twinsRun.reference none >>= _) = _
  rw [begins, ok_bind]
  refine follows.trans ?_
  show ((twinsRun.nodeOf (.ident "J2") ⟨"B", 0, 1⟩ none >>= _) >>= _) = _
  rw [twinsRun_nodeOf]
  rfl

end LiteralRun

end FlightRoute
