/-
**Random routes are genuine.**

A random route begins exactly at the one waypoint and ends at the other. When it was walked, its legs are
the edges that the walk took, no more of them than it had steps, and between its ends it passes over
the nodes that the walk visited, no two of them the same. Between two different waypoints of the graph
it is in any case a simple path between their nodes, also when no walk got there and it is the shortest
route.

* `between_runs`, `Passes.between`: what replacing the ends of a route keeps;
* `snap?_eq_some`: what a waypoint is snapped to is a node;
* `find_ends`, `source_spans`: the ends of a random route;
* `randomRoute_genuine`: all of this.
-/

import FlightRoute.Proofs.Graph.Nearest
import FlightRoute.Proofs.RandomWalk.Walk
import FlightRoute.Proofs.Resolve.Fill
import FlightRoute.Proofs.ShortestRoute.Simple

namespace FlightRoute

variable {σ α : Type}

/-! ### The ends of a route -/

theorem Route.Runs.withLast_eq {start finish : Waypoint} {nodes : List (RouteNode α)}
    (runs : Route.Runs start nodes finish) (waypoint : Waypoint) :
    RandomWalk.withLast waypoint nodes = nodes.dropLast ++ [.final waypoint] := by
  induction runs with
  | final _ => rfl
  | leg leg runs ih =>
    obtain ⟨node, rest, rfl⟩ := List.exists_cons_of_ne_nil runs.ne_nil
    exact congrArg _ ih

variable [Distance α] {graph : Graph α} {route : Route α} {start finish first last : Waypoint}

/-- A route of more than one node keeps everything between its ends. -/
theorem Route.Runs.between_eq {next : Waypoint} {leg : Leg α} {nodes : List (RouteNode α)}
    (runs : Route.Runs next nodes last) :
    RandomWalk.between start finish ⟨{ waypoint := first, leg := some leg } :: nodes⟩ =
      ⟨{ waypoint := start, leg := some leg } :: (nodes.dropLast ++ [.final finish])⟩ := by
  obtain ⟨node, rest, rfl⟩ := List.exists_cons_of_ne_nil runs.ne_nil
  rw [← runs.withLast_eq]
  rfl

/-- **The ends are replaced.** -/
theorem Route.Runs.between (runs : Route.Runs first route.nodes last) :
    Route.Runs start (RandomWalk.between start finish route).nodes finish := by
  obtain ⟨nodes⟩ := route
  cases runs with
  | final _ => exact .leg _ (.final finish)
  | leg leg runs =>
    rw [runs.between_eq]
    exact .leg leg (runs.append (.final finish))

/-- **A route over edges still passes over them.** -/
theorem Route.Passes.between {origin target : Nat} {edges : List (Edge α)} (path : route.IsPath)
    (passes : route.Passes graph origin edges target) (moved : edges ≠ []) :
    (RandomWalk.between start finish route).Passes graph origin edges target := by
  obtain ⟨first, last, runs⟩ := path
  obtain ⟨nodes⟩ := route
  cases runs with
  | final _ => exact absurd (List.length_eq_zero_iff.mp (Nat.succ.inj passes.length.symm)) moved
  | @leg _ next _ nodes leg runs =>
    obtain ⟨front, rfl⟩ : ∃ front, nodes = front ++ [.final last] :=
      ⟨_, (List.dropLast_append_getLast? _ runs.getLast?).symm⟩
    have inside : front.length + 1 = edges.length := by simpa using passes.length
    have legs := passes.legs
    rw [runs.between_eq, List.dropLast_concat]
    refine ⟨passes.walk, by simpa using inside, ?_, fun position positive below => ?_⟩
    · simpa [Route.legs, RouteNode.final] using legs
    · rw [← passes.interior position positive below]
      obtain ⟨before, rfl⟩ := Nat.exists_eq_succ_of_ne_zero (Nat.ne_of_gt positive)
      have earlier : before < (front.map (·.waypoint)).length := by
        rw [List.length_map]
        omega
      simp only [Route.waypoints, List.map_cons, List.map_append, List.getElem?_cons_succ,
        List.getElem?_append_left earlier]

namespace RandomWalk

variable {chooser : Chooser σ α} {settings : SearchSettings} {cancel : Option CancelFlag}
  {draws left : σ} {origin target : Nat}

/-- A waypoint is snapped to a node. -/
theorem snap?_lt (snapped : snap? graph start = some origin) : origin < graph.size := by
  unfold snap? at snapped
  rw [Option.or_eq_some_iff] at snapped
  rcases snapped with known | ⟨_, closest⟩
  · obtain ⟨own, place, _⟩ := Graph.byWaypoint?_eq_some known
    exact (Array.getElem?_eq_some_iff.mp place).1
  · exact Graph.lt_of_mem_nearest (List.mem_of_head? closest)

/-- A waypoint of the graph is snapped to its own node. -/
theorem snap?_of_known (known : graph.byWaypoint? start = some origin) :
    snap? graph start = some origin := by
  unfold snap?
  rw [known, Option.some_or]

/-! ### Between two nodes -/

/-- A route between two nodes is the one along a walk, or a shortest one. -/
theorem routeBetween_eq_ok
    (found : routeBetween chooser graph settings cancel origin target draws = .ok (route, left)) :
    (∃ progress, firstWalk chooser graph origin target settings.randomSteps cancel
        settings.randomAttempts draws = .ok (some progress, left) ∧
      graph.routeAlong origin progress.hops.reverse = .ok route) ∨
    (firstWalk chooser graph origin target settings.randomSteps cancel
        settings.randomAttempts draws = .ok (none, left) ∧
      ShortestRoute.findBetween graph origin target cancel = .ok route) := by
  unfold routeBetween at found
  obtain ⟨⟨walked, behind⟩, tried, found⟩ := bind_eq_ok.mp found
  cases walked with
  | some progress =>
    obtain ⟨whole, along, found⟩ := bind_eq_ok.mp found
    cases found
    exact Or.inl ⟨progress, tried, along⟩
  | none =>
    obtain ⟨whole, shortest, found⟩ := bind_eq_ok.mp found
    cases found
    exact Or.inr ⟨tried, shortest⟩

theorem routeBetween_isPath
    (found : routeBetween chooser graph settings cancel origin target draws = .ok (route, left)) :
    route.IsPath := by
  rcases routeBetween_eq_ok found with ⟨_, _, along⟩ | ⟨_, shortest⟩
  · exact Graph.routeAlong_isPath along
  · obtain ⟨_, _, along⟩ := ShortestRoute.findBetween_eq_ok shortest
    exact Graph.routeAlong_isPath along

/-- **A route between two nodes is a simple path**, walked or not. -/
theorem routeBetween_simple (wellFormed : graph.WellFormed) (inside : origin < graph.size)
    (found : routeBetween chooser graph settings cancel origin target draws = .ok (route, left)) :
    ∃ edges, (Graph.stops origin edges).Nodup ∧ route.Passes graph origin edges target := by
  rcases routeBetween_eq_ok found with ⟨progress, walked, along⟩ | ⟨_, shortest⟩
  · obtain ⟨edges, traces, _, rfl⟩ := firstWalk_traces wellFormed inside walked
    refine ⟨edges, ?_, Graph.routeAlong_passes traces.follows along⟩
    rw [← traces.visited]
    exact List.nodup_reverse.mpr traces.nodup
  · exact ShortestRoute.findBetween_simple wellFormed shortest

/-! ### Between two waypoints -/

/-- A random route between different waypoints is a route between their nodes with other ends. -/
theorem find_eq_ok (different : (start == finish) = false)
    (found : find chooser graph settings cancel start finish draws = .ok (route, left)) :
    ∃ origin target inner, snap? graph start = some origin ∧ snap? graph finish = some target ∧
      routeBetween chooser graph settings cancel origin target draws = .ok (inner, left) ∧
      route = between start finish inner := by
  unfold find at found
  rw [if_neg (by simp [different])] at found
  split at found
  · rename_i origin target snapped ahead
    obtain ⟨⟨inner, behind⟩, between, found⟩ := bind_eq_ok.mp found
    cases found
    exact ⟨origin, target, inner, snapped, ahead, between, rfl⟩
  · cases found

/-- **A random route** is well formed, begins exactly at the one waypoint and ends at the other. -/
theorem find_ends (found : find chooser graph settings cancel start finish draws = .ok (route, left)) :
    route.WellFormed ∧ route.first? = some start ∧ route.EndsAt finish := by
  by_cases same : (start == finish) = true
  · unfold find at found
    rw [if_pos same] at found
    cases found
    exact ⟨(Route.Runs.final start).wellFormed, rfl, start, rfl, Or.inr (BEq.symm same)⟩
  · obtain ⟨_, _, inner, _, _, between, rfl⟩ := find_eq_ok (Bool.not_eq_true _ ▸ same) found
    obtain ⟨first, last, runs⟩ := routeBetween_isPath between
    have whole : Route.Runs start _ finish := runs.between
    exact ⟨whole.wellFormed, whole.first?, finish, whole.last?, .refl finish⟩

/-- The walk is a source of routes that have their ends where they were asked for. -/
theorem source_spans (chooser : SearchSettings → Chooser σ α) :
    (source chooser).Spans ∧ (source chooser).WellFormed := by
  have ends : ∀ graph settings cancel start finish draws route draws',
      source chooser graph settings cancel start finish draws = (.ok route, draws') →
        route.WellFormed ∧ route.first? = some start ∧ route.EndsAt finish := by
    intro graph settings cancel start finish draws route draws' found
    unfold source at found
    split at found
    · rename_i produced
      cases found
      exact find_ends produced
    · cases found
  constructor
  · intro graph settings cancel start finish draws route draws' found
    obtain ⟨_, first, last⟩ := ends _ _ _ _ _ _ _ _ found
    exact ⟨⟨start, first, .refl start⟩, last⟩
  · intro graph settings cancel start finish draws route draws' found
    exact (ends _ _ _ _ _ _ _ _ found).1

omit [Distance α] in
/-- Different waypoints of the graph are at different nodes. -/
theorem nodes_differ (known : graph.byWaypoint? start = some origin)
    (ahead : graph.byWaypoint? finish = some target) (different : (start == finish) = false) :
    origin ≠ target := by
  rintro rfl
  obtain ⟨own, place, agrees⟩ := Graph.byWaypoint?_eq_some known
  obtain ⟨other, there, matching⟩ := Graph.byWaypoint?_eq_some ahead
  rw [place] at there
  cases there
  have same : (start == finish) = true := BEq.trans (BEq.symm agrees) matching
  rw [different] at same
  cases same

/-- **A random route that was walked** passes over the walk. -/
theorem find_walked (wellFormed : graph.WellFormed)
    (found : find chooser graph settings cancel start finish draws = .ok (route, left))
    (different : (start == finish) = false) (snapped : snap? graph start = some origin)
    (ahead : snap? graph finish = some target) {progress : Progress} {behind : σ}
    (walked : firstWalk chooser graph origin target settings.randomSteps cancel
      settings.randomAttempts draws = .ok (some progress, behind))
    (moved : progress.hops ≠ []) :
    ∃ edges, progress.visited.reverse = Graph.stops origin edges ∧ progress.visited.Nodup ∧
      edges.length ≤ settings.randomSteps ∧ route.Passes graph origin edges target := by
  obtain ⟨node, exit, inner, there, further, produced, rfl⟩ := find_eq_ok different found
  obtain rfl : origin = node := Option.some.inj (snapped.symm.trans there)
  obtain rfl : target = exit := Option.some.inj (ahead.symm.trans further)
  obtain ⟨edges, traces, bound, rfl⟩ := firstWalk_traces wellFormed (snap?_lt snapped) walked
  have moving : edges ≠ [] := by
    rintro rfl
    have visited := congrArg List.length traces.follows.stops_eq
    exact moved (List.length_eq_zero_iff.mp (by simpa [Graph.stops] using visited))
  rcases routeBetween_eq_ok produced with ⟨again, same, along⟩ | ⟨failed, _⟩
  · rw [walked] at same
    cases same
    have passes := Graph.routeAlong_passes traces.follows along
    exact ⟨edges, traces.visited, traces.nodup, bound,
      passes.between (routeBetween_isPath produced) moving⟩
  · rw [walked] at failed
    cases failed

/-- **A random route between different waypoints of the graph** is a simple path between their nodes. -/
theorem find_simple (wellFormed : graph.WellFormed)
    (found : find chooser graph settings cancel start finish draws = .ok (route, left))
    (different : (start == finish) = false) (known : graph.byWaypoint? start = some origin)
    (ahead : graph.byWaypoint? finish = some target) :
    ∃ edges, (Graph.stops origin edges).Nodup ∧ route.Passes graph origin edges target := by
  obtain ⟨node, exit, inner, there, further, produced, rfl⟩ := find_eq_ok different found
  have snapped := snap?_of_known known
  obtain rfl : origin = node := Option.some.inj (snapped.symm.trans there)
  obtain rfl : target = exit := Option.some.inj ((snap?_of_known ahead).symm.trans further)
  obtain ⟨edges, simple, passes⟩ := routeBetween_simple wellFormed (snap?_lt snapped) produced
  have moving : edges ≠ [] := by
    rintro rfl
    cases passes.walk with
    | stay _ => exact nodes_differ known ahead different rfl
  exact ⟨edges, simple, passes.between (routeBetween_isPath produced) moving⟩

/-- **Random routes are genuine**, whichever edges are chosen. The route is well formed and has its ends
where they were asked for. If it was walked, and the walk took an edge, then its legs are edges of the
graph between the nodes of the walk, which differ pairwise, no more of them than the walk had steps,
and its inner waypoints are those of the nodes. Between different waypoints of the graph it is a simple
path between their nodes. -/
theorem randomRoute_genuine (wellFormed : graph.WellFormed)
    (found : find chooser graph settings cancel start finish draws = .ok (route, left)) :
    (route.WellFormed ∧ route.first? = some start ∧ route.EndsAt finish) ∧
    (∀ origin target progress behind, (start == finish) = false → snap? graph start = some origin →
      snap? graph finish = some target →
      firstWalk chooser graph origin target settings.randomSteps cancel settings.randomAttempts draws =
        .ok (some progress, behind) →
      progress.hops ≠ [] →
      ∃ edges, progress.visited.reverse = Graph.stops origin edges ∧ progress.visited.Nodup ∧
        edges.length ≤ settings.randomSteps ∧ route.Passes graph origin edges target) ∧
    ((start == finish) = false → (∃ own ∈ graph.waypoints, (own == start) = true) →
      (∃ own ∈ graph.waypoints, (own == finish) = true) →
      ∃ origin target edges, graph.byWaypoint? start = some origin ∧
        graph.byWaypoint? finish = some target ∧ origin ≠ target ∧
        (Graph.stops origin edges).Nodup ∧ route.Passes graph origin edges target) := by
  refine ⟨find_ends found, ?_, ?_⟩
  · intro origin target progress behind different snapped ahead walked moved
    exact find_walked wellFormed found different snapped ahead walked moved
  · rintro different ⟨own, member, agrees⟩ ⟨other, inside, matching⟩
    obtain ⟨node, place⟩ := Array.mem_iff_getElem?.mp member
    obtain ⟨exit, there⟩ := Array.mem_iff_getElem?.mp inside
    obtain ⟨origin, known⟩ :=
      Option.isSome_iff_exists.mp (Graph.byWaypoint?_isSome wellFormed.exactIndex place agrees)
    obtain ⟨target, ahead⟩ :=
      Option.isSome_iff_exists.mp (Graph.byWaypoint?_isSome wellFormed.exactIndex there matching)
    obtain ⟨edges, simple, passes⟩ := find_simple wellFormed found different known ahead
    exact ⟨origin, target, edges, known, ahead, nodes_differ known ahead different, simple, passes⟩

/-- Always takes the first edge, and draws nothing. -/
def takesFirst : Chooser Unit ℚ where
  pick _ _ _ draws := (0, draws)

/-- A walk over the crossing that takes its two short edges. -/
theorem randomRoute_genuine_crossing :
    crossing.WellFormed ∧ ∃ route progress,
      find takesFirst crossing {} none ⟨"A", 0, 1⟩ ⟨"C", 0, 3⟩ () = .ok (route, ()) ∧
      firstWalk takesFirst crossing 0 2 512 none 16 () = .ok (some progress, ()) ∧
      progress.hops = [⟨1, 0⟩, ⟨0, 0⟩] ∧
      (∃ edges, edges.length ≤ 512 ∧ route.Passes crossing 0 edges 2) ∧
      ∃ origin target edges, origin ≠ target ∧ (Graph.stops origin edges).Nodup ∧
        route.Passes crossing origin edges target := by
  have wellFormed : crossing.WellFormed := crossing_built.wellFormed
  have snapped : snap? crossing ⟨"A", 0, 1⟩ = some 0 :=
    snap?_of_known (Graph.byWaypoint?_of_unique crossing_exactIndex (by decide) rfl (by decide))
  have ahead : snap? crossing ⟨"C", 0, 3⟩ = some 2 :=
    snap?_of_known (Graph.byWaypoint?_of_unique crossing_exactIndex (by decide) rfl (by decide))
  have different : ((⟨"A", 0, 1⟩ : Waypoint) == ⟨"C", 0, 3⟩) = false := by decide
  have walks : (firstWalk takesFirst crossing 0 2 512 none 16 ()).map
      (fun result => result.1.map (·.hops)) = .ok (some [⟨1, 0⟩, ⟨0, 0⟩]) := by decide
  have produced : (find takesFirst crossing {} none ⟨"A", 0, 1⟩ ⟨"C", 0, 3⟩ ()).map
      (fun result => result.1.legs.map (·.airway)) = .ok ["Y", "Y"] := by
    unfold find
    rw [if_neg (by simp [different]), snapped, ahead]
    decide
  obtain ⟨⟨walked, _⟩, ran, hops⟩ := map_eq_ok.mp walks
  obtain ⟨progress, rfl, took⟩ := Option.map_eq_some_iff.mp hops
  obtain ⟨⟨route, _⟩, found, _⟩ := map_eq_ok.mp produced
  obtain ⟨_, walk, known⟩ := randomRoute_genuine wellFormed found
  obtain ⟨edges, _, _, bound, passes⟩ :=
    walk 0 2 progress () different snapped ahead ran (by simp [took])
  have first : (⟨"A", 0, 1⟩ : Waypoint) ∈ crossing.waypoints := Array.mem_iff_getElem?.mpr ⟨0, rfl⟩
  have last : (⟨"C", 0, 3⟩ : Waypoint) ∈ crossing.waypoints := Array.mem_iff_getElem?.mpr ⟨2, rfl⟩
  obtain ⟨origin, target, others, _, _, apart, simple, passesToo⟩ :=
    known different ⟨_, first, by decide⟩ ⟨_, last, by decide⟩
  exact ⟨wellFormed, route, progress, found, ran, took, ⟨edges, bound, passes⟩,
    origin, target, others, apart, simple, passesToo⟩

end RandomWalk

end FlightRoute
