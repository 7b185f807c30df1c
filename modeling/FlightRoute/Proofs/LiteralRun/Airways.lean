/-
**A shortest route is no longer than a routing by airways.**

A literal run all of whose legs are airways is a walk over edges of the graph, from the node of its first
token to that of its last, as long as no two waypoints agree: behind every airway the run goes on from the
first node with the waypoint it has come to, which is then the node itself. So the search between the two
nodes finds a route, and where no length is negative the route is no longer than the run. A snapshot may
list a waypoint twice, and may give an airway a negative length; nothing is said of it then.

* `airwayLeg_flown`, `follow_flown`: a run by airways is a walk;
* `resolve_flown`: from the node of its first token to that of its last;
* `findBetween_le_resolve`: the search is no longer.
-/

import FlightRoute.Proofs.LiteralRun.Course
import FlightRoute.Proofs.ShortestRoute.Complete
import FlightRoute.Proofs.Snapshot

namespace FlightRoute

variable {α : Type}

/-! ### Waypoints that differ -/

/-- Only a node's own waypoint agrees with it. -/
def Graph.Distinct (graph : Graph α) : Prop :=
  ∀ (node other : Nat) (own next : Waypoint), graph.waypoints[node]? = some own →
    graph.waypoints[other]? = some next → ((own == next) = true ↔ node = other)

/-- The waypoints are numbers, and no two of them agree. -/
structure Snapshot.Distinct (snapshot : Snapshot α) : Prop where
  comparable : ∀ waypoint ∈ snapshot.waypoints, (waypoint == waypoint) = true
  apart : snapshot.waypoints.Pairwise fun first second => (first == second) = false

theorem Snapshot.Distinct.graph [Distance α] {snapshot : Snapshot α} {graph : Graph α}
    (distinct : snapshot.Distinct) (based : Over graph snapshot.waypoints) : graph.Distinct := by
  intro node other own next here there
  rw [← Array.getElem?_toList, based.waypoints] at here there
  obtain ⟨inside, rfl⟩ := List.getElem?_eq_some_iff.mp here
  obtain ⟨within, rfl⟩ := List.getElem?_eq_some_iff.mp there
  constructor
  · intro agrees
    by_contra different
    rcases Nat.lt_or_gt_of_ne different with before | behind
    · have apart := List.pairwise_iff_getElem.mp distinct.apart node other inside within before
      rw [apart] at agrees
      cases agrees
    · have apart := List.pairwise_iff_getElem.mp distinct.apart other node within inside behind
      rw [BEq.symm agrees] at apart
      cases apart
  · rintro rfl
    exact distinct.comparable _ (List.getElem_mem inside)

/-- A walk goes on with another one. -/
theorem Graph.Walk.append {graph : Graph α} {start middle finish : Nat} {edges more : List (Edge α)}
    (walk : graph.Walk start edges middle) (further : graph.Walk middle more finish) :
    graph.Walk start (edges ++ more) finish := by
  induction walk with
  | stay _ => exact further
  | edge found member _ ih => exact .edge found member (ih further)

namespace LiteralRun

/-! ### Runs by airways -/

variable [Distance α] {run : LiteralRun α} {start current next : Nat} {route more whole : Route α}
  {edges : List (Edge α)} {token : Token} {tokens : List Token}

/-- From a node on, every leg that the tokens make is one along an airway. -/
inductive AirwaysFrom (run : LiteralRun α) : Nat → List Token → Prop
  | done {current : Nat} : AirwaysFrom run current []
  | leg {current : Nat} {airway : String} {target : Token} {rest : List Token} :
      run.graph.hasAirway current airway = .ok true →
      (∀ route next more, run.airwayLeg current route airway target rest.isEmpty = .ok (next, more) →
        AirwaysFrom run next rest) →
      AirwaysFrom run current (.ident airway :: target :: rest)

/-- All legs of a run are airways. -/
def AirwaysOnly (run : LiteralRun α) : List Token → Prop
  | [] => True
  | first :: rest => ∀ start,
      run.nodeOf first run.reference (run.firstPin.or (run.pinBefore rest)) = .ok start →
        run.AirwaysFrom start rest

/-- A route over the edges of a walk from a node to another. -/
structure Flown (run : LiteralRun α) (start current : Nat) (route : Route α) (edges : List (Edge α)) :
    Prop where
  walk : run.graph.Walk start edges current
  legs : route.legs = edges.map Edge.leg
  runs : ∃ first last, run.graph.waypoints[start]? = some first ∧
    run.graph.waypoints[current]? = some last ∧ Route.Runs first route.nodes last

/-- **A leg along an airway** makes the walk longer. -/
theorem airwayLeg_flown (wellFormed : run.graph.WellFormed) (distinct : run.graph.Distinct)
    (flown : run.Flown start current route edges) {airway : String} {isLast : Bool}
    (found : run.airwayLeg current route airway token isLast = .ok (next, more)) :
    ∃ further, run.Flown start next more (edges ++ further) := by
  obtain ⟨_, candidates, leg, _, along, known, connected⟩ := airwayLeg_steps found
  obtain ⟨hops, further, target, follows, _, _, along⟩ :=
    ShortestRoute.alongAirway_eq_ok wellFormed along
  obtain ⟨first, last, begins, ends, runs⟩ := flown.runs
  obtain ⟨entry, place, along⟩ := Graph.routeAlong_eq_ok along
  obtain rfl : last = entry := Option.some.inj (ends.symm.trans place)
  obtain ⟨exit, there, leads⟩ := Graph.nodesAlong_runs follows place along
  rw [leads.last?, Option.bind_some] at known
  -- The run goes on from the first node with this waypoint, and there is only one.
  obtain ⟨own, here, agrees⟩ := Graph.byWaypoint?_eq_some known
  obtain rfl : next = target := (distinct next target own exit here there).mp agrees
  rw [Route.connect_eq runs.last? leads.first?] at connected
  split at connected
  · cases connected
    refine ⟨further, flown.walk.append follows.walk, ?_, first, exit, begins, there,
      runs.join leads⟩
    rw [runs.legs_join, List.map_append, ← flown.legs, ← Graph.nodesAlong_legs follows along]
  · cases connected

/-- **The rest of the tokens** makes the walk longer, up to where the run ends. -/
theorem follow_flown (wellFormed : run.graph.WellFormed) (distinct : run.graph.Distinct)
    (airways : run.AirwaysFrom current tokens) (flown : run.Flown start current route edges)
    (followed : run.follow current route tokens = .ok whole) :
    ∃ finish further, run.Flown start finish whole (edges ++ further) := by
  induction airways generalizing route edges with
  | @done current =>
    cases followed
    exact ⟨current, [], by simpa using flown⟩
  | leg leaves _ ih =>
    rw [follow, leaves, ok_bind, if_pos rfl] at followed
    obtain ⟨⟨next, more⟩, leg, followed⟩ := bind_eq_ok.mp followed
    obtain ⟨further, longer⟩ := airwayLeg_flown wellFormed distinct flown leg
    obtain ⟨finish, rest, flownWhole⟩ := ih route next more leg longer followed
    exact ⟨finish, further ++ rest, by simpa using flownWhole⟩

/-- **A run by airways is a walk.** -/
theorem resolve_flown (wellFormed : run.graph.WellFormed) (distinct : run.graph.Distinct)
    (airways : run.AirwaysOnly tokens) (resolved : run.resolve tokens = .ok route) :
    ∃ start finish edges, run.Flown start finish route edges := by
  unfold resolve at resolved
  split at resolved
  · cases resolved
  · rename_i first rest
    dsimp only at resolved
    split at resolved
    · cases resolved
    · obtain ⟨start, meant, resolved⟩ := bind_eq_ok.mp resolved
      obtain ⟨waypoint, place, resolved⟩ := bind_eq_ok.mp resolved
      rw [Graph.waypoint_eq_ok] at place
      have inside : start < run.graph.size := (Array.getElem?_eq_some_iff.mp place).1
      have begun : run.Flown start start (.single waypoint) [] :=
        ⟨.stay inside, rfl, waypoint, waypoint, place, place, .final waypoint⟩
      obtain ⟨finish, further, flown⟩ :=
        follow_flown wellFormed distinct (airways start meant) begun resolved
      exact ⟨start, finish, _, flown⟩

/-! ### The search between the ends -/

/-- **A shortest route is no longer than a routing by airways.** Between the nodes where a literal run by
airways begins and ends, over the graph of a snapshot whose waypoints differ, a route is found; and
where no airway is given a negative length the route is no longer than the run. -/
theorem findBetween_le_resolve [AddCommMonoid α] [LinearOrder α] [IsOrderedAddMonoid α]
    [Distance.Exact α] [Distance.Nonnegative α] {snapshot : Snapshot α} {navdata : Navdata α}
    (built : snapshot.build = .ok navdata) (distinct : snapshot.Distinct)
    (same : run.graph = navdata.graph) (airways : run.AirwaysOnly tokens)
    (resolved : run.resolve tokens = .ok route) {origin target : Nat} {first last : Waypoint}
    (begins : navdata.graph.waypoints[origin]? = some first) (opens : route.first? = some first)
    (ends : navdata.graph.waypoints[target]? = some last) (closes : route.last? = some last)
    {cancel : Option CancelFlag} (calm : checkCancel cancel = .ok ()) :
    ∃ shortest, ShortestRoute.findBetween navdata.graph origin target cancel = .ok shortest ∧
      (snapshot.Nonnegative → Distance.total (shortest.legs.map (·.distance)) ≤
        Distance.total (route.legs.map (·.distance))) := by
  obtain ⟨graph, made, whole⟩ := bind_eq_ok.mp built
  cases whole
  have onSnapshot := Snapshot.graph_built made
  have wellFormed : graph.WellFormed := onSnapshot.built.wellFormed
  have apart : graph.Distinct := distinct.graph onSnapshot
  obtain ⟨start, finish, edges, flown⟩ := resolve_flown (same ▸ wellFormed) (same ▸ apart) airways
    resolved
  obtain ⟨entry, exit, place, there, runs⟩ := flown.runs
  have walk := flown.walk
  rw [same] at walk place there
  obtain rfl : first = entry := Option.some.inj (opens.symm.trans runs.first?)
  obtain rfl : last = exit := Option.some.inj (closes.symm.trans runs.last?)
  have self : (first == first) = true := (apart start start first first place place).mpr rfl
  have other : (last == last) = true := (apart finish finish last last there there).mpr rfl
  obtain rfl : origin = start := (apart origin start first first begins place).mp self
  obtain rfl : target = finish := (apart target finish last last ends there).mp other
  have inside : origin < graph.size := (Array.getElem?_eq_some_iff.mp place).1
  obtain ⟨shortest, found⟩ := ShortestRoute.findBetween_complete wellFormed walk inside calm
  refine ⟨shortest, found, fun given => ?_⟩
  have nonnegative : graph.Nonnegative := Snapshot.graph_nonnegative given made
  calc Distance.total (shortest.legs.map (·.distance))
      ≤ (edges.map (·.distance)).sum :=
        ShortestRoute.findBetween_least wellFormed nonnegative found walk
    _ = Distance.total (route.legs.map (·.distance)) := by
        rw [Distance.total_eq_sum, flown.legs, List.map_map]
        rfl

/-- The crossing as a snapshot. -/
def crossingSnapshot : Snapshot ℚ where
  waypoints := [⟨"A", 0, 1⟩, ⟨"B", 0, 2⟩, ⟨"C", 0, 3⟩]
  airways :=
    [{ source := 0, target := 1, airway := "Y", oneWay := true },
      { source := 1, target := 2, airway := "Y", oneWay := true },
      { source := 0, target := 2, airway := "Z", distance := some 5, oneWay := true }]

theorem crossingSnapshot_build : ∃ navdata, crossingSnapshot.build = .ok navdata ∧
    navdata.graph = crossing :=
  ⟨_, rfl, rfl⟩

theorem crossingSnapshot_distinct : crossingSnapshot.Distinct where
  comparable := by decide
  apart := by decide

/-- All legs of the run over the crossing are airways. -/
theorem crossingRun_airwaysOnly :
    crossingRun.AirwaysOnly [.ident "A", .ident "Y", .ident "B"] := by
  intro start meant
  have first := crossingRun_start.symm.trans meant
  cases first
  exact .leg crossing_hasAirway fun _ _ _ _ => .done

/-- Between the ends of an airway over the crossing. -/
theorem findBetween_le_resolve_crossing :
    ∃ navdata route shortest, crossingSnapshot.build = .ok navdata ∧ crossingSnapshot.Distinct ∧
      crossingSnapshot.Nonnegative ∧ crossingRun.graph = navdata.graph ∧
      crossingRun.AirwaysOnly [.ident "A", .ident "Y", .ident "B"] ∧
      crossingRun.resolve [.ident "A", .ident "Y", .ident "B"] = .ok route ∧
      ShortestRoute.findBetween navdata.graph 0 1 none = .ok shortest ∧
      Distance.total (shortest.legs.map (·.distance)) ≤
        Distance.total (route.legs.map (·.distance)) := by
  obtain ⟨navdata, built, same⟩ := crossingSnapshot_build
  have nonnegative : crossingSnapshot.Nonnegative := by decide
  obtain ⟨route, resolved, runs⟩ := crossingRun_runs
  have begins : navdata.graph.waypoints[0]? = some ⟨"A", 0, 1⟩ := same ▸ rfl
  have ends : navdata.graph.waypoints[1]? = some ⟨"B", 0, 2⟩ := same ▸ rfl
  have calm : checkCancel none = .ok () := rfl
  obtain ⟨shortest, found, bound⟩ := findBetween_le_resolve built crossingSnapshot_distinct same.symm
    crossingRun_airwaysOnly resolved begins runs.first? ends runs.last? calm
  exact ⟨navdata, route, shortest, built, crossingSnapshot_distinct, nonnegative, same.symm,
    crossingRun_airwaysOnly, resolved, found, bound nonnegative⟩

end LiteralRun

end FlightRoute
