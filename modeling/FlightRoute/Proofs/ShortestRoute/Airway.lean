/-
**A route along an airway is the shortest to the nearest candidate.**

The end of a route along an airway is not fixed before the search: it is whichever candidate is nearest along
edges of the airway. On exact lengths, none of them negative, the route is as short as any such walk to any
candidate (`airwayLengths`), and it is found as soon as there is one, whatever other candidates there are.

* `alongAirway_ok_iff`: when a route is found;
* `alongAirway_passes`: what a route that is found passes over;
* `alongAirway_nearest`: both, and the route is the shortest.
-/

import Mathlib.Order.Bounds.Defs
import FlightRoute.Proofs.Distance.Planar
import FlightRoute.Proofs.ShortestRoute.Complete

namespace FlightRoute

variable {α : Type}

/-- The lengths of all walks from a node along an airway to one of the candidates. -/
def airwayLengths [Zero α] [Add α] (graph : Graph α) (start : Nat) (candidates : List Nat)
    (airway : String) : Set α :=
  {length | ∃ finish ∈ candidates, ∃ edges, graph.Walk start edges finish ∧
    (∀ edge ∈ edges, edge.airway = airway) ∧ length = (edges.map (·.distance)).sum}

namespace ShortestRoute

/-- The candidates are the targets of the search. -/
theorem mem_candidateTargets [Distance α] {candidates : List Nat} {node : Nat} {cost : α} :
    (node, cost) ∈ candidates.map (fun node => (node, (Distance.zero : α))) ↔
      node ∈ candidates ∧ Distance.zero = cost := by
  rw [List.mem_map]
  constructor
  · rintro ⟨_, member, same⟩
    cases same
    exact ⟨member, rfl⟩
  · rintro ⟨member, rfl⟩
    exact ⟨node, member, rfl⟩

/-- An edge belongs to the airway of a search. -/
theorem all_airway_iff {airway : String} {edge : Edge α} :
    (some airway).all (· == edge.airway) = true ↔ edge.airway = airway := by
  rw [Option.all_some, beq_iff_eq]
  exact eq_comm

section Found

variable [Distance α] {graph : Graph α} {start : Nat} {candidates : List Nat} {airway : String}
  {cancel : Option CancelFlag} {route : Route α}

/-- **What a route along an airway passes over.** -/
theorem alongAirway_passes (wellFormed : graph.WellFormed)
    (found : alongAirway graph start candidates airway cancel = .ok route) :
    ∃ first last finish edges, graph.waypoints[start]? = some first ∧ route.first? = some first ∧
      finish ∈ candidates ∧ graph.waypoints[finish]? = some last ∧ route.last? = some last ∧
      route.Passes graph start edges finish ∧ ∀ edge ∈ edges, edge.airway = airway := by
  obtain ⟨hops, edges, finish, follows, member, named, along⟩ := alongAirway_eq_ok wellFormed found
  have passes := Graph.routeAlong_passes follows along
  obtain ⟨first, place, along⟩ := Graph.routeAlong_eq_ok along
  obtain ⟨last, there, runs⟩ := Graph.nodesAlong_runs follows place along
  exact ⟨first, last, finish, edges, place, runs.first?, member, there, runs.last?, passes, named⟩

end Found

variable [Distance α] [AddCommMonoid α] [LinearOrder α] [Distance.Exact α] {graph : Graph α}
  {start : Nat} {candidates : List Nat} {airway : String} {cancel : Option CancelFlag}
  {route : Route α}

/-- **A route along an airway is found** when the airway leads to one of the candidates. -/
theorem alongAirway_ok_iff (wellFormed : graph.WellFormed) (inside : start < graph.size)
    (calm : checkCancel cancel = .ok ()) :
    (∃ route, alongAirway graph start candidates airway cancel = .ok route) ↔
      (airwayLengths graph start candidates airway).Nonempty := by
  constructor
  · rintro ⟨route, found⟩
    obtain ⟨_, _, finish, edges, _, _, member, _, _, passes, named⟩ :=
      alongAirway_passes wellFormed found
    exact ⟨_, finish, member, edges, passes.walk, named, rfl⟩
  · rintro ⟨_, finish, member, edges, walk, named, rfl⟩
    have way : graph.Way [(start, Distance.zero)] (some airway) start Distance.zero edges finish :=
      ⟨List.mem_cons_self, walk, fun edge taken => all_airway_iff.mpr (named edge taken)⟩
    obtain ⟨connection, searched⟩ := Graph.connection?_complete wellFormed (by simpa using inside)
      Graph.summable_exact calm ⟨_, _, _, _, _, way, mem_candidateTargets.mpr ⟨member, rfl⟩⟩
    obtain ⟨_, _, _, _, joins⟩ := Graph.connection?_joins wellFormed searched
    obtain ⟨route, along⟩ := Graph.routeAlong_ok wellFormed joins.follows
    refine ⟨route, ?_⟩
    rw [alongAirway]
    dsimp only
    rw [searched, ok_bind]
    exact along

/-- **No walk along the airway to a candidate is shorter.** -/
theorem alongAirway_isLeast [IsOrderedAddMonoid α] (wellFormed : graph.WellFormed)
    (nonnegative : graph.Nonnegative)
    (found : alongAirway graph start candidates airway cancel = .ok route) :
    IsLeast (airwayLengths graph start candidates airway)
      (Distance.total (route.legs.map (·.distance))) := by
  have free : ∀ target ∈ candidates.map (fun node => (node, (Distance.zero : α))), 0 ≤ target.2 := by
    rintro ⟨node, cost⟩ member
    rw [← (mem_candidateTargets.mp member).2, Distance.zero_eq]
  obtain ⟨connection, searched, along⟩ := alongAirway_connection found
  obtain ⟨taken, finish, before, after, joins, least⟩ :=
    Graph.connection?_isLeast wellFormed nonnegative free searched
  obtain ⟨waypoint, _, along⟩ := Graph.routeAlong_eq_ok along
  obtain ⟨rfl, rfl⟩ := Prod.mk.inj (List.mem_singleton.mp (List.mem_of_getElem? joins.source))
  obtain ⟨member, rfl⟩ := mem_candidateTargets.mp (List.mem_of_getElem? joins.target)
  have length : Distance.total (route.legs.map (·.distance)) = (taken.map (·.distance)).sum := by
    rw [Distance.total_eq_sum, Graph.nodesAlong_legs joins.follows along, List.map_map]
    rfl
  rw [length]
  constructor
  · exact ⟨finish, member, taken, joins.follows.walk,
      fun edge edgeTaken => all_airway_iff.mp (joins.along edge edgeTaken), rfl⟩
  · rintro _ ⟨other, candidate, way, walk, named, rfl⟩
    have bound := least connection.start other _ _ way List.mem_cons_self walk
      (fun edge onWay => all_airway_iff.mpr (named edge onWay))
      (mem_candidateTargets.mpr ⟨candidate, rfl⟩)
    simpa [Distance.zero_eq] using bound

/-- **A route along an airway leads to the nearest candidate.** One is found exactly when edges of the airway
lead to a candidate; it begins at the waypoint of its node, ends at that of a candidate, all its legs are edges
of the airway, and no other walk along the airway to any candidate is shorter. Candidates may be out of
reach, listed twice, or the node itself. -/
theorem alongAirway_nearest [IsOrderedAddMonoid α] (wellFormed : graph.WellFormed)
    (nonnegative : graph.Nonnegative) (inside : start < graph.size)
    (calm : checkCancel cancel = .ok ()) (candidates : List Nat) (airway : String) :
    ((∃ route, alongAirway graph start candidates airway cancel = .ok route) ↔
      ∃ finish ∈ candidates, ∃ edges, graph.Walk start edges finish ∧
        ∀ edge ∈ edges, edge.airway = airway) ∧
    ∀ route, alongAirway graph start candidates airway cancel = .ok route →
      (∃ first last finish edges, graph.waypoints[start]? = some first ∧
        route.first? = some first ∧ finish ∈ candidates ∧ graph.waypoints[finish]? = some last ∧
        route.last? = some last ∧ route.Passes graph start edges finish ∧
        ∀ edge ∈ edges, edge.airway = airway) ∧
      (∀ leg ∈ route.legs, leg.airway = airway) ∧
      IsLeast (airwayLengths graph start candidates airway)
        (Distance.total (route.legs.map (·.distance))) := by
  refine ⟨(alongAirway_ok_iff wellFormed inside calm).trans ?_, fun route found => ⟨?_, ?_, ?_⟩⟩
  · constructor
    · rintro ⟨_, finish, member, edges, walk, named, _⟩
      exact ⟨finish, member, edges, walk, named⟩
    · rintro ⟨finish, member, edges, walk, named⟩
      exact ⟨_, finish, member, edges, walk, named, rfl⟩
  · exact alongAirway_passes wellFormed found
  · obtain ⟨_, _, _, edges, _, _, _, _, _, passes, named⟩ := alongAirway_passes wellFormed found
    rw [passes.legs]
    simpa [Edge.leg] using named
  · exact alongAirway_isLeast wellFormed nonnegative found

/-- From the middle of the crossing, to candidates of which the first is out of reach. -/
theorem alongAirway_nearest_crossing :
    crossing.WellFormed ∧ crossing.Nonnegative ∧ 1 < crossing.size ∧
      ∃ route, alongAirway crossing 1 [0, 2, 2] "Y" none = .ok route ∧
        (∀ leg ∈ route.legs, leg.airway = "Y") ∧
        IsLeast (airwayLengths crossing 1 [0, 2, 2] "Y") 1 := by
  have wellFormed := crossing_built.wellFormed
  have nonnegative : crossing.Nonnegative := by decide +kernel
  have inside : 1 < crossing.size := by decide
  have total : (alongAirway crossing 1 [0, 2, 2] "Y" none).map
      (fun route => Distance.total (route.legs.map (·.distance))) = .ok 1 := by decide +kernel
  obtain ⟨route, found, length⟩ := map_eq_ok.mp total
  have calm : checkCancel none = .ok () := rfl
  have nearest := alongAirway_nearest wellFormed nonnegative inside calm [0, 2, 2] "Y"
  obtain ⟨_, named, least⟩ := nearest.2 route found
  exact ⟨wellFormed, nonnegative, inside, route, found, named, length ▸ least⟩

end ShortestRoute

end FlightRoute
