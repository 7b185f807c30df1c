/-
**A search decides whether there is a way.**

Whatever the lengths are, also where they are rounded, negative, or make a cycle shorter than nothing: a
search that is not called off comes to an end, it finds a connection exactly when a way leads from a source to
a target, and the connection passes no node twice. It could as well keep back pointers only, since the way
back from the goal always goes over a target and ends at a source. All that is asked of the lengths is that
those of a way without cycles add up to less than infinity (`Graph.Summable`).

* `Graph.SearchDecides`: what a search decides;
* `search_decides`: every search does, and with it the shortest route between two endpoints;
* `endless`: lengths that do not add up.
-/

import FlightRoute.Proofs.Distance.Ordered
import FlightRoute.Proofs.Distance.Planar
import FlightRoute.Proofs.Search.Retrace
import FlightRoute.Proofs.ShortestRoute.Complete
import FlightRoute.Proofs.ShortestRoute.Simple

namespace FlightRoute

open Search (Hop Trail)

variable {α : Type} [Distance α] {graph : Graph α} {sources targets : List (Nat × α)}
  {airway : Option String} {cancel : Option CancelFlag}

namespace Graph

/-- The way back from the goal goes over a target and ends at a source, and gives the trail. -/
def WayBack (graph : Graph α) (sources targets : List (Nat × α)) (state : Search.State α)
    (trail : Trail) : Prop :=
  ∃ last back before after, state.cameFrom? graph.size = some (.arc last) ∧
    targets[last.label]? = some (last.vertex, after) ∧ state.Retraces last.vertex back ∧
    sources[back.seed]? = some (back.start, before) ∧
    trail = { back with hops := last :: back.hops }

/-- A search between sources and targets ends, and with the right answer. -/
structure SearchDecides (graph : Graph α) (sources targets : List (Nat × α))
    (airway : Option String) (cancel : Option CancelFlag) : Prop where
  /-- There is no endless sequence of rounds. -/
  terminates : WellFounded fun next state =>
    Search.Round (graph.network targets airway) state next
  /-- It is never for want of rounds that a search ends. -/
  enough : ∀ more,
    (do let state ← sources.zipIdx.foldlM Search.State.sow (.unknown (graph.size + 1))
        Search.explore (graph.network targets airway) graph.size cancel (graph.size + 1 + more) state) =
      Search.shortest (graph.network targets airway) sources graph.size cancel
  found_iff :
    (∃ connection, graph.connection? sources targets airway cancel = .ok (some connection)) ↔
      graph.Connects sources targets airway
  none_iff :
    graph.connection? sources targets airway cancel = .ok none ↔
      ¬graph.Connects sources targets airway
  /-- A connection begins with its source, ends with its target, and passes no node twice. -/
  sound : ∀ connection, graph.connection? sources targets airway cancel = .ok (some connection) →
    ∃ edges finish before after,
      connection.Joins graph sources targets airway edges finish before after ∧
      (stops connection.start edges).Nodup
  /-- Whenever the goal comes up, the way back from it is there. -/
  retraced : ∀ state entry rest cost trail,
    (graph.network targets airway).Reached sources state → state.Next entry rest cost trail →
    entry.vertex = graph.size → graph.WayBack sources targets state trail

/-- **Whenever the goal comes up**, the way back from it is there. -/
theorem goal_retraced (wellFormed : graph.WellFormed)
    (inside : ∀ source ∈ sources, source.1 < graph.size) {state : Search.State α}
    {entry : Search.Entry α} {rest : List (Search.Entry α)} {cost : α} {trail : Trail}
    (reached : (graph.network targets airway).Reached sources state)
    (up : state.Next entry rest cost trail) (goal : entry.vertex = graph.size) :
    graph.WayBack sources targets state trail := by
  have best : state.best? graph.size = some (cost, trail) := goal ▸ up.best
  have leads := reached.traced _ _ _ best
  obtain ⟨last, earlier, hops⟩ := leads_last inside leads
  obtain ⟨edges, finish, before, after, joins, _, ends⟩ := leads_joins wellFormed hops leads
  obtain ⟨index, start, _⟩ := trail
  cases hops
  rcases reached.chained _ _ _ best with ⟨missing, _⟩ | ⟨_, _, known, same, _, earlierBest⟩
  · cases missing
  · cases same
    refine ⟨last, ⟨index, start, earlier⟩, before, after, ?_, ends ▸ joins.target,
      reached.chained.retraces earlierBest, joins.source, rfl⟩
    rw [Search.State.cameFrom?, best]
    rfl

/-- A connection that is found is a way from a source to a target. -/
theorem connects_of_connection? (wellFormed : graph.WellFormed) {connection : Connection}
    (found : graph.connection? sources targets airway cancel = .ok (some connection)) :
    graph.Connects sources targets airway := by
  obtain ⟨edges, finish, before, after, joins⟩ := connection?_joins wellFormed found
  exact ⟨_, _, _, _, _, joins.way, List.mem_of_getElem? joins.target⟩

variable [Distance.Irreflexive α]

/-- **A search that is not called off** finds a connection, or finds that there is none. -/
theorem connection?_decides (wellFormed : graph.WellFormed)
    (inside : ∀ source ∈ sources, source.1 < graph.size)
    (summable : graph.Summable sources targets airway) (calm : checkCancel cancel = .ok ()) :
    (∃ connection, graph.connection? sources targets airway cancel = .ok (some connection)) ∧
        graph.Connects sources targets airway ∨
      graph.connection? sources targets airway cancel = .ok none ∧
        ¬graph.Connects sources targets airway := by
  by_cases connects : graph.Connects sources targets airway
  · exact Or.inl ⟨connection?_complete wellFormed inside summable calm connects, connects⟩
  · have only : FailsOnly (CalledOff cancel) (graph.connection? sources targets airway cancel) :=
      connection?_failsOnly wellFormed inside
    obtain ⟨outcome, searched⟩ := only.exists_ok (not_calledOff calm)
    cases outcome with
    | none => exact Or.inr ⟨searched, connects⟩
    | some connection => exact absurd (connects_of_connection? wellFormed searched) connects

theorem searchDecides (wellFormed : graph.WellFormed)
    (inside : ∀ source ∈ sources, source.1 < graph.size)
    (summable : graph.Summable sources targets airway) (calm : checkCancel cancel = .ok ()) :
    graph.SearchDecides sources targets airway cancel where
  terminates := Search.round_wellFounded _
  enough := Search.shortest_stable (graph.network targets airway) sources graph.size cancel
  found_iff := by
    rcases connection?_decides wellFormed inside summable calm with found | ⟨failed, apart⟩
    · exact iff_of_true found.1 found.2
    · refine iff_of_false (fun ⟨connection, found⟩ => ?_) apart
      rw [failed] at found
      cases found
  none_iff := by
    rcases connection?_decides wellFormed inside summable calm with ⟨⟨_, found⟩, connects⟩ | failed
    · refine iff_of_false (fun failed => ?_) (not_not_intro connects)
      rw [failed] at found
      cases found
    · exact iff_of_true failed.1 failed.2
  sound _ found := connection?_simple wellFormed found
  retraced _ _ _ _ _ reached up goal := goal_retraced wellFormed inside reached up goal

end Graph

namespace ShortestRoute

variable [Distance.Irreflexive α]

/-- Between two endpoints a route is found when there is a way, and no path when there is none. -/
theorem find_decides (wellFormed : graph.WellFormed) (calm : checkCancel cancel = .ok ())
    {start finish : Endpoint α} (begins : start.Within graph.size) (ends : finish.Within graph.size)
    (entered : start.anchors graph = .ok sources) (left : finish.anchors graph = .ok targets)
    (summable : graph.Summable sources targets none) :
    ((∃ route, find graph start finish cancel = .ok route) ↔ graph.Connects sources targets none) ∧
      ((∃ origin destination, find graph start finish cancel = .error (.noPath origin destination)) ↔
        ¬graph.Connects sources targets none) := by
  have inside : ∀ source ∈ sources, source.1 < graph.size := anchors_hold begins entered
  rcases Graph.connection?_decides wellFormed inside summable calm with
    ⟨⟨connection, searched⟩, connects⟩ | ⟨searched, apart⟩
  · obtain ⟨route, found⟩ := find_of_connection? wellFormed begins ends entered left searched
    refine ⟨iff_of_true ⟨route, found⟩ connects, iff_of_false ?_ (not_not_intro connects)⟩
    rintro ⟨origin, destination, failed⟩
    rw [found] at failed
    cases failed
  · obtain ⟨origin, destination, _, _, failed⟩ := find_of_none begins ends entered left searched
    refine ⟨iff_of_false ?_ apart, iff_of_true ⟨origin, destination, failed⟩ apart⟩
    rintro ⟨route, found⟩
    rw [failed] at found
    cases found

/-- **A search decides whether there is a way** from a source to a target, and so does the search for a
shortest route between two endpoints, which fails with no path exactly when there is none.

The edges lead to nodes of the graph, the sources and the ends are nodes of the graph, the lengths of ways
without cycles add up, and the search is not called off. -/
theorem search_decides (wellFormed : graph.WellFormed) (calm : checkCancel cancel = .ok ()) :
    (∀ sources targets airway, (∀ source ∈ sources, source.1 < graph.size) →
      graph.Summable sources targets airway → graph.SearchDecides sources targets airway cancel) ∧
    ∀ start finish : Endpoint α, start.Within graph.size → finish.Within graph.size →
      ∃ sources targets, start.anchors graph = .ok sources ∧ finish.anchors graph = .ok targets ∧
        (graph.Summable sources targets none →
          ((∃ route, find graph start finish cancel = .ok route) ↔
            graph.Connects sources targets none) ∧
          ((∃ origin destination,
            find graph start finish cancel = .error (.noPath origin destination)) ↔
            ¬graph.Connects sources targets none)) := by
  refine ⟨fun sources targets airway inside summable => ?_, fun start finish begins ends => ?_⟩
  · exact Graph.searchDecides wellFormed inside summable calm
  · obtain ⟨sources, entered⟩ := anchors_ok begins
    obtain ⟨targets, left⟩ := anchors_ok ends
    exact ⟨sources, targets, entered, left, find_decides wellFormed calm begins ends entered left⟩

/-! ### A cycle that is shorter than nothing -/

/-- The crossing with an edge back that makes a cycle shorter than nothing. -/
def whirl : Graph ℚ := crossing.addEdge 1 0 "Y" (some (-10))

/-- Along the airway with the cycle the last waypoint is found, and no way leads back from it. -/
theorem search_decides_whirl :
    whirl.WellFormed ∧ whirl.Summable [(0, 0)] [(2, 0)] (some "Y") ∧
      whirl.Connects [(0, 0)] [(2, 0)] (some "Y") ∧
      ∃ origin destination,
        find whirl (.node 2) (.node 0) none = .error (.noPath origin destination) := by
  have wellFormed : whirl.WellFormed := (crossing_built.addEdge 1 0 "Y" (some (-10))).wellFormed
  have calm : checkCancel none = .ok () := rfl
  have decides := search_decides wellFormed calm
  refine ⟨wellFormed, Graph.summable_exact, ?_, ?_⟩
  · have ends : (whirl.connection? [(0, 0)] [(2, 0)] (some "Y") none).toOption.join.isSome := by
      decide +kernel
    obtain ⟨connection, found⟩ := Option.isSome_iff_exists.mp ends
    have inside : ∀ source ∈ [((0, 0) : Nat × ℚ)], source.1 < whirl.size := by decide
    have answers := decides.1 [(0, 0)] [(2, 0)] (some "Y") inside Graph.summable_exact
    exact answers.found_iff.mp ⟨connection, toOption_eq_some.mp (Option.join_eq_some_iff.mp found)⟩
  · have begins : 2 < whirl.size := by decide
    have ends : 0 < whirl.size := by decide
    obtain ⟨sources, targets, entered, left, answers⟩ := decides.2 (.node 2) (.node 0) begins ends
    cases entered
    cases left
    refine (answers Graph.summable_exact).2.mpr ?_
    rintro ⟨start, before, edges, finish, after, way, target⟩
    cases List.mem_singleton.mp way.source
    cases List.mem_singleton.mp target
    have deadEnd : whirl.outgoing[2]? = some #[] := rfl
    cases way.walk with
    | edge leaving member _ =>
      rw [deadEnd] at leaving
      cases leaving
      simp at member

/-- Two edges whose lengths are floats of the largest size. -/
def endless : Graph Float :=
  let row := ((Graph.empty.addWaypoint ⟨"A", 0, 0⟩).addWaypoint ⟨"B", 0, 1⟩).addWaypoint ⟨"C", 0, 2⟩
  (row.addEdge 0 1 "J" (some 1e308)).addEdge 1 2 "J" (some 1e308)

/-- Lengths that do not add up leave a waypoint out of reach although a way leads there. -/
example : (endless.connection? [(0, 0)] [(2, 0)] none none).map (·.isSome) = .ok false := by
  decide +kernel

end ShortestRoute

end FlightRoute
