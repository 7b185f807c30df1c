/-
**Literals without links.**

A request that links its literal coordinates to nothing takes strays into the graph. At a runway they come
in by their places alone: the direct links of the runway, and those of a procedure whose end the graph does
not know, lead to whatever is nearest. As long as no link leads to a stray the runway has the links that it
had before, and all that is found between such ends is found as before. A link to a stray is a dead end.

* `coordinateScope_unlinked`: a request takes in its literals in this way;
* `ofRunway_eq_iff`: when a runway has the links that it had before;
* `autoFill_unlinked`: when a shortest fill is the one without the literals;
* `unlinked_literals`: what literals without links disturb, and what not.
-/

import FlightRoute.Proofs.RandomWalk.Strays
import FlightRoute.Proofs.Resolve.Fill
import FlightRoute.Proofs.Terminal.Bounds

namespace FlightRoute

variable {σ α : Type} [Distance α]

/-! ### The literals of a request -/

/-- **A request that links its literals to nothing** takes in some of them without links. -/
theorem Resolver.coordinateScope_unlinked (resolver : Resolver σ α) (graph : Graph α)
    (tokens : List Token) (unlinked : resolver.settings.coordinateLinks = 0) :
    ∃ literals, literals ⊆ RouteString.coordinates tokens ∧
      (resolver.coordinateScope graph tokens).graph = graph.withLiterals literals := by
  have taken : ∀ (waypoints : List Waypoint) (scope : Scope α), ∃ literals, literals ⊆ waypoints ∧
      waypoints.foldl (injectMissing 0) scope =
        scope.injectAll (literals.map fun literal => (literal, 0)) := by
    intro waypoints
    induction waypoints with
    | nil => exact fun scope => ⟨[], List.Subset.refl _, rfl⟩
    | cons waypoint rest ih =>
      intro scope
      rw [List.foldl_cons, injectMissing]
      split
      · obtain ⟨literals, part, same⟩ := ih scope
        exact ⟨literals, List.subset_cons_of_subset _ part, same⟩
      · obtain ⟨literals, part, same⟩ := ih (scope.inject waypoint 0)
        exact ⟨waypoint :: literals, List.cons_subset_cons _ part, same⟩
  obtain ⟨literals, part, same⟩ := taken (RouteString.coordinates tokens) graph.openScope
  refine ⟨literals, part, ?_⟩
  rw [coordinateScope, unlinked, same]
  rfl

variable {grown graph : Graph α} {strays : List Waypoint} {store : ProcedureStore α} {runway : Runway}
  {kind : ProcedureKind} {count : Nat} {waypoint : Waypoint}

/-! ### The links of a runway -/

namespace Endpoint

variable [Distance.Ordered α]

/-- Direct links that lead to old nodes are those without the strays. -/
theorem nearestLinks_strays (behind : grown.Strays graph strays)
    (within : ∀ links, nearestLinks grown waypoint count = .ok links →
      ∀ link ∈ links, link.node < graph.size) :
    nearestLinks grown waypoint count = nearestLinks graph waypoint count := by
  obtain ⟨links, linked, nodes⟩ := nearestLinks_ok grown waypoint count
  have inside : ∀ node ∈ grown.nearest waypoint count, node < graph.size := by
    intro node member
    rw [← nodes] at member
    obtain ⟨link, listed, rfl⟩ := List.mem_map.mp member
    exact within links linked link listed
  have same := (Graph.nearest_eq_iff behind).mpr inside
  unfold nearestLinks
  rw [same] at inside ⊢
  refine mapM_congr fun node member => ?_
  rw [TerminalLink.direct, TerminalLink.direct, Graph.waypoint_strays behind (inside node member)]

/-- **The links of a procedure** that lead to old nodes are those without the strays. -/
theorem procedureLinks_strays (behind : grown.Strays graph strays) (recalls : grown.Recalls graph)
    {name : String} {procedure : Procedure α}
    (within : ∀ link ∈ procedureLinks grown name procedure count, link.node < graph.size) :
    procedureLinks grown name procedure count = procedureLinks graph name procedure count := by
  unfold procedureLinks at within ⊢
  cases ends : procedure.enrouteEnd? with
  | none => rfl
  | some fix =>
    rw [ends] at within
    dsimp only at within ⊢
    rcases Graph.sameFix?_strays behind recalls fix with same | ⟨node, far, copy⟩
    · rw [same] at within ⊢
      cases known : graph.sameFix? fix with
      | some node => rfl
      | none =>
        rw [known] at within
        dsimp only at within ⊢
        have inside : ∀ node ∈ grown.nearest fix count, node < graph.size := fun node member =>
          within _ (List.mem_map_of_mem member)
        rw [(Graph.nearest_eq_iff behind).mpr inside]
    · rw [copy] at within
      have near := within _ List.mem_cons_self
      exact absurd near (Nat.not_lt.mpr far)

/-- The links of the procedures are those without the strays, or one of them leads to a stray. -/
theorem linksOfNames_strays (behind : grown.Strays graph strays) (recalls : grown.Recalls graph)
    (names : List String) :
    linksOfNames ⟨grown, store, runway⟩ kind count names =
        linksOfNames ⟨graph, store, runway⟩ kind count names ∨
      ∃ links, linksOfNames ⟨grown, store, runway⟩ kind count names = .ok links ∧
        ∃ link ∈ links, graph.size ≤ link.node := by
  induction names with
  | nil => exact Or.inl rfl
  | cons name rest ih =>
    rw [linksOfNames, linksOfNames]
    cases asked : store.procedure? runway kind name with
    | error failure => exact Or.inl rfl
    | ok known =>
      rw [ok_bind, ok_bind]
      rcases ih with same | ⟨others, further, stray, member, far⟩
      · rw [same]
        cases linksOfNames ⟨graph, store, runway⟩ kind count rest with
        | error failure => exact Or.inl rfl
        | ok others =>
          cases known with
          | none => exact Or.inl rfl
          | some procedure =>
            by_cases within : ∀ link ∈ procedureLinks grown name procedure count,
                link.node < graph.size
            · dsimp only
              rw [procedureLinks_strays behind recalls within]
              exact Or.inl rfl
            · simp only [not_forall, Nat.not_lt] at within
              obtain ⟨stray, member, far⟩ := within
              exact Or.inr ⟨_, rfl, stray, List.mem_append_left _ member, far⟩
      · rw [further]
        exact Or.inr ⟨_, rfl, stray, List.mem_append_right _ member, far⟩

/-- **A runway has the links that it had before** unless one of its links leads to a stray. -/
theorem ofRunway_eq_iff (behind : grown.Strays graph strays) (recalls : grown.Recalls graph)
    (store : ProcedureStore α) (runway : Runway) (kind : ProcedureKind) (count : Nat) :
    ofRunway ⟨grown, store, runway⟩ kind count = ofRunway ⟨graph, store, runway⟩ kind count ↔
      ∀ endpoint, ofRunway ⟨grown, store, runway⟩ kind count = .ok endpoint →
        endpoint.Within graph.size := by
  constructor
  · intro same endpoint found
    exact ofRunway_within (same ▸ found)
  · intro within
    unfold ofRunway at within ⊢
    dsimp only at within ⊢
    rcases linksOfNames_strays behind recalls (store.names runway kind) with
      same | ⟨links, linked, stray, member, far⟩
    · rw [same] at within ⊢
      cases linked : linksOfNames ⟨graph, store, runway⟩ kind count (store.names runway kind) with
      | error failure => rfl
      | ok links =>
        rw [linked, ok_bind] at within
        rw [ok_bind, ok_bind]
        by_cases unlinked : links.isEmpty = true
        · rw [if_pos unlinked] at within ⊢
          rw [if_pos unlinked, nearestLinks_strays behind fun links nearest => ?_]
          exact within _ (by rw [nearest]; rfl)
        · rw [if_neg unlinked, if_neg unlinked]
    · rw [linked, ok_bind] at within
      have linking : links.isEmpty = false := by
        cases links with
        | nil => cases member
        | cons first rest => rfl
      rw [linking] at within
      exact absurd (within _ rfl stray member) (Nat.not_lt.mpr far)

end Endpoint

/-! ### Fills -/

namespace Resolver

variable {resolver : Resolver σ α} {side : Option Waypoint}

/-- **An end of a fill** at a waypoint of the graph, or at a runway none of whose links leads to a stray,
is what it was before. -/
theorem gapEnd_strays [Distance.Ordered α] (behind : grown.Strays graph strays)
    (recalls : grown.Recalls graph)
    (known : ∀ waypoint, side = some waypoint → (graph.byWaypoint? waypoint).isSome)
    (within : ∀ endpoint, resolver.gapEnd grown runway kind side = .ok endpoint →
      endpoint.Within graph.size) :
    resolver.gapEnd grown runway kind side = resolver.gapEnd graph runway kind side := by
  cases side with
  | some waypoint =>
    obtain ⟨node, here⟩ := Option.isSome_iff_exists.mp (known waypoint rfl)
    show Endpoint.ofWaypoint grown waypoint _ = Endpoint.ofWaypoint graph waypoint _
    rw [Endpoint.ofWaypoint, Endpoint.ofWaypoint, Graph.byWaypoint?_of_known behind here, here]
  | none => exact (Endpoint.ofRunway_eq_iff behind recalls _ _ _ _).mpr within

/-- **A shortest fill in a request that links its literals to nothing** is the one without them, unless an
end of it is joined to one of them. -/
theorem autoFill_unlinked [Distance.Ordered α] (wellFormed : graph.WellFormed)
    {tokens : List Token} (unlinked : resolver.settings.coordinateLinks = 0)
    (recalls : (resolver.coordinateScope graph tokens).graph.Recalls graph) {flight : Flight} {gap : Gap}
    (known : ∀ waypoint, gap.before = some waypoint ∨ gap.after = some waypoint →
      (graph.byWaypoint? waypoint).isSome)
    (departs : ∀ endpoint, resolver.gapEnd (resolver.coordinateScope graph tokens).graph flight.origin
      .sid gap.before = .ok endpoint → endpoint.Within graph.size)
    (arrives : ∀ endpoint, resolver.gapEnd (resolver.coordinateScope graph tokens).graph
      flight.destination .star gap.after = .ok endpoint → endpoint.Within graph.size) :
    resolver.autoFill (resolver.coordinateScope graph tokens).graph flight gap =
      resolver.autoFill graph flight gap := by
  obtain ⟨literals, _, scope⟩ := resolver.coordinateScope_unlinked graph tokens unlinked
  have behind := Graph.withLiterals_strays wellFormed literals
  rw [← scope] at behind
  have start := gapEnd_strays behind recalls (fun waypoint same => known waypoint (Or.inl same)) departs
  have finish := gapEnd_strays behind recalls (fun waypoint same => known waypoint (Or.inr same)) arrives
  rw [autoFill_eq, autoFill_eq, start, finish]
  cases before : resolver.gapEnd graph flight.origin .sid gap.before with
  | error failure => rfl
  | ok entry =>
    cases after : resolver.gapEnd graph flight.destination .star gap.after with
    | error failure => rfl
    | ok exit =>
      exact ShortestRoute.find_strays behind (departs entry (start.trans before))
        (arrives exit (finish.trans after)) resolver.cancel

end Resolver

/-! ### What literals disturb -/

namespace Graph

/-- **What literals without links disturb, and what not.**

1. The nearest nodes are those without the literals exactly when for every literal there are as many
   waypoints no further away; a waypoint that the graph has keeps its node.
2. A waypoint is snapped as before exactly when it is not snapped to a literal, and between waypoints that
   are snapped as before the same draws give the same random route.
3. Unless a literal hides the graph's copy of a fix, which it never does on exact lengths, a departure or
   an arrival has the links that it had before exactly when none of its links leads to a literal.
4. Between endpoints that join the graph at old nodes the shortest route is the same, also when there is
   none.
5. An endpoint that joins it at literals only is a dead end: no route joins it with old nodes. -/
theorem unlinked_literals [Distance.Ordered α] (wellFormed : graph.WellFormed)
    (literals : List Waypoint) :
    ((∀ reference count,
      (graph.withLiterals literals).nearest reference count = graph.nearest reference count ↔
        ∀ literal ∈ literals, count ≤ graph.countWithin reference literal) ∧
      ∀ waypoint node, graph.byWaypoint? waypoint = some node →
        (graph.withLiterals literals).byWaypoint? waypoint = some node) ∧
    ((∀ waypoint,
      RandomWalk.snap? (graph.withLiterals literals) waypoint = RandomWalk.snap? graph waypoint ↔
        ∀ node, RandomWalk.snap? (graph.withLiterals literals) waypoint = some node →
          node < graph.size) ∧
      ∀ (chooser : RandomWalk.Chooser σ α) settings cancel start finish draws,
        RandomWalk.snap? (graph.withLiterals literals) start = RandomWalk.snap? graph start →
        RandomWalk.snap? (graph.withLiterals literals) finish = RandomWalk.snap? graph finish →
        RandomWalk.find chooser (graph.withLiterals literals) settings cancel start finish draws =
          RandomWalk.find chooser graph settings cancel start finish draws) ∧
    ((graph.withLiterals literals).Recalls graph → ∀ store runway kind count,
      (Endpoint.ofRunway ⟨graph.withLiterals literals, store, runway⟩ kind count =
          Endpoint.ofRunway ⟨graph, store, runway⟩ kind count ↔
        ∀ endpoint, Endpoint.ofRunway ⟨graph.withLiterals literals, store, runway⟩ kind count =
          .ok endpoint → endpoint.Within graph.size)) ∧
    (∀ start finish cancel, start.Within graph.size → finish.Within graph.size →
      ShortestRoute.find (graph.withLiterals literals) start finish cancel =
        ShortestRoute.find graph start finish cancel) ∧
    ∀ start finish cancel route, start.Beyond graph.size → finish.Within graph.size →
      ShortestRoute.find (graph.withLiterals literals) start finish cancel ≠ .ok route ∧
        ShortestRoute.find (graph.withLiterals literals) finish start cancel ≠ .ok route := by
  have behind := withLiterals_strays wellFormed literals
  refine ⟨⟨?_, ?_⟩, ⟨?_, ?_⟩, ?_, ?_, ?_⟩
  · exact fun reference count => nearest_eq_iff_countWithin behind
  · exact fun waypoint node known => byWaypoint?_of_known behind known
  · exact RandomWalk.snap?_eq_iff behind
  · intro chooser settings cancel start finish draws before after
    exact RandomWalk.find_strays behind before after draws
  · exact fun recalls store runway kind count =>
      Endpoint.ofRunway_eq_iff behind recalls store runway kind count
  · exact fun start finish cancel before after => ShortestRoute.find_strays behind before after cancel
  · exact fun start finish cancel route far near =>
      ShortestRoute.find_strays_ne_ok behind far near cancel route

/-- A literal nine degrees away leaves the runway beside the crossing its link and its routes. One at the
runway itself takes the link, and no route leads on from there. -/
theorem unlinked_literals_crossing :
    crossing.WellFormed ∧
      (∃ endpoint, Endpoint.departure ⟨crossing.withLiterals [⟨"0009N", 0, 9⟩], Resolver.planar.store,
          Resolver.eastbound.origin⟩ 1 = .ok endpoint ∧
        Endpoint.departure ⟨crossing, Resolver.planar.store, Resolver.eastbound.origin⟩ 1 =
          .ok endpoint ∧
        ShortestRoute.find (crossing.withLiterals [⟨"0009N", 0, 9⟩]) endpoint (.node 2) none =
          ShortestRoute.find crossing endpoint (.node 2) none) ∧
      RandomWalk.find RandomWalk.takesFirst (crossing.withLiterals [⟨"0009N", 0, 9⟩]) {} none
          ⟨"KAAA09", 0, 0⟩ ⟨"C", 0, 3⟩ () =
        RandomWalk.find RandomWalk.takesFirst crossing {} none ⟨"KAAA09", 0, 0⟩ ⟨"C", 0, 3⟩ () ∧
      (crossing.withLiterals [⟨"0000N", 0, 0⟩]).nearest ⟨"KAAA09", 0, 0⟩ 1 ≠
        crossing.nearest ⟨"KAAA09", 0, 0⟩ 1 ∧
      ∀ route, ShortestRoute.find (crossing.withLiterals [⟨"0000N", 0, 0⟩])
        (.terminal ⟨"KAAA09", 0, 0⟩ [⟨3, direct, 0, [], none⟩]) (.node 2) none ≠ .ok route := by
  have wellFormed : crossing.WellFormed := crossing_built.wellFormed
  obtain ⟨⟨nearest, known⟩, ⟨snapped, walks⟩, links, routes, _⟩ :=
    unlinked_literals (σ := Unit) wellFormed [⟨"0009N", 0, 9⟩]
  obtain ⟨⟨taken, _⟩, _, _, _, ends⟩ :=
    unlinked_literals (σ := Unit) wellFormed [⟨"0000N", 0, 0⟩]
  have behind : (crossing.withLiterals [⟨"0009N", 0, 9⟩]).Strays crossing [⟨"0009N", 0, 9⟩] :=
    withLiterals_strays wellFormed _
  have same : (crossing.withLiterals [⟨"0009N", 0, 9⟩]).nearest ⟨"KAAA09", 0, 0⟩ 1 =
      crossing.nearest ⟨"KAAA09", 0, 0⟩ 1 := (nearest _ 1).mpr (by decide +kernel)
  have old : ∀ node ∈ crossing.nearest ⟨"KAAA09", 0, 0⟩ 1, node < crossing.size :=
    fun node member => lt_of_mem_nearest member
  refine ⟨wellFormed, ?_, ?_, ?_, ?_⟩
  · obtain ⟨straight, linked, nodes⟩ :=
      Endpoint.nearestLinks_ok (crossing.withLiterals [⟨"0009N", 0, 9⟩]) ⟨"KAAA09", 0, 0⟩ 1
    have departs : ∀ graph : Graph ℚ,
        Endpoint.departure ⟨graph, Resolver.planar.store, Resolver.eastbound.origin⟩ 1 =
          (Endpoint.nearestLinks graph ⟨"KAAA09", 0, 0⟩ 1).map (.terminal ⟨"KAAA09", 0, 0⟩) :=
      fun graph => rfl
    have within : (Endpoint.terminal ⟨"KAAA09", 0, 0⟩ straight).Within crossing.size := by
      intro link member
      refine old link.node ?_
      rw [← same, ← nodes]
      exact List.mem_map_of_mem member
    have after : Endpoint.departure ⟨crossing.withLiterals [⟨"0009N", 0, 9⟩],
        Resolver.planar.store, Resolver.eastbound.origin⟩ 1 =
          .ok (.terminal ⟨"KAAA09", 0, 0⟩ straight) := by
      rw [departs, linked]
      rfl
    have before := (links (recalls behind) Resolver.planar.store Resolver.eastbound.origin .sid 1).mpr
      fun endpoint found => by
        have whole := after.symm.trans found
        cases whole
        exact within
    refine ⟨_, after, ?_, ?_⟩
    · exact before.symm.trans after
    · exact routes _ _ none within (show 2 < crossing.size by decide)
  · have unknown :
        (crossing.withLiterals [⟨"0009N", 0, 9⟩]).byWaypoint? ⟨"KAAA09", 0, 0⟩ = none := by
      have bearers : (crossing.withLiterals [⟨"0009N", 0, 9⟩]).bearers "KAAA09" = [] := by
        decide
      rw [byWaypoint?, candidates_eq behind.wellFormed.exactIndex bearers]
      rfl
    have before := (snapped ⟨"KAAA09", 0, 0⟩).mpr fun node closest => by
      rw [RandomWalk.snap?, unknown, Option.none_or, same] at closest
      exact old node (List.mem_of_head? closest)
    have last : crossing.byWaypoint? ⟨"C", 0, 3⟩ = some 2 :=
      byWaypoint?_of_unique crossing_exactIndex (by decide) rfl (by decide)
    have after := (RandomWalk.snap?_of_known (known _ _ last)).trans
      (RandomWalk.snap?_of_known last).symm
    exact walks _ _ _ _ _ _ before after
  · exact fun equal => absurd ((taken _ 1).mp equal) (by decide +kernel)
  · intro route
    have far : (Endpoint.terminal ⟨"KAAA09", 0, 0⟩ [⟨3, direct, 0, [], none⟩] :
        Endpoint ℚ).Beyond crossing.size := by
      intro link member
      rw [List.mem_singleton.mp member]
      exact Nat.le_refl 3
    have old : (Endpoint.node 2 : Endpoint ℚ).Within crossing.size := by
      show 2 < 3
      decide
    exact (ends _ _ none route far old).1

end Graph

end FlightRoute
