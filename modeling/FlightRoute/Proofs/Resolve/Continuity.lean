/-
**A resolved route is one path from runway to runway.**

Whatever the text of a request asks for, a route that comes of it begins at the runway of origin, ends at
the runway of destination, and every node in between is joined to the next one.

* `resolveTokens_runs`: a route along tokens;
* `resolve_continuous`: the route of a request.
-/

import FlightRoute.Proofs.Resolve.Fill
import FlightRoute.Proofs.Resolve.Rollback
import FlightRoute.Proofs.Resolve.Tokens

namespace FlightRoute.Resolver

variable {σ α : Type} [Distance α] {resolver : Resolver σ α} {graph : Graph α} {flight : Flight}
  {tokens : List Token} {draws : σ} {route : Route α}

/-- Tokens give at least one piece. -/
theorem pieces_ne_nil (wellFormed : graph.WellFormed) {segments : List Segment}
    {pieces : List (Piece α)} (nonempty : tokens ≠ []) (grouped : Segment.group tokens = .ok segments)
    (read : resolver.pieces graph flight segments = .ok pieces) : pieces ≠ [] := by
  rintro rfl
  obtain ⟨kinds, _⟩ := piecesFrom_spans wellFormed read
  obtain rfl : segments = [] := List.map_eq_nil_iff.mp kinds.symm
  exact nonempty (Segment.flatten_group grouped).symm

/-- A route along tokens is a path from runway to runway. -/
theorem resolveTokens_runs (wellFormed : graph.WellFormed) (random : resolver.random.Spans)
    (formed : resolver.random.WellFormed) (nonempty : tokens ≠ [])
    (resolved : (resolver.resolveTokens graph flight tokens draws).1 = .ok route) :
    route.IsPath ∧ route.StartsAt flight.origin.threshold ∧
      route.EndsAt flight.destination.threshold := by
  obtain ⟨segments, pieces, routes, behind, grouped, read, filled, connected⟩ :=
    resolveTokens_eq_ok.mp resolved
  have more : routes ≠ [] := fillAll_ne_nil (pieces_ne_nil wellFormed nonempty grouped read) filled
  obtain ⟨_, spans⟩ := piecesFrom_spans wellFormed read
  have start : Piece.AllSpan graph flight (none : Option (Piece α)).isNone pieces := spans
  obtain ⟨paths, starts, ends⟩ := fillAll_runs wellFormed random formed start filled
  obtain ⟨path, begins, finishes⟩ := Route.connectAll_runs paths more connected
  refine ⟨path, ?_, ?_⟩
  · have first := List.head?_eq_some_head more
    exact begins _ _ first (starts rfl _ first)
  · have last := List.getLast?_eq_some_getLast more
    exact finishes _ _ last (ends _ last)

/-- **A resolved route is one path from runway to runway.** -/
theorem resolve_continuous (built : graph.Built) (random : resolver.random.Spans)
    (formed : resolver.random.WellFormed) {request : RouteRequest}
    (resolved : (resolver.resolve graph request draws).outcome = .ok route) :
    ∃ flight first last, resolver.flight request = .ok flight ∧ route.WellFormed ∧
      route.first? = some first ∧ route.last? = some last ∧
      flight.origin.threshold.Same first ∧ flight.destination.threshold.Same last := by
  unfold resolve at resolved
  split at resolved
  · cases resolved
  · rename_i flight known
    have path : route.IsPath ∧ route.StartsAt flight.origin.threshold ∧
        route.EndsAt flight.destination.threshold := by
      split at resolved
      · cases resolved
      · cases resolved
        have runs : Route.Runs flight.origin.threshold (directRoute flight : Route α).nodes
            flight.destination.threshold := .leg _ (.final _)
        exact ⟨runs.isPath, runs.startsAt, runs.endsAt⟩
      · rename_i tokens other read
        have grown := coordinateScope_over built.wellFormed resolver tokens
        exact resolveTokens_runs grown.wellFormed random formed other resolved
    obtain ⟨⟨start, finish, runs⟩, ⟨first, begins, same⟩, last, ends, agrees⟩ := path
    exact ⟨flight, first, last, known, runs.wellFormed, begins, ends, same, agrees⟩

omit [Distance α] in
/-- Direct routes run from the one waypoint to the other. -/
theorem planar_runs {graph : Graph ℚ} {settings : SearchSettings} {cancel : Option CancelFlag}
    {start finish : Waypoint} {draws draws' : Unit} {route : Route ℚ}
    (drawn : planar.random graph settings cancel start finish draws = (.ok route, draws')) :
    Route.Runs start route.nodes finish := by
  cases drawn
  exact .leg _ (.final _)

omit [Distance α] in
theorem planar_spans : planar.random.Spans := fun _ _ _ _ _ _ _ _ drawn =>
  ⟨(planar_runs drawn).startsAt, (planar_runs drawn).endsAt⟩

omit [Distance α] in
theorem planar_wellFormed : planar.random.WellFormed := fun _ _ _ _ _ _ _ _ drawn =>
  (planar_runs drawn).wellFormed

/-- A random route all the way from runway to runway. -/
theorem resolve_continuous_planar :
    crossing.Built ∧ planar.random.Spans ∧ planar.random.WellFormed ∧
      ∃ route, (planar.resolve crossing ⟨"KAAA", "09", "KBBB", "27", "RAND"⟩ ()).outcome = .ok route ∧
        ∃ flight first last, planar.flight ⟨"KAAA", "09", "KBBB", "27", "RAND"⟩ = .ok flight ∧
          route.WellFormed ∧ route.first? = some first ∧ route.last? = some last ∧
          flight.origin.threshold.Same first ∧ flight.destination.threshold.Same last := by
  have parsed : RouteString.parse "RAND" = .ok [.rand] :=
    RouteString.parse_word rfl rfl rfl
  have read : tokensOf ⟨"KAAA", "09", "KBBB", "27", "RAND"⟩ = .ok [.rand] := by
    unfold tokensOf
    dsimp only
    rw [parsed]
    rfl
  have resolved : (planar.resolve crossing ⟨"KAAA", "09", "KBBB", "27", "RAND"⟩ ()).outcome =
      .ok (directRoute eastbound) := by
    unfold resolve
    rw [planar_flight]
    dsimp only
    rw [read]
    rfl
  exact ⟨crossing_built, planar_spans, planar_wellFormed, _, resolved,
    resolve_continuous crossing_built planar_spans planar_wellFormed resolved⟩

end FlightRoute.Resolver
