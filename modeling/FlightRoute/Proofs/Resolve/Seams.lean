/-
**Where a request fails for want of a shared waypoint.**

The fragments of a route meet at their seams: departure and body, body and arrival, finished routes and
fills. There is one exception. When the text holds no command and a single token is left between the
departure and the arrival, the token is the seam of both. Each reads it on its own, as the waypoint
closest to its runway; if these are two waypoints of one name, the request fails.

* `resolveTokens_mismatch_iff`: tokens along which there is no connected route;
* `resolve_mismatch_iff`: requests that fail at a seam;
* `resolve_mismatch_namesakes`: one that does.
-/

import FlightRoute.Proofs.Resolve.Continuity
import FlightRoute.Proofs.Resolve.Plain

namespace FlightRoute.Resolver

variable {σ α : Type} [Distance α] {resolver : Resolver σ α} {graph : Graph α} {flight : Flight}
  {tokens : List Token} {draws : σ} {left right : String}

/-- Pieces whose gaps are filled connect. -/
theorem fillAll_connects (wellFormed : graph.WellFormed) (comparable : graph.Comparable)
    (random : resolver.random.Spans) {segments : List Segment} {pieces : List (Piece α)}
    {routes : List (Route α)} {draws' : σ} (grouped : Segment.group tokens = .ok segments)
    (read : resolver.pieces graph flight segments = .ok pieces)
    (filled : resolver.fillAll graph flight draws (Piece.plan pieces) = (.ok routes, draws')) :
    ∃ route, Route.connectAll routes = .ok route := by
  obtain ⟨_, spans⟩ := piecesFrom_spans wellFormed read
  have start : Piece.AllSpan graph flight (none : Option (Piece α)).isNone pieces := spans
  have alternate : (((none : Option (Piece α)).toList ++ pieces).map Piece.isRoute).IsChain
      (· ≠ ·) := (pieces_alternate wellFormed grouped read).2
  obtain ⟨chain, _⟩ := fillAll_meets wellFormed comparable random start alternate (fun _ => nofun) filled
  exact Route.connectAll_eq_ok chain

/-- **Tokens fail at a seam** exactly when none of them is a command and a departure and an arrival clash
at the token between them. -/
theorem resolveTokens_mismatch_iff (wellFormed : graph.WellFormed) (comparable : graph.Comparable)
    (store : resolver.store.Seamless) (spans : resolver.random.Spans)
    (random : resolver.random.Seamless) (nonempty : tokens ≠ []) :
    (resolver.resolveTokens graph flight tokens draws).1 = .error (.connectionMismatch left right) ↔
      (∀ token ∈ tokens, token.isCommand = false) ∧
        ∃ token, SeamClash resolver graph flight tokens token ∧ left = token.text ∧
          right = token.text := by
  unfold resolveTokens
  constructor
  · intro failed
    split at failed
    · rename_i failure early
      cases failed
      rcases bind_eq_error.mp early with here | ⟨segments, grouped, read⟩
      · obtain ⟨_, same⟩ := Segment.group_failsOnly tokens _ here
        cases same
      · obtain ⟨_, run, token, rfl, clash, texts⟩ :=
          (piecesFrom_mismatch_iff wellFormed comparable store).mp read
        obtain ⟨rfl, plain⟩ := (Segment.group_eq_literal nonempty).mp grouped
        exact ⟨plain, token, clash, texts⟩
    · rename_i pieces read
      obtain ⟨segments, grouped, read⟩ := bind_eq_ok.mp read
      split at failed
      · rename_i failure behind stopped
        cases failed
        have seamless : Seamless (resolver.fillAll graph flight draws (Piece.plan pieces)).1 :=
          fillAll_seamless store random draws _
        rw [stopped] at seamless
        exact absurd rfl (seamless left right)
      · rename_i routes behind filled
        obtain ⟨route, connected⟩ := fillAll_connects wellFormed comparable spans grouped read filled
        rw [connected] at failed
        cases failed
  · rintro ⟨plain, token, clash, rfl, rfl⟩
    exact (congrArg Prod.fst (resolveTokens_plain nonempty plain)).trans
      (clash.fails wellFormed comparable)

/-- **A request fails at a seam** exactly when its text holds no command and leaves a single token between
a departure and an arrival which read it as two different waypoints. -/
theorem resolve_mismatch_iff (built : graph.Built) (comparable : graph.Comparable)
    (store : resolver.store.Seamless) (spans : resolver.random.Spans)
    (random : resolver.random.Seamless) {request : RouteRequest} :
    (resolver.resolve graph request draws).outcome = .error (.connectionMismatch left right) ↔
      ∃ flight tokens token, resolver.flight request = .ok flight ∧ tokensOf request = .ok tokens ∧
        (∀ token ∈ tokens, token.isCommand = false) ∧
        SeamClash resolver (resolver.coordinateScope graph tokens).graph flight tokens token ∧
        left = token.text ∧ right = token.text := by
  have scope : ∀ tokens, tokensOf request = .ok tokens →
      (resolver.coordinateScope graph tokens).graph.WellFormed ∧
      (resolver.coordinateScope graph tokens).graph.Comparable := fun tokens read =>
    ⟨(coordinateScope_over built.wellFormed resolver tokens).wellFormed,
      coordinateScope_comparable resolver comparable (tokensOf_comparable read)⟩
  constructor
  · intro failed
    unfold resolve at failed
    split at failed
    · rename_i failure unknown
      cases failed
      obtain ⟨_, _, same⟩ := resolver.flight_failsOnly request _ unknown
      cases same
    · rename_i flight known
      split at failed
      · rename_i failure unread
        cases failed
        obtain ⟨_, same⟩ := tokensOf_failsOnly request _ unread
        cases same
      · cases failed
      · rename_i tokens nonempty read
        obtain ⟨wellFormed, numbers⟩ := scope tokens read
        obtain ⟨plain, token, clash, texts⟩ :=
          (resolveTokens_mismatch_iff wellFormed numbers store spans random nonempty).mp failed
        exact ⟨flight, tokens, token, known, read, plain, clash, texts⟩
  · rintro ⟨flight, tokens, token, known, read, plain, clash, rfl, rfl⟩
    obtain ⟨wellFormed, numbers⟩ := scope tokens read
    have nonempty : tokens ≠ [] := by
      rintro rfl
      obtain ⟨_, _, departed, _⟩ := clash.read
      cases departed
    rw [resolve_plain known read nonempty plain]
    exact clash.fails wellFormed numbers

/-! ### Two waypoints of one name -/

/-- Two waypoints of one name, one near each of two runways. -/
def namesakes : Graph ℚ := (Graph.empty.addWaypoint ⟨"A", 0, 1⟩).addWaypoint ⟨"A", 0, 9⟩

theorem namesakes_built : namesakes.Built := .addWaypoint _ (.addWaypoint _ .empty)

theorem namesakes_comparable : namesakes.Comparable := by
  intro waypoint member
  have either : waypoint = ⟨"A", 0, 1⟩ ∨ waypoint = ⟨"A", 0, 9⟩ := by
    simpa [namesakes, Graph.addWaypoint, Graph.empty] using member
  rcases either with rfl | rfl <;> decide

theorem namesakes_candidates :
    namesakes.candidates "A" = [(0, ⟨"A", 0, 1⟩), (1, ⟨"A", 0, 9⟩)] := by
  have bearers : namesakes.bearers "A" = [0, 1] := by decide
  rw [Graph.candidates_eq namesakes_built.wellFormed.exactIndex bearers]
  rfl

/-- Between the two runways the only token names the one waypoint for the departure and the other one for
the arrival. -/
theorem namesakes_clash : SeamClash planar namesakes eastbound [.ident "A"] (.ident "A") := by
  have near : namesakes.closestByIdent? "A" eastbound.origin.threshold = some 0 := by
    unfold Graph.closestByIdent?
    rw [namesakes_candidates]
    decide +kernel
  have far : namesakes.closestByIdent? "A" eastbound.destination.threshold = some 1 := by
    unfold Graph.closestByIdent?
    rw [namesakes_candidates]
    decide +kernel
  have exit : (planar.terminal namesakes eastbound.origin).waypointOf (.ident "A") =
      .ok ⟨"A", 0, 1⟩ := Terminal.waypointOf_of_closest near rfl
  have entry : (planar.terminal namesakes eastbound.destination).waypointOf (.ident "A") =
      .ok ⟨"A", 0, 9⟩ := Terminal.waypointOf_of_closest far rfl
  obtain ⟨sid, departed, stays, leaves⟩ : ∃ sid : Extraction ℚ,
      (planar.terminal namesakes eastbound.origin).departure [.ident "A"] = .ok sid ∧
        sid.remaining = [.ident "A"] ∧ sid.route.last? = some ⟨"A", 0, 1⟩ := by
    show ∃ sid : Extraction ℚ,
      (planar.terminal namesakes eastbound.origin).directDeparture _ _ = .ok sid ∧ _
    unfold Terminal.directDeparture
    dsimp only
    rw [exit]
    exact ⟨_, rfl, rfl, rfl⟩
  obtain ⟨star, arrived, remaining, comes⟩ : ∃ star : Extraction ℚ,
      (planar.terminal namesakes eastbound.destination).arrival [.ident "A"] = .ok star ∧
        star.remaining = [.ident "A"] ∧ star.route.first? = some ⟨"A", 0, 9⟩ := by
    show ∃ star : Extraction ℚ,
      (planar.terminal namesakes eastbound.destination).directArrival _ _ = .ok star ∧ _
    unfold Terminal.directArrival
    dsimp only
    rw [entry]
    exact ⟨_, rfl, rfl, rfl⟩
  exact ⟨rfl, sid, star, departed, stays ▸ arrived, remaining, _, _, leaves, comes, by decide⟩

/-- **The request for the one waypoint between the two runways fails at its seam.** -/
theorem resolve_mismatch_namesakes :
    namesakes.Built ∧ namesakes.Comparable ∧ planar.store.Seamless ∧ planar.random.Spans ∧
      planar.random.Seamless ∧
      (planar.resolve namesakes ⟨"KAAA", "09", "KBBB", "27", "A"⟩ ()).outcome =
        .error (.connectionMismatch "A" "A") := by
  have store : planar.store.Seamless := fun _ _ _ => .error nofun
  have random : planar.random.Seamless := fun _ _ _ _ _ _ => .ok _
  have plain : ∀ token ∈ [Token.ident "A"], token.isCommand = false := by
    intro token member
    cases List.mem_singleton.mp member
    rfl
  refine ⟨namesakes_built, namesakes_comparable, store, planar_spans, random, ?_⟩
  refine (resolve_mismatch_iff namesakes_built namesakes_comparable store planar_spans random).mpr ?_
  exact ⟨eastbound, _, _, planar_flight "A", tokensOf_single, plain, namesakes_clash, rfl, rfl⟩

end FlightRoute.Resolver
