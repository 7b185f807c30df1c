/-
**Requests without commands.**

Where the text of a request holds no command, all of its tokens are one literal segment, which is the
first and the last one at once: it leaves the one runway and comes to the other, and there is nothing to
fill in. So the request comes to what this segment does. Its route is the departure, the body and the
arrival one after the other.

* `resolveTokens_plain`, `resolve_plain`: the segment of a request without commands;
* `coordinateScope_plain`: without literal coordinates the graph stays as it is;
* `literalSegment_joined`, `literalSegment_single`: the route of the segment.
-/

import FlightRoute.Proofs.Resolve.Pieces
import FlightRoute.Proofs.Resolve.Planar
import FlightRoute.Proofs.Resolve.Tokens
import FlightRoute.Proofs.Terminal.Agreement

namespace FlightRoute.Resolver

variable {σ α : Type} [Distance α] {resolver : Resolver σ α} {graph : Graph α} {flight : Flight}
  {tokens : List Token} {draws : σ}

/-! ### The one segment -/

/-- **Tokens without a command** are resolved as one literal segment. -/
theorem resolveTokens_plain (nonempty : tokens ≠ [])
    (plain : ∀ token ∈ tokens, token.isCommand = false) :
    resolver.resolveTokens graph flight tokens draws =
      (resolver.literalSegment graph flight true true tokens, draws) := by
  have grouped := (Segment.group_eq_literal nonempty).mpr ⟨rfl, plain⟩
  have read : resolver.pieces graph flight [.literal tokens] =
      (resolver.literalSegment graph flight true true tokens).map fun route => [.route route] := by
    unfold pieces
    rw [piecesFrom_cons]
    show (resolver.literalSegment graph flight true true tokens >>= _) >>= _ = _
    cases resolver.literalSegment graph flight true true tokens <;> rfl
  unfold resolveTokens
  rw [grouped, ok_bind, read]
  cases resolver.literalSegment graph flight true true tokens <;> rfl

/-- **A request without commands** is resolved as one literal segment, on the graph that holds its literal
coordinates. -/
theorem resolve_plain {request : RouteRequest} (known : resolver.flight request = .ok flight)
    (read : tokensOf request = .ok tokens) (nonempty : tokens ≠ [])
    (plain : ∀ token ∈ tokens, token.isCommand = false) :
    (resolver.resolve graph request draws).outcome =
      resolver.literalSegment (resolver.coordinateScope graph tokens).graph flight true true
        tokens := by
  unfold resolve
  rw [known]
  dsimp only
  rw [read]
  cases tokens with
  | nil => exact absurd rfl nonempty
  | cons first rest => exact congrArg Prod.fst (resolveTokens_plain nonempty plain)

/-- Without literal coordinates nothing is taken into the graph. -/
theorem coordinateScope_plain (plain : RouteString.coordinates tokens = []) :
    (resolver.coordinateScope graph tokens).graph = graph := by
  unfold coordinateScope
  rw [plain]
  rfl

/-! ### Its route -/

/-- A segment whose departure and arrival were read, and whose body was followed, is their nodes one after
the other. -/
theorem literalSegment_joined {sid star : Extraction α} {body : Route α}
    (departed : (resolver.terminal graph flight.origin).departure tokens = .ok sid)
    (arrived : (resolver.terminal graph flight.destination).arrival sid.remaining = .ok star)
    (followed : (resolver.bodyRun graph flight true true (some sid.route) (some star.route)).resolve
      star.remaining = .ok body)
    (front : sid.route.Meets body) (back : body.Meets star.route) :
    resolver.literalSegment graph flight true true tokens =
      .ok ⟨sid.route.nodes.dropLast ++ (body.nodes.dropLast ++ star.route.nodes)⟩ := by
  have head := head_eq_ok.mpr ⟨sid, departed, rfl, rfl⟩
  have tail := tail_eq_ok.mpr ⟨star, arrived, rfl, rfl⟩
  have parts : Parts resolver graph flight true true tokens (some sid.route) (some star.route) body
      star.remaining := ⟨⟨_, head, tail⟩, followed⟩
  rw [parts.literalSegment_eq]
  exact Route.connectAll_meets front back

/-- A single token at which the departure ends and the arrival begins. -/
theorem literalSegment_single {sid star : Extraction α} {token : Token} {exit entry : Waypoint}
    {node : Nat}
    (departed : (resolver.terminal graph flight.origin).departure tokens = .ok sid)
    (arrived : (resolver.terminal graph flight.destination).arrival sid.remaining = .ok star)
    (remaining : star.remaining = [token]) (stands : token.isWaypoint = true)
    (named : exit.ident = token.text) (leaves : sid.route.last? = some exit)
    (comes : star.route.first? = some entry) (agrees : (exit == entry) = true)
    (known : graph.byWaypoint? exit = some node) :
    resolver.literalSegment graph flight true true tokens =
      .ok ⟨sid.route.nodes.dropLast ++ star.route.nodes⟩ := by
  obtain ⟨own, followed, same⟩ : ∃ own, (resolver.bodyRun graph flight true true (some sid.route)
      (some star.route)).resolve [token] = .ok (.single own) ∧ (own == exit) = true :=
    LiteralRun.resolve_single stands leaves named known
  have front : sid.route.Meets (.single own) := ⟨exit, own, leaves, rfl, BEq.symm same⟩
  have back : (Route.single own).Meets star.route := ⟨own, entry, rfl, comes, BEq.trans same agrees⟩
  exact literalSegment_joined departed arrived (remaining ▸ followed) front back

/-- By a departure to the graph's copy of its end, which is the only token behind it, and directly on. -/
theorem literalSegment_departs {name : String} {procedure : Procedure α} {fix place : Waypoint}
    {seam : Token} {node other : Nat}
    (published : resolver.store.procedure flight.origin .sid name = .ok procedure)
    (ends : procedure.last? = some fix) (copied : graph.sameFix? fix = some node)
    (here : graph.waypoints[node]? = some place) (named : seam.text = fix.ident)
    (unnamed : (resolver.terminal graph flight.destination).procedureOf .star seam = .ok none)
    (meant : (resolver.terminal graph flight.destination).waypointOf seam = .ok place)
    (stands : seam.isWaypoint = true) (bears : place.ident = seam.text)
    (own : (place == place) = true) (known : graph.byWaypoint? place = some other) :
    resolver.literalSegment graph flight true true [.ident name, seam] =
      .ok ⟨[{ waypoint := flight.origin.threshold, leg := some procedure.leg },
        { waypoint := place,
          leg := some (.direct (Distance.between place flight.destination.threshold)) },
        .final flight.destination.threshold]⟩ := by
  let start := resolver.terminal graph flight.origin
  have published : start.store.procedure start.runway .sid name = .ok procedure := published
  have copied : start.graph.sameFix? fix = some node := copied
  have departed := Terminal.departure_joined published ends copied here named []
  have arrived := Terminal.arrival_direct unnamed meant []
  exact literalSegment_single departed arrived rfl stands bears rfl rfl own known

/-! ### Over the one waypoint of a text -/

theorem tokensOf_single : tokensOf ⟨"KAAA", "09", "KBBB", "27", "A"⟩ = .ok [.ident "A"] := by
  have parsed : RouteString.parse "A" = .ok [.ident "A"] :=
    RouteString.parse_word rfl rfl rfl
  exact tokensOf_of_parse parsed rfl rfl

/-- Directly to the waypoint, and directly on. -/
theorem planar_literalSegment :
    ∃ whole, planar.literalSegment crossing eastbound true true [.ident "A"] = .ok whole := by
  have bearers : crossing.bearers "A" = [0] := by decide
  have meant (runway : Runway) :
      (planar.terminal crossing runway).waypointOf (.ident "A") = .ok ⟨"A", 0, 1⟩ :=
    Terminal.waypointOf_of_unique crossing_exactIndex bearers rfl
  have departed : (planar.terminal crossing eastbound.origin).departure [.ident "A"] = .ok _ :=
    Terminal.departure_direct rfl (meant _) []
  have arrived : (planar.terminal crossing eastbound.destination).arrival [.ident "A"] = .ok _ :=
    Terminal.arrival_direct rfl (meant _) []
  have agrees : ((⟨"A", 0, 1⟩ : Waypoint) == ⟨"A", 0, 1⟩) = true := by decide
  have known : crossing.byWaypoint? ⟨"A", 0, 1⟩ = some 0 :=
    Graph.byWaypoint?_of_unique crossing_exactIndex bearers rfl agrees
  exact ⟨_, literalSegment_single departed arrived rfl rfl rfl rfl rfl agrees known⟩

theorem planar_resolveTokens : ∃ route,
    (planar.resolveTokens crossing eastbound [.ident "A"] ()).1 = .ok route := by
  obtain ⟨whole, segment⟩ := planar_literalSegment
  refine ⟨whole, ?_⟩
  rw [resolveTokens_plain (List.cons_ne_nil _ _) (by decide), segment]

theorem planar_resolve : ∃ route,
    (planar.resolve crossing ⟨"KAAA", "09", "KBBB", "27", "A"⟩ ()).outcome = .ok route := by
  obtain ⟨whole, segment⟩ := planar_literalSegment
  refine ⟨whole, ?_⟩
  rw [resolve_plain (planar_flight "A") tokensOf_single (List.cons_ne_nil _ _) (by decide),
    coordinateScope_plain rfl, segment]

end FlightRoute.Resolver
