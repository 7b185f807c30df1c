/-
**A route is connected in one go.**

A resolved route is connected twice: the departure, the body and the arrival of a literal segment to the
route of the segment, and then the routes of all segments. Since connecting does not depend on the grouping,
the fragments of all segments might as well be connected in one go, from left to right.

* `AllMadeOf`: the fragments of segments that are filled in;
* `AllMadeOf.mapM_connectAll`: the fragments of each segment connect to its route;
* `resolveTokens_ungrouped`: a list of routes in any groups, and the route along tokens.
-/

import FlightRoute.Proofs.Resolve.Genuine
import FlightRoute.Proofs.Route.Grouping

namespace FlightRoute.Resolver

variable {σ α : Type} [Distance α] {resolver : Resolver σ α} {graph : Graph α} {flight : Flight}
  {isFirst isLast : Bool} {segment : Segment} {segments : List Segment} {pieces : List (Piece α)}
  {previous : Option (Piece α)} {route : Route α} {routes fragments : List (Route α)}
  {groups : List (List (Route α))} {draws behind : σ}

/-- The fragments of a segment whose route is filled in: those of a literal segment are its ends and its body,
and a command has its route alone. -/
inductive IsMadeOf (resolver : Resolver σ α) (graph : Graph α) (flight : Flight) (isFirst isLast : Bool) :
    Segment → Route α → List (Route α) → Prop
  | literal {tokens middle : List Token} {front back : Option (Route α)} {body : Route α}
      (route : Route α) (parts : Parts resolver graph flight isFirst isLast tokens front back body middle) :
      IsMadeOf resolver graph flight isFirst isLast (.literal tokens) route
        (front.toList ++ [body] ++ back.toList)
  | auto (route : Route α) : IsMadeOf resolver graph flight isFirst isLast .auto route [route]
  | rand (route : Route α) : IsMadeOf resolver graph flight isFirst isLast .rand route [route]

/-- The fragments of all segments; the first of them is the first of the route or not. -/
inductive AllMadeOf (resolver : Resolver σ α) (graph : Graph α) (flight : Flight) :
    Bool → List Segment → List (Route α) → List (List (Route α)) → Prop
  | nil (isFirst : Bool) : AllMadeOf resolver graph flight isFirst [] [] []
  | cons {isFirst : Bool} {segment : Segment} {rest : List Segment} {route : Route α}
      {routes fragments : List (Route α)} {groups : List (List (Route α))} :
      IsMadeOf resolver graph flight isFirst rest.isEmpty segment route fragments →
      AllMadeOf resolver graph flight false rest routes groups →
      AllMadeOf resolver graph flight isFirst (segment :: rest) (route :: routes) (fragments :: groups)

/-- A segment that was read has fragments. -/
theorem exists_isMadeOf {piece : Piece α}
    (read : resolver.pieceOf graph flight isFirst isLast segment = .ok piece) (route : Route α) :
    ∃ fragments, IsMadeOf resolver graph flight isFirst isLast segment route fragments := by
  cases segment with
  | literal tokens =>
    obtain ⟨_, resolved, _⟩ := bind_eq_ok.mp read
    obtain ⟨front, back, body, middle, parts, _⟩ := literalSegment_eq_ok.mp resolved
    exact ⟨_, .literal route parts⟩
  | auto => exact ⟨_, .auto route⟩
  | rand => exact ⟨_, .rand route⟩

/-- The fragments of a segment connect to its route. -/
theorem IsMadeOf.connectAll {piece : Piece α} {gap : Gap}
    (made : IsMadeOf resolver graph flight isFirst isLast segment route fragments)
    (read : resolver.pieceOf graph flight isFirst isLast segment = .ok piece)
    (filled : resolver.fill graph flight draws (piece.fill gap) = (.ok route, behind)) :
    Route.connectAll fragments = .ok route := by
  cases made with
  | literal route parts =>
    obtain ⟨finished, resolved, whole⟩ := bind_eq_ok.mp read
    cases whole
    cases filled
    rw [← parts.literalSegment_eq, resolved]
  | auto route => rfl
  | rand route => rfl

/-- Segments that are filled in have fragments. -/
theorem exists_allMadeOf (read : resolver.piecesFrom graph flight isFirst segments = .ok pieces)
    (filled : resolver.fillAll graph flight draws (Piece.planAfter previous pieces) =
      (.ok routes, behind)) :
    ∃ groups, AllMadeOf resolver graph flight isFirst segments routes groups := by
  induction segments generalizing isFirst pieces previous draws routes with
  | nil =>
    cases read
    cases filled
    exact ⟨[], .nil isFirst⟩
  | cons segment rest ih =>
    rw [piecesFrom_cons] at read
    obtain ⟨piece, here, read⟩ := bind_eq_ok.mp read
    obtain ⟨others, there, whole⟩ := bind_eq_ok.mp read
    cases whole
    obtain ⟨route, middle, further, _, rest, rfl⟩ := fillAll_cons filled
    obtain ⟨fragments, made⟩ := exists_isMadeOf here route
    obtain ⟨groups, all⟩ := ih there rest
    exact ⟨fragments :: groups, .cons made all⟩

/-- **The fragments of each segment** connect to its route. -/
theorem AllMadeOf.mapM_connectAll
    (made : AllMadeOf resolver graph flight isFirst segments routes groups)
    (read : resolver.piecesFrom graph flight isFirst segments = .ok pieces)
    (filled : resolver.fillAll graph flight draws (Piece.planAfter previous pieces) =
      (.ok routes, behind)) : groups.mapM Route.connectAll = .ok routes := by
  induction made generalizing pieces previous draws with
  | nil isFirst => rfl
  | cons first all ih =>
    rw [piecesFrom_cons] at read
    obtain ⟨piece, here, read⟩ := bind_eq_ok.mp read
    obtain ⟨others, there, whole⟩ := bind_eq_ok.mp read
    cases whole
    obtain ⟨route, middle, further, own, rest, same⟩ := fillAll_cons filled
    cases same
    rw [List.mapM_cons, first.connectAll here own, ok_bind, ih there rest]
    rfl

/-- **Connecting does not depend on the grouping.** A list of routes connects exactly when each of its groups
does and what they connect to does, and it comes to the same route. So a route along tokens is what the
fragments of all its segments connect to in one go. -/
theorem resolveTokens_ungrouped :
    (∀ (groups : List (List (Route α))) (whole : Route α),
      Route.connectAll groups.flatten = .ok whole ↔
        ∃ parts, groups.mapM Route.connectAll = .ok parts ∧ Route.connectAll parts = .ok whole) ∧
    ∀ (resolver : Resolver σ α) (graph : Graph α) (flight : Flight) (tokens : List Token) (draws : σ)
      (whole : Route α),
      (resolver.resolveTokens graph flight tokens draws).1 = .ok whole ↔
        ∃ segments pieces routes behind groups, Segment.group tokens = .ok segments ∧
          resolver.pieces graph flight segments = .ok pieces ∧
          resolver.fillAll graph flight draws (Piece.plan pieces) = (.ok routes, behind) ∧
          AllMadeOf resolver graph flight true segments routes groups ∧
          Route.connectAll groups.flatten = .ok whole := by
  refine ⟨fun groups whole => Route.connectAll_flatten, fun resolver graph flight tokens draws whole => ?_⟩
  rw [resolveTokens_eq_ok]
  constructor
  · rintro ⟨segments, pieces, routes, behind, grouped, read, filled, connected⟩
    obtain ⟨groups, made⟩ := exists_allMadeOf read filled
    refine ⟨segments, pieces, routes, behind, groups, grouped, read, filled, made, ?_⟩
    exact Route.connectAll_flatten.mpr ⟨routes, made.mapM_connectAll read filled, connected⟩
  · rintro ⟨segments, pieces, routes, behind, groups, grouped, read, filled, made, connected⟩
    obtain ⟨parts, each, connected⟩ := Route.connectAll_flatten.mp connected
    rw [made.mapM_connectAll read filled] at each
    cases each
    exact ⟨segments, pieces, routes, behind, grouped, read, filled, connected⟩

omit [Distance α] in
/-- Two legs with waypoints and an empty route in between, and the fragments of the route over one waypoint. -/
theorem resolveTokens_ungrouped_crossing :
    let first : Route ℚ := .ofLeg ⟨"A", 0, 1⟩ ⟨"Y", 1, []⟩ ⟨"B", 0, 2⟩
    let second : Route ℚ := .ofLeg ⟨"B", 0, 2⟩ ⟨"Y", 1, []⟩ ⟨"C", 0, 3⟩
    (∃ whole, Route.connectAll [first, .single ⟨"B", 0, 2⟩, .empty, .single ⟨"B", 0, 2⟩, second] =
      .ok whole) ∧
    ∃ segments routes groups whole, AllMadeOf planar crossing eastbound true segments routes groups ∧
      Route.connectAll groups.flatten = .ok whole := by
  intro first second
  obtain ⟨ungrouped, resolved⟩ := resolveTokens_ungrouped (σ := Unit) (α := ℚ)
  constructor
  · let groups := [[first, .single ⟨"B", 0, 2⟩], [.empty], [.single ⟨"B", 0, 2⟩, second]]
    exact ⟨_, (ungrouped groups _).mpr ⟨[first, .empty, second], rfl, rfl⟩⟩
  · obtain ⟨whole, done⟩ := planar_resolveTokens
    obtain ⟨segments, _, routes, _, groups, _, _, _, made, connected⟩ :=
      (resolved planar crossing eastbound _ () whole).mp done
    exact ⟨segments, routes, groups, whole, made, connected⟩

end FlightRoute.Resolver
