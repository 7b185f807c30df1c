/-
**Resolving requests.**

A request becomes one route from runway to runway in these steps.

1. Both runways are looked up. An empty route text asks for the direct route.
2. Commands side by side are refused; the airports at the ends of the text are taken off.
3. The literal coordinates are taken into the graph for the time of the request.
4. The literal segments are resolved, with the departure on the first and the arrival on the last.
5. The commands are filled in between.
6. All pieces are connected.

* `Resolver.resolveTokens`: steps 4 to 6;
* `Resolver.resolve`: the whole request, with the graph behind it.
-/

import FlightRoute.Graph.Scope
import FlightRoute.LiteralRun
import FlightRoute.RandomWalk.Basic
import FlightRoute.Resolve.Fill
import FlightRoute.Segment
import FlightRoute.Terminal.Arrival
import FlightRoute.Terminal.Departure

namespace FlightRoute

/-- What is to be resolved. -/
structure RouteRequest where
  originIcao : String
  originRunway : String
  destinationIcao : String
  destinationRunway : String
  route : String

/-- The two runways of a flight. -/
structure Flight where
  origin : Runway
  destination : Runway

/-- What is needed to resolve requests on a graph. -/
structure Resolver (σ α : Type) where
  airports : AirportTable
  store : ProcedureStore α
  random : RandomSource σ α
  settings : SearchSettings := {}
  cancel : Option CancelFlag := none

/-- What is left behind a request. -/
structure Resolution (σ α : Type) where
  /-- The route, or why there is none. -/
  outcome : Except RouteError (Route α)
  graph : Graph α
  draws : σ

namespace Resolver

variable {σ α : Type}

/-- One end of a flight. -/
def terminal (resolver : Resolver σ α) (graph : Graph α) (runway : Runway) : Terminal α :=
  ⟨graph, resolver.store, runway⟩

/-- The runways of a request. -/
def flight (resolver : Resolver σ α) (request : RouteRequest) : Except RouteError Flight := do
  let origin ← resolver.airports.runway request.originIcao request.originRunway
  let destination ← resolver.airports.runway request.destinationIcao request.destinationRunway
  return { origin, destination }

variable [Distance α]

/-- The departure in front of the tokens of the first segment. -/
def head (resolver : Resolver σ α) (graph : Graph α) (flight : Flight) (isFirst : Bool)
    (tokens : List Token) : Except RouteError (Option (Route α) × List Token) := do
  if isFirst then
    let extraction ← (resolver.terminal graph flight.origin).departure tokens
    return (some extraction.route, extraction.remaining)
  else return (none, tokens)

/-- The arrival behind the tokens of the last segment. -/
def tail (resolver : Resolver σ α) (graph : Graph α) (flight : Flight) (isLast : Bool)
    (tokens : List Token) : Except RouteError (Option (Route α) × List Token) := do
  if isLast then
    let extraction ← (resolver.terminal graph flight.destination).arrival tokens
    return (some extraction.route, extraction.remaining)
  else return (none, tokens)

/-- The route of a literal segment, up to the runways at the ends of the flight. -/
def literalSegment (resolver : Resolver σ α) (graph : Graph α) (flight : Flight)
    (isFirst isLast : Bool) (tokens : List Token) : Except RouteError (Route α) := do
  let (head, tokens) ← resolver.head graph flight isFirst tokens
  let (tail, tokens) ← resolver.tail graph flight isLast tokens
  let runway := if isLast && !isFirst then flight.destination else flight.origin
  let run : LiteralRun α := {
    graph
    reference := runway.threshold
    firstPin := head.bind (·.last?)
    lastPin := tail.bind (·.first?)
    cancel := resolver.cancel }
  let body ← run.resolve tokens
  Route.connectAll (head.toList ++ [body] ++ tail.toList)

/-- The pieces of segments; the first of them is the first of the route or not. -/
def piecesFrom (resolver : Resolver σ α) (graph : Graph α) (flight : Flight) (isFirst : Bool) :
    List Segment → Except RouteError (List (Piece α))
  | [] => .ok []
  | segment :: rest => do
    let piece ← match segment with
      | .auto => pure .auto
      | .rand => pure .rand
      | .literal tokens => do
        pure (.route (← resolver.literalSegment graph flight isFirst rest.isEmpty tokens))
    return piece :: (← resolver.piecesFrom graph flight false rest)

/-- The pieces of a route. -/
def pieces (resolver : Resolver σ α) (graph : Graph α) (flight : Flight)
    (segments : List Segment) : Except RouteError (List (Piece α)) :=
  resolver.piecesFrom graph flight true segments

/-- The shortest path between the neighbours of a gap. -/
def autoFill (resolver : Resolver σ α) (graph : Graph α) (flight : Flight) (gap : Gap) :
    Except RouteError (Route α) := do
  let links := resolver.settings.terminalLinks
  let start ← match gap.before with
    | some waypoint => Endpoint.ofWaypoint graph waypoint links
    | none => Endpoint.departure (resolver.terminal graph flight.origin) links
  let finish ← match gap.after with
    | some waypoint => Endpoint.ofWaypoint graph waypoint links
    | none => Endpoint.arrival (resolver.terminal graph flight.destination) links
  ShortestRoute.find graph start finish resolver.cancel

omit [Distance α] in
/-- A random route between the neighbours of a gap. -/
def randFill (resolver : Resolver σ α) (graph : Graph α) (flight : Flight) (gap : Gap) (draws : σ) :
    Except RouteError (Route α) × σ :=
  resolver.random graph resolver.settings resolver.cancel
    (gap.before.getD flight.origin.threshold) (gap.after.getD flight.destination.threshold) draws

/-- The route of a fill. -/
def fill (resolver : Resolver σ α) (graph : Graph α) (flight : Flight) (draws : σ) :
    Fill α → Except RouteError (Route α) × σ
  | .done route => (.ok route, draws)
  | .auto gap => (resolver.autoFill graph flight gap, draws)
  | .rand gap => resolver.randFill graph flight gap draws

/-- The routes of the fills, from left to right up to the first failure. -/
def fillAll (resolver : Resolver σ α) (graph : Graph α) (flight : Flight) (draws : σ) :
    List (Fill α) → Except RouteError (List (Route α)) × σ
  | [] => (.ok [], draws)
  | first :: rest =>
    match resolver.fill graph flight draws first with
    | (.error failure, draws) => (.error failure, draws)
    | (.ok route, draws) =>
      match resolver.fillAll graph flight draws rest with
      | (.error failure, draws) => (.error failure, draws)
      | (.ok routes, draws) => (.ok (route :: routes), draws)

/-- The route along tokens, on a graph that holds their literal coordinates. -/
def resolveTokens (resolver : Resolver σ α) (graph : Graph α) (flight : Flight)
    (tokens : List Token) (draws : σ) : Except RouteError (Route α) × σ :=
  match Segment.group tokens >>= resolver.pieces graph flight with
  | .error failure => (.error failure, draws)
  | .ok pieces =>
    match resolver.fillAll graph flight draws (Piece.plan pieces) with
    | (.error failure, draws) => (.error failure, draws)
    | (.ok routes, draws) => (Route.connectAll routes, draws)

/-- Takes a waypoint into the graph unless it is there. -/
def injectMissing (links : Nat) (scope : Scope α) (waypoint : Waypoint) : Scope α :=
  if (scope.graph.byWaypoint? waypoint).isSome then scope else scope.inject waypoint links

/-- The scope in which the literal coordinates of the tokens are in the graph. -/
def coordinateScope (resolver : Resolver σ α) (graph : Graph α) (tokens : List Token) : Scope α :=
  (RouteString.coordinates tokens).foldl (injectMissing resolver.settings.coordinateLinks)
    graph.openScope

/-- The tokens of a request that are to be resolved. -/
def tokensOf (request : RouteRequest) : Except RouteError (List Token) := do
  let tokens ← RouteString.parse request.route
  RouteString.checkCommands tokens
  return RouteString.stripAirports request.originIcao request.destinationIcao tokens

/-- The direct route from runway to runway. -/
def directRoute (flight : Flight) : Route α :=
  let start := flight.origin.threshold
  let finish := flight.destination.threshold
  .ofLeg start (.direct (Distance.between start finish)) finish

/-- Resolves a request. The graph behind it is the one before. -/
def resolve (resolver : Resolver σ α) (graph : Graph α) (request : RouteRequest) (draws : σ) :
    Resolution σ α :=
  match resolver.flight request with
  | .error failure => ⟨.error failure, graph, draws⟩
  | .ok flight =>
    match tokensOf request with
    | .error failure => ⟨.error failure, graph, draws⟩
    | .ok [] => ⟨.ok (directRoute flight), graph, draws⟩
    | .ok tokens =>
      let scope := resolver.coordinateScope graph tokens
      let (outcome, draws) := resolver.resolveTokens scope.graph flight tokens draws
      ⟨outcome, scope.close, draws⟩

end Resolver

end FlightRoute
