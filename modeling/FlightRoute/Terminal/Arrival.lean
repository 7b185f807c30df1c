/-
**Arrivals.**

The ways to reach a runway are those to leave it, seen from the other end: the tokens are read from
the last one on, and the route is flown towards the runway.

1. The last token is no arrival of the runway: the route is the direct leg from the waypoint that the
   token names, and all tokens stay.
2. It is an arrival whose first waypoint the graph knows: the route is the arrival from the graph's
   copy of that waypoint, and the name is taken off.
3. It is an arrival whose first waypoint only the procedure knows: the route comes directly from the
   waypoint before, and name, first waypoint and a direct leg before it are taken off.

In each the last token that stays names the first waypoint of the route.
-/

import FlightRoute.Terminal.Basic

namespace FlightRoute.Terminal

variable {α : Type} [Distance α]

/-- Reaches the runway directly from a waypoint. -/
def directArrival (terminal : Terminal α) (last : Token) (tokens : List Token) :
    Except RouteError (Extraction α) := do
  let finish := terminal.runway.threshold
  let waypoint ← terminal.waypointOf last
  return ⟨tokens, .ofLeg waypoint (.direct (Distance.between waypoint finish)) finish⟩

/-- Reaches the runway by an arrival that begins at `entry`, off the graph, from the last waypoint
before it. The tokens come in reverse. -/
def bridgedArrival (terminal : Terminal α) (star : Procedure α) (entry : Waypoint)
    (before : List Token) : Except RouteError (Extraction α) :=
  match skipDirect before with
  | [] => .error (.grammar (.missingEnroute .star entry.ident star.name))
  | enroute :: rest => do
    let waypoint ← terminal.waypointOf enroute
    return ⟨(enroute :: rest).reverse,
      ⟨[{ waypoint, leg := some (.direct (Distance.between waypoint entry)) },
        { waypoint := entry, leg := some star.leg },
        .final terminal.runway.threshold]⟩⟩

/-- Reaches the runway by an arrival whose name stands behind the tokens, which come in reverse. -/
def procedureArrival (terminal : Terminal α) (star : Procedure α) (tokens : List Token) :
    Except RouteError (Extraction α) :=
  match star.first? with
  | none => .error (.store (.noWaypoints .star star.name))
  | some entry =>
    match tokens with
    | [] => .error (.grammar (.missingSeam .star star.name entry.ident))
    | seam :: before =>
      if seam.text ≠ entry.ident then .error (.grammar (.wrongSeam .star seam.text star.name))
      else do
        match ← terminal.graphCopy entry with
        | some copy =>
          return ⟨(seam :: before).reverse, .ofLeg copy star.leg terminal.runway.threshold⟩
        | none => terminal.bridgedArrival star entry before

/-- The route from the network to the runway, and the tokens before it. -/
def arrival (terminal : Terminal α) (tokens : List Token) : Except RouteError (Extraction α) :=
  match tokens.reverse with
  | [] => .error (.grammar (.emptyTerminalSegment .star))
  | last :: before => do
    match ← terminal.procedureOf .star last with
    | some star => terminal.procedureArrival star before
    | none => terminal.directArrival last tokens

end FlightRoute.Terminal
