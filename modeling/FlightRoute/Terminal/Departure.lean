/-
**Departures.**

There are three ways to leave a runway.

1. The first token is no departure of the runway: the route is the direct leg to the waypoint that the
   token names, and all tokens stay.
2. It is a departure whose last waypoint the graph knows: the route is the departure up to the graph's
   copy of that waypoint, and the name is taken off.
3. It is a departure whose last waypoint only the procedure knows: the route goes on directly to the
   next waypoint, and name, last waypoint and a direct leg behind it are taken off.

In each the first token that stays names the last waypoint of the route.
-/

import FlightRoute.Terminal.Basic

namespace FlightRoute.Terminal

variable {α : Type} [Distance α]

/-- Leaves the runway directly for a waypoint. -/
def directDeparture (terminal : Terminal α) (first : Token) (tokens : List Token) :
    Except RouteError (Extraction α) := do
  let start := terminal.runway.threshold
  let waypoint ← terminal.waypointOf first
  return ⟨tokens, .ofLeg start (.direct (Distance.between start waypoint)) waypoint⟩

/-- Leaves the runway by a departure that ends at `exit`, off the graph, for the first waypoint
beyond it. -/
def bridgedDeparture (terminal : Terminal α) (sid : Procedure α) (exit : Waypoint)
    (beyond : List Token) : Except RouteError (Extraction α) :=
  match skipDirect beyond with
  | [] => .error (.grammar (.missingEnroute .sid exit.ident sid.name))
  | enroute :: rest => do
    let waypoint ← terminal.waypointOf enroute
    return ⟨enroute :: rest,
      ⟨[{ waypoint := terminal.runway.threshold, leg := some sid.leg },
        { waypoint := exit, leg := some (.direct (Distance.between exit waypoint)) },
        .final waypoint]⟩⟩

/-- Leaves the runway by a departure whose name stands in front of the tokens. -/
def procedureDeparture (terminal : Terminal α) (sid : Procedure α) (tokens : List Token) :
    Except RouteError (Extraction α) :=
  match sid.last? with
  | none => .error (.store (.noWaypoints .sid sid.name))
  | some exit =>
    match tokens with
    | [] => .error (.grammar (.missingSeam .sid sid.name exit.ident))
    | seam :: beyond =>
      if seam.text ≠ exit.ident then .error (.grammar (.wrongSeam .sid seam.text sid.name))
      else do
        match ← terminal.graphCopy exit with
        | some copy =>
          return ⟨seam :: beyond, .ofLeg terminal.runway.threshold sid.leg copy⟩
        | none => terminal.bridgedDeparture sid exit beyond

/-- The route from the runway into the network, and the tokens behind it. -/
def departure (terminal : Terminal α) (tokens : List Token) : Except RouteError (Extraction α) :=
  match tokens with
  | [] => .error (.grammar (.emptyTerminalSegment .sid))
  | first :: rest => do
    match ← terminal.procedureOf .sid first with
    | some sid => terminal.procedureDeparture sid rest
    | none => terminal.directDeparture first tokens

end FlightRoute.Terminal
