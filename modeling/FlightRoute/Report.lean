/-
**Reports of routes.**

As a text a route is one line per leg, `FROM -AWY(length)-> TO`, with the waypoints inside a procedure
in brackets, and a line with the total. Lengths have one decimal place. As JSON it is the route with
its total, which is nothing when the route is too short.
-/

import FlightRoute.Codec.Route
import FlightRoute.Decimal.Fixed
import FlightRoute.Distance.GreatCircle

namespace FlightRoute.Report

/-- A length with one decimal place. -/
def length (distance : Float) : String := Decimal.fixed 1 distance

/-- The waypoints inside a leg. -/
def innerText (inner : List Waypoint) : String :=
  if inner.isEmpty then "" else " [" ++ " ".intercalate (inner.map (·.ident)) ++ "]"

/-- The line of a leg between two waypoints. -/
def legLine (start : Waypoint) (leg : Leg Float) (finish : Waypoint) : String :=
  s!"{start.ident} -{leg.airway}({length leg.distance})-> {finish.ident}" ++
    innerText leg.inner ++ "\n"

/-- The lines of all legs between neighbouring nodes. -/
def legLines : List (RouteNode Float) → List String
  | first :: second :: rest =>
    match first.leg with
    | some leg => legLine first.waypoint leg second.waypoint :: legLines (second :: rest)
    | none => legLines (second :: rest)
  | _ => []

/-- The line of the total. -/
def totalLine (route : Route Float) : String :=
  match route.totalDistance with
  | .ok total => s!"Total: {length total} nm\n"
  | .error failure => s!"Total: n/a ({failure.message})\n"

/-- A route as a text. -/
def text (route : Route Float) : String :=
  String.join (legLines route.nodes) ++ totalLine route

/-- The total as JSON. -/
def totalJson (route : Route Float) : Json Float :=
  match route.totalDistance with
  | .ok total => .ofFloat total
  | .error _ => .null

/-- A route with its total as JSON. -/
def json (route : Route Float) : Json Float :=
  .object [("route", route.toJson), ("distance_nm", totalJson route)]

end FlightRoute.Report
