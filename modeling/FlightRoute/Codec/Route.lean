/-
**Routes as JSON.**

A waypoint is a record of identifier, latitude and longitude; a leg one of airway, length and inner
waypoints, which are left out when there are none; a node one of waypoint and leg, which is left out
on the last node; a route the list of its nodes.

* `Waypoint.toJson`, `Leg.toJson`, `RouteNode.toJson`, `Route.toJson`: writing;
* `Waypoint.ofJson?`, `Leg.ofJson?`, `RouteNode.ofJson?`, `Route.ofJson?`: reading.
-/

import FlightRoute.Json.Record
import FlightRoute.Route.Basic

namespace FlightRoute

open Json (ofFloat record? text? float? list? option?)

variable {ν : Type} [JsonNumber ν]

/-- A waypoint as JSON. -/
def Waypoint.toJson (waypoint : Waypoint) : Json Float :=
  .object [("ident", .text waypoint.ident), ("lat", ofFloat waypoint.lat),
    ("lon", ofFloat waypoint.lon)]

/-- Reads a waypoint. -/
def Waypoint.ofJson? (value : Json ν) : Option Waypoint := do
  let record ← record? ["ident", "lat", "lon"] value
  let ident ← record.required? "ident" text?
  let lat ← record.required? "lat" float?
  let lon ← record.required? "lon" float?
  return { ident, lat, lon }

/-- A leg as JSON. -/
def Leg.toJson (leg : Leg Float) : Json Float :=
  .object <|
    [("airway", .text leg.airway), ("distance_nm", ofFloat leg.distance)] ++
      if leg.inner.isEmpty then []
      else [("inner_waypoints", .array (leg.inner.map Waypoint.toJson))]

/-- Reads a leg. -/
def Leg.ofJson? (value : Json ν) : Option (Leg Float) := do
  let record ← record? ["airway", "distance_nm", "inner_waypoints"] value
  let airway ← record.required? "airway" text?
  let distance ← record.required? "distance_nm" float?
  let inner ← record.optional? "inner_waypoints" (list? Waypoint.ofJson?) []
  return { airway, distance, inner }

/-- A node as JSON. -/
def RouteNode.toJson (node : RouteNode Float) : Json Float :=
  .object <|
    ("waypoint", node.waypoint.toJson) ::
      match node.leg with
      | some leg => [("neighbor", leg.toJson)]
      | none => []

/-- Reads a node. -/
def RouteNode.ofJson? (value : Json ν) : Option (RouteNode Float) := do
  let record ← record? ["waypoint", "neighbor"] value
  let waypoint ← record.required? "waypoint" Waypoint.ofJson?
  let leg ← record.nullable? "neighbor" (option? Leg.ofJson?)
  return { waypoint, leg }

/-- A route as JSON. -/
def Route.toJson (route : Route Float) : Json Float :=
  .object [("nodes", .array (route.nodes.map RouteNode.toJson))]

/-- Reads a route. -/
def Route.ofJson? (value : Json ν) : Option (Route Float) := do
  let record ← record? ["nodes"] value
  return ⟨← record.required? "nodes" (list? RouteNode.ofJson?)⟩

end FlightRoute
