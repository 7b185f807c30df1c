/-
**Snapshots as JSON.**

Every list of a snapshot may be missing. An airway need not give its length, and goes both ways unless
it says otherwise.
-/

import FlightRoute.Codec.Route
import FlightRoute.Json.Reader
import FlightRoute.Snapshot

namespace FlightRoute

open Json (record? text? float? list? option? bool? count? tag?)

variable {ν : Type} [JsonNumber ν]

/-- Reads an airway. -/
def AirwayRecord.ofJson? (value : Json ν) : Option (AirwayRecord Float) := do
  let record ← record? ["from", "to", "airway", "distance_nm", "one_way"] value
  let source ← record.required? "from" count?
  let target ← record.required? "to" count?
  let airway ← record.required? "airway" text?
  let distance ← record.optional? "distance_nm" (option? float?) none
  let oneWay ← record.optional? "one_way" bool? false
  return { source, target, airway, distance, oneWay }

omit [JsonNumber ν] in
/-- Reads the kind of a procedure. -/
def ProcedureKind.ofJson? (value : Json ν) : Option ProcedureKind :=
  match tag? value with
  | some "sid" => some .sid
  | some "star" => some .star
  | _ => none

/-- Reads a runway. -/
def RunwayRecord.ofJson? (value : Json ν) : Option RunwayRecord := do
  let record ← record? ["icao", "runway", "lat", "lon"] value
  let icao ← record.required? "icao" text?
  let designator ← record.required? "runway" text?
  let lat ← record.required? "lat" float?
  let lon ← record.required? "lon" float?
  return { icao, designator, lat, lon }

/-- Reads a procedure. -/
def ProcedureEntry.ofJson? (value : Json ν) : Option ProcedureEntry := do
  let record ← record? ["icao", "kind", "name", "runways", "fixes"] value
  let icao ← record.required? "icao" text?
  let kind ← record.required? "kind" ProcedureKind.ofJson?
  let name ← record.required? "name" text?
  let runways ← record.required? "runways" (list? text?)
  let fixes ← record.required? "fixes" (list? Waypoint.ofJson?)
  return { icao, kind, name, runways, fixes }

/-- Reads a snapshot. -/
def Snapshot.ofJson? (value : Json ν) : Option (Snapshot Float) := do
  let record ← record? ["waypoints", "airways", "runways", "procedures"] value
  let waypoints ← record.optional? "waypoints" (list? Waypoint.ofJson?) []
  let airways ← record.optional? "airways" (list? AirwayRecord.ofJson?) []
  let runways ← record.optional? "runways" (list? RunwayRecord.ofJson?) []
  let procedures ← record.optional? "procedures" (list? ProcedureEntry.ofJson?) []
  return { waypoints, airways, runways, procedures }

/-- Reads the text of a snapshot. -/
def Snapshot.parse (text : String) : Option (Snapshot Float) := do
  Snapshot.ofJson? (← Json.parse text)

end FlightRoute
