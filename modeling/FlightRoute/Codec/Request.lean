/-
**Requests and settings as JSON.**

A request gives all its members. Settings may leave out any of theirs, which then have their defaults.
-/

import FlightRoute.Json.Reader
import FlightRoute.Json.Record
import FlightRoute.Resolve.Resolver

namespace FlightRoute

open Json (record? text? float? count?)

variable {ν : Type} [JsonNumber ν]

/-- Reads a request. -/
def RouteRequest.ofJson? (value : Json ν) : Option RouteRequest := do
  let record ← record? ["orig_icao", "orig_runway", "dest_icao", "dest_runway", "route"] value
  let originIcao ← record.required? "orig_icao" text?
  let originRunway ← record.required? "orig_runway" text?
  let destinationIcao ← record.required? "dest_icao" text?
  let destinationRunway ← record.required? "dest_runway" text?
  let route ← record.required? "route" text?
  return { originIcao, originRunway, destinationIcao, destinationRunway, route }

/-- Reads settings. -/
def SearchSettings.ofJson? (value : Json ν) : Option SearchSettings := do
  let names := ["terminal_link_count", "coordinate_link_count", "random_max_attempts",
    "random_max_steps", "random_progress_bias"]
  let defaults : SearchSettings := {}
  let record ← record? names value
  let terminalLinks ← record.optional? "terminal_link_count" count? defaults.terminalLinks
  let coordinateLinks ← record.optional? "coordinate_link_count" count? defaults.coordinateLinks
  let randomAttempts ← record.optional? "random_max_attempts" count? defaults.randomAttempts
  let randomSteps ← record.optional? "random_max_steps" count? defaults.randomSteps
  let progressBias ← record.optional? "random_progress_bias" float? defaults.progressBias
  return { terminalLinks, coordinateLinks, randomAttempts, randomSteps, progressBias }

/-- Reads the text of settings. -/
def SearchSettings.parse (text : String) : Option SearchSettings := do
  SearchSettings.ofJson? (← Json.parse text)

end FlightRoute
