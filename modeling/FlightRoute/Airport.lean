/-
**Airports and their runways.**

A runway is where a flight begins or ends. Its threshold is a waypoint whose identifier is the code of
the airport and the designator of the runway.
-/

import Std.Data.HashMap
import FlightRoute.Error
import FlightRoute.Waypoint

namespace FlightRoute

/-- A runway of an airport. -/
structure Runway where
  icao : String
  designator : String
  threshold : Waypoint

/-- Runway thresholds by airport and runway. -/
structure AirportTable where
  thresholds : Std.HashMap (String × String) Waypoint

namespace AirportTable

/-- No runways. -/
def empty : AirportTable := ⟨∅⟩

/-- Registers a runway, in place of one with the same airport and designator. -/
def insert (table : AirportTable) (icao designator : String) (lat lon : Float) : AirportTable :=
  ⟨table.thresholds.insert (icao, designator) ⟨icao ++ designator, lat, lon⟩⟩

/-- The runway of an airport. -/
def runway (table : AirportTable) (icao designator : String) : Except RouteError Runway :=
  match table.thresholds[(icao, designator)]? with
  | some threshold => .ok { icao, designator, threshold }
  | none => .error (.unknownRunway icao designator)

end AirportTable

end FlightRoute
