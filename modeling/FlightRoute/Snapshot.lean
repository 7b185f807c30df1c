/-
**Navigation snapshots.**

A snapshot lists waypoints, airways, runways and procedures. An airway refers to waypoints by their
position in the list and goes both ways unless it says otherwise; a length it does not give is the
distance of its two waypoints.

* `Snapshot.build`: graph and tables of a snapshot, or the first airway that leads nowhere.
-/

import FlightRoute.Graph.Basic
import FlightRoute.Procedure.Store

namespace FlightRoute

/-- An airway between two waypoints. -/
structure AirwayRecord (α : Type) where
  /-- The position of the waypoint it starts from. -/
  source : Nat
  /-- The position of the waypoint it leads to. -/
  target : Nat
  airway : String
  /-- Its length, if that is given. -/
  distance : Option α := none
  oneWay : Bool := false

/-- A runway of an airport. -/
structure RunwayRecord where
  icao : String
  designator : String
  /-- Degrees north of the threshold. -/
  lat : Float
  /-- Degrees east of the threshold. -/
  lon : Float

/-- Navigation data as it is published. -/
structure Snapshot (α : Type) where
  waypoints : List Waypoint := []
  airways : List (AirwayRecord α) := []
  runways : List RunwayRecord := []
  procedures : List ProcedureEntry := []

/-- Everything that the resolver needs. -/
structure Navdata (α : Type) where
  graph : Graph α
  airports : AirportTable
  procedures : ProcedureTable

/-- An airway of a snapshot that leads from or to no waypoint. -/
structure DanglingAirway where
  /-- Its position in the list of airways. -/
  entry : Nat
  airway : String
  source : Nat
  target : Nat
  /-- How many waypoints there are. -/
  loaded : Nat

/-- How the fault is worded. -/
def DanglingAirway.message (fault : DanglingAirway) : String :=
  s!"airway entry {fault.entry} ({fault.airway}) references waypoint {fault.source} -> " ++
    s!"{fault.target}, only {fault.loaded} waypoints loaded"

namespace Snapshot

variable {α : Type} [Distance α]

/-- Adds the airway at a position of the list. -/
def addAirway (graph : Graph α) (entry : AirwayRecord α × Nat) :
    Except DanglingAirway (Graph α) :=
  let record := entry.1
  if record.source < graph.size ∧ record.target < graph.size then
    if record.oneWay then .ok (graph.addEdge record.source record.target record.airway record.distance)
    else .ok (graph.addTwoWayEdge record.source record.target record.airway record.distance)
  else .error ⟨entry.2, record.airway, record.source, record.target, graph.size⟩

/-- The graph of the waypoints and airways. -/
def graph (snapshot : Snapshot α) : Except DanglingAirway (Graph α) :=
  snapshot.airways.zipIdx.foldlM addAirway
    (snapshot.waypoints.foldl Graph.addWaypoint Graph.empty)

/-- The table of the runways. -/
def airports (snapshot : Snapshot α) : AirportTable :=
  snapshot.runways.foldl
    (fun table runway => table.insert runway.icao runway.designator runway.lat runway.lon) .empty

/-- The table of the procedures. -/
def procedureTable (snapshot : Snapshot α) : ProcedureTable :=
  snapshot.procedures.foldl ProcedureTable.insert .empty

/-- Graph and tables of a snapshot. -/
def build (snapshot : Snapshot α) : Except DanglingAirway (Navdata α) := do
  return ⟨← snapshot.graph, snapshot.airports, snapshot.procedureTable⟩

end Snapshot

end FlightRoute
