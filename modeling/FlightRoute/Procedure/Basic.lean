/-
**Terminal procedures.**

A procedure is a named sequence of waypoints between a runway and the en-route network: a departure
begins at the runway, an arrival ends there. On a route a whole procedure is one leg.

* `ofFixes`: the procedure of published fixes and a runway;
* `enrouteEnd?`: where the procedure meets the network;
* `leg`: the procedure as a leg.
-/

import FlightRoute.Procedure.Kind
import FlightRoute.Route.Basic

namespace FlightRoute

/-- A waypoint of a procedure and how far it is from the one before. -/
structure ProcedureLeg (α : Type) where
  waypoint : Waypoint
  /-- The distance from the waypoint before; nothing for the first one. -/
  distance : α

/-- A procedure for one runway. -/
structure Procedure (α : Type) where
  name : String
  kind : ProcedureKind
  /-- Its waypoints in flying order. -/
  legs : List (ProcedureLeg α)

namespace Procedure

variable {α : Type}

/-- The fixes in flying order together with the runway. -/
def points (kind : ProcedureKind) (fixes : List Waypoint) (runway : Waypoint) : List Waypoint :=
  match kind with
  | .sid => runway :: fixes
  | .star => fixes ++ [runway]

/-- The legs from one waypoint on to the others. -/
def legsFrom [Distance α] (previous : Waypoint) : List Waypoint → List (ProcedureLeg α)
  | [] => []
  | point :: rest =>
    { waypoint := point, distance := Distance.between previous point } :: legsFrom point rest

/-- The legs along a list of waypoints. -/
def legsAlong [Distance α] : List Waypoint → List (ProcedureLeg α)
  | [] => []
  | first :: rest => { waypoint := first, distance := Distance.zero } :: legsFrom first rest

/-- The procedure of published fixes, with the runway at its end of them. -/
def ofFixes [Distance α] (name : String) (kind : ProcedureKind) (fixes : List Waypoint)
    (runway : Waypoint) : Procedure α :=
  { name, kind, legs := legsAlong (points kind fixes runway) }

/-- The first waypoint. -/
def first? (procedure : Procedure α) : Option Waypoint := procedure.legs.head?.map (·.waypoint)

/-- The last waypoint. -/
def last? (procedure : Procedure α) : Option Waypoint := procedure.legs.getLast?.map (·.waypoint)

/-- The end that meets the en-route network. -/
def enrouteEnd? (procedure : Procedure α) : Option Waypoint :=
  match procedure.kind with
  | .sid => procedure.last?
  | .star => procedure.first?

/-- The length of the whole procedure. -/
def totalDistance [Distance α] (procedure : Procedure α) : α :=
  Distance.total (procedure.legs.map (·.distance))

/-- The waypoints strictly between the first and the last. -/
def inner (procedure : Procedure α) : List Waypoint :=
  (procedure.legs.drop 1).dropLast.map (·.waypoint)

/-- The whole procedure as one leg of a route. -/
def leg [Distance α] (procedure : Procedure α) : Leg α where
  airway := procedure.name
  distance := procedure.totalDistance
  inner := procedure.inner

end Procedure

end FlightRoute
