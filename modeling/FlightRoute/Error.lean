/-
**Why a route does not resolve.**

Every failure of a request is a `RouteError`. Malformed route texts have a cause of their own
(`GrammarFault`), and so have failures of the procedure data (`StoreFault`). `message` gives the
wording of each.
-/

import FlightRoute.Procedure.Kind

namespace FlightRoute

/-- What is wrong with the text of a route. -/
inductive GrammarFault
  /-- A token has the shape of a coordinate, off the globe. -/
  | coordinateOutOfRange (token : String)
  /-- Two commands stand side by side. -/
  | adjacentCommands (first second : String)
  /-- The segment at a runway has no tokens. -/
  | emptyTerminalSegment (kind : ProcedureKind)
  /-- A literal segment has no tokens. -/
  | emptySegment
  /-- A waypoint is needed where this token stands. -/
  | expectedWaypoint (found : String)
  /-- A procedure stands without its en-route end next to it. -/
  | missingSeam (kind : ProcedureKind) (procedure fix : String)
  /-- The token next to a procedure is not its en-route end. -/
  | wrongSeam (kind : ProcedureKind) (found procedure : String)
  /-- The en-route end is unpublished and nothing stands beyond it. -/
  | missingEnroute (kind : ProcedureKind) (fix procedure : String)
  /-- A literal segment begins or ends with a direct leg. -/
  | danglingDirect
  /-- A direct leg leads to a direct leg. -/
  | repeatedDirect
  /-- An airway does not lead to a waypoint. -/
  | airwayTarget (airway found : String)
  deriving DecidableEq

/-- What is wrong with the procedure data. -/
inductive StoreFault
  /-- A published procedure lists no fixes. -/
  | noFixes (kind : ProcedureKind) (name : String)
  /-- A procedure has no waypoints at all. -/
  | noWaypoints (kind : ProcedureKind) (name : String)
  /-- The data could not be had for another reason. -/
  | unavailable (detail : String)
  deriving DecidableEq

/-- Every way in which a request can fail. -/
inductive RouteError
  /-- The text of the route is malformed. -/
  | grammar (fault : GrammarFault)
  /-- An identifier that has to resolve is not in the graph. -/
  | unresolvedReference (ident : String)
  /-- The graph does not connect the two ends. -/
  | noPath (origin destination : String)
  /-- Two fragments do not share their seam waypoint. -/
  | connectionMismatch (left right : String)
  /-- A route of fewer than two waypoints has no distance. -/
  | routeTooShort
  /-- The airport has no such runway. -/
  | unknownRunway (icao runway : String)
  /-- The procedure is not published for the runway. -/
  | procedureNotFound (name runway : String)
  /-- The procedure data failed otherwise. -/
  | store (fault : StoreFault)
  /-- The search was called off. -/
  | cancelled
  /-- Nothing has this index: no node, no edge, no link. -/
  | outOfRange (index : Nat)
  deriving DecidableEq

namespace GrammarFault

/-- How a fault in a route text is worded. -/
def message : GrammarFault → String
  | coordinateOutOfRange token => s!"coordinate {token} is out of range"
  | adjacentCommands first second => s!"{first} cannot be followed by {second}"
  | emptyTerminalSegment .sid => "empty route segment after origin"
  | emptyTerminalSegment .star => "empty route segment before destination"
  | emptySegment => "empty route segment"
  | expectedWaypoint found => s!"expected a waypoint, found {found}"
  | missingSeam .sid procedure fix =>
    s!"SID {procedure} must be followed by its last waypoint {fix}"
  | missingSeam .star procedure fix =>
    s!"STAR {procedure} must be preceded by its first waypoint {fix}"
  | wrongSeam .sid found procedure =>
    s!"{found} is not the last waypoint of the SID {procedure}"
  | wrongSeam .star found procedure =>
    s!"{found} is not the first waypoint of the STAR {procedure}"
  | missingEnroute .sid fix procedure =>
    s!"{fix} is not a published waypoint; SID {procedure} needs an en-route waypoint after it"
  | missingEnroute .star fix procedure =>
    s!"{fix} is not a published waypoint; STAR {procedure} needs an en-route waypoint before it"
  | danglingDirect => "DCT must sit between two waypoints"
  | repeatedDirect => "DCT cannot be followed by DCT"
  | airwayTarget airway found =>
    s!"airway {airway} must be followed by a waypoint, found {found}"

end GrammarFault

namespace StoreFault

/-- How a fault in the procedure data is worded. -/
def message : StoreFault → String
  | noFixes kind name => s!"{kind.abbreviation} {name} has no fixes"
  | noWaypoints kind name => s!"{kind.abbreviation} {name} has no waypoints"
  | unavailable detail => detail

end StoreFault

namespace RouteError

/-- How a failure is worded. -/
def message : RouteError → String
  | grammar fault => s!"invalid route: {fault.message}"
  | unresolvedReference ident => s!"waypoint {ident} not found"
  | noPath origin destination => s!"no path from {origin} to {destination}"
  | connectionMismatch left right =>
    s!"cannot connect route ending at {left} to route starting at {right}"
  | routeTooShort => "route needs at least two waypoints to have a distance"
  | unknownRunway icao runway => s!"runway {runway} not found at {icao}"
  | procedureNotFound name runway => s!"procedure {name} not available for runway {runway}"
  | store fault => s!"procedure store failure: {fault.message}"
  | cancelled => "route search cancelled"
  | outOfRange index => s!"index {index} is out of range"

end RouteError

end FlightRoute
