/-
**One end of a flight.**

At a runway the tokens of a route may begin with a departure or end with an arrival. A `Terminal` knows
what is needed to read them: the graph, the procedures and the runway. An `Extraction` is the route
between the runway and the network, with the tokens that are still to be resolved; the token next to
the runway among them names the waypoint where the two meet.
-/

import FlightRoute.Graph.Lookup
import FlightRoute.Procedure.Store
import FlightRoute.Token

namespace FlightRoute

/-- What is known at one end of a flight. -/
structure Terminal (α : Type) where
  graph : Graph α
  store : ProcedureStore α
  runway : Runway

/-- The route at a runway, and the tokens it leaves. -/
structure Extraction (α : Type) where
  /-- The tokens that are still to be resolved. -/
  remaining : List Token
  /-- The route between the runway and the network. -/
  route : Route α

namespace Terminal

variable {α : Type}

/-- The procedure that a token names, if it is an identifier and names one. -/
def procedureOf (terminal : Terminal α) (kind : ProcedureKind) (token : Token) :
    Except RouteError (Option (Procedure α)) :=
  match token with
  | .ident name => terminal.store.procedure? terminal.runway kind name
  | _ => .ok none

/-- The waypoint that a token stands for: a literal coordinate its own one, an identifier the one
closest to the runway. -/
def waypointOf [Distance α] (terminal : Terminal α) (token : Token) : Except RouteError Waypoint :=
  match token with
  | .coordinate text position =>
    let exact := ⟨text, position.lat, position.lon⟩
    if (terminal.graph.byWaypoint? exact).isSome then .ok exact
    else .error (.unresolvedReference text)
  | .ident ident =>
    match terminal.graph.closestByIdent? ident terminal.runway.threshold with
    | some node => terminal.graph.waypoint node
    | none => .error (.unresolvedReference ident)
  | other => .error (.grammar (.expectedWaypoint other.text))

/-- The graph's copy of the end of a procedure. A namesake elsewhere does not count. -/
def graphCopy [Distance α] (terminal : Terminal α) (fix : Waypoint) :
    Except RouteError (Option Waypoint) :=
  match terminal.graph.sameFix? fix with
  | some node => (terminal.graph.waypoint node).map some
  | none => .ok none

/-- The tokens without a direct leg in front. -/
def skipDirect : List Token → List Token
  | .direct :: rest => rest
  | tokens => tokens

end Terminal

end FlightRoute
