/-
**Literal runs.**

A run of tokens `WPT ((AWY | DCT) WPT | WPT)*` is followed from waypoint to waypoint. Two waypoints side
by side, or around `DCT`, make a direct leg. An airway between two waypoints is flown along its edges,
so that every fix on the way appears in the route. Which waypoint an identifier means is decided by
what is near; the first and the last one may be pinned.

* `nodeOf`: the node that a token means;
* `follow`: the route along the rest of the tokens;
* `resolve`: the route along all of them.
-/

import FlightRoute.Route.Connect
import FlightRoute.ShortestRoute

namespace FlightRoute

/-- What is needed to follow a literal run. -/
structure LiteralRun (α : Type) where
  graph : Graph α
  /-- Decides which waypoint the first token means when it is not pinned. -/
  reference : Waypoint
  /-- What the first token means, when the identifiers match. -/
  firstPin : Option Waypoint := none
  /-- What the last token means, when the identifiers match. -/
  lastPin : Option Waypoint := none
  cancel : Option CancelFlag := none

namespace LiteralRun

variable {α : Type}

/-- The node of an exact waypoint. -/
def nodeOfWaypoint (run : LiteralRun α) (waypoint : Waypoint) : Except RouteError Nat :=
  match run.graph.byWaypoint? waypoint with
  | some node => .ok node
  | none => .error (.unresolvedReference waypoint.ident)

/-- The pin of a token: the last one, if the token is the last and bears its identifier. -/
def pinFor (run : LiteralRun α) (isLast : Bool) (token : Token) : Option Waypoint :=
  run.lastPin.filter fun pin => isLast && pin.ident == token.text

variable [Distance α]

/-- The node that a token means: the pin if it bears its identifier, a literal coordinate its own
node, otherwise the closest one of that identifier. -/
def nodeOf (run : LiteralRun α) (token : Token) (near : Waypoint) (pin : Option Waypoint) :
    Except RouteError Nat :=
  if !token.isWaypoint then .error (.grammar (.expectedWaypoint token.text))
  else
    match pin.filter (fun pin => pin.ident == token.text), token.coordinateWaypoint with
    | some pin, _ => run.nodeOfWaypoint pin
    | none, some exact => run.nodeOfWaypoint exact
    | none, none =>
      match run.graph.closestByIdent? token.text near with
      | some node => .ok node
      | none => .error (.unresolvedReference token.text)

/-- A direct leg from a node to the one that a token means. -/
def directLeg (run : LiteralRun α) (current : Nat) (route : Route α) (token : Token)
    (isLast : Bool) : Except RouteError (Nat × Route α) := do
  let near ← run.graph.waypoint current
  let next ← run.nodeOf token near (run.pinFor isLast token)
  return (next, route.pushBack (← run.graph.waypoint next) direct none)

omit [Distance α] in
/-- The nodes that the token behind an airway may mean. -/
def airwayTargets (run : LiteralRun α) (target : Token) (isLast : Bool) :
    Except RouteError (List Nat) :=
  match run.pinFor isLast target, target.coordinateWaypoint with
  | some pin, _ => do return [← run.nodeOfWaypoint pin]
  | none, some exact => do return [← run.nodeOfWaypoint exact]
  | none, none =>
    let nodes := (run.graph.allByIdent target.text).toList
    if nodes.isEmpty then .error (.unresolvedReference target.text) else .ok nodes

/-- A leg along an airway from a node to the closest one that a token may mean. -/
def airwayLeg (run : LiteralRun α) (current : Nat) (route : Route α) (airway : String)
    (target : Token) (isLast : Bool) : Except RouteError (Nat × Route α) := do
  if !target.isWaypoint then throw (.grammar (.airwayTarget airway target.text))
  let candidates ← run.airwayTargets target isLast
  let leg ← ShortestRoute.alongAirway run.graph current candidates airway run.cancel
  match leg.last?.bind run.graph.byWaypoint? with
  | none => throw (.unresolvedReference target.text)
  | some reached => return (reached, ← route.connect leg)

/-- Continues a route that has come to a node along the rest of the tokens. -/
def follow (run : LiteralRun α) (current : Nat) (route : Route α) :
    List Token → Except RouteError (Route α)
  | [] => .ok route
  | .direct :: [] => .error (.grammar .danglingDirect)
  | .direct :: .direct :: _ => .error (.grammar .repeatedDirect)
  | .direct :: next :: rest => do
    let (current, route) ← run.directLeg current route next rest.isEmpty
    run.follow current route rest
  | .ident airway :: target :: rest => do
    if ← run.graph.hasAirway current airway then
      let (current, route) ← run.airwayLeg current route airway target rest.isEmpty
      run.follow current route rest
    else
      let (current, route) ← run.directLeg current route (.ident airway) false
      run.follow current route (target :: rest)
  | token :: rest => do
    let (current, route) ← run.directLeg current route token rest.isEmpty
    run.follow current route rest

omit [Distance α] in
/-- Whether a token is a direct leg. -/
def isDirect : Token → Bool
  | .direct => true
  | _ => false

/-- The route along the tokens. -/
def resolve (run : LiteralRun α) (tokens : List Token) : Except RouteError (Route α) :=
  match tokens with
  | [] => .error (.grammar .emptySegment)
  | first :: rest => do
    if isDirect first || rest.getLast?.any isDirect then throw (.grammar .danglingDirect)
    let pin := run.firstPin.or (if rest.isEmpty then run.lastPin else none)
    let start ← run.nodeOf first run.reference pin
    run.follow start (.single (← run.graph.waypoint start)) rest

end LiteralRun

end FlightRoute
