/-
**Segments of a route.**

Between two commands stands a run of other tokens. `group` cuts a token list into commands and
maximal runs, `flatten` puts them together again.
-/

import FlightRoute.RouteString

namespace FlightRoute

/-- A lone command, or a maximal run of tokens that are no commands. -/
inductive Segment
  | literal (tokens : List Token)
  | auto
  | rand

namespace Segment

/-- The segment of a run; an empty run is none. -/
def ofRun (run : List Token) : List Segment :=
  if run.isEmpty then [] else [.literal run]

/-- The segment of a command. -/
def ofCommand : Token → Segment
  | .auto => .auto
  | _ => .rand

/-- Groups the rest of a token list after the token `previous`, where `run` is the literal run in
progress. -/
def groupAfter (previous : Option Token) (run : List Token) :
    List Token → Except RouteError (List Segment)
  | [] => .ok (ofRun run)
  | token :: rest =>
    if token.isCommand then
      match previous.filter Token.isCommand with
      | some command => .error (RouteString.commandClash command token)
      | none => do
        let segments ← groupAfter (some token) [] rest
        return ofRun run ++ ofCommand token :: segments
    else groupAfter (some token) (run ++ [token]) rest

/-- The segments of a token list. -/
def group (tokens : List Token) : Except RouteError (List Segment) := groupAfter none [] tokens

/-- The tokens of a segment. -/
def tokens : Segment → List Token
  | literal run => run
  | auto => [.auto]
  | rand => [.rand]

/-- The tokens of a list of segments. -/
def flatten (segments : List Segment) : List Token := segments.flatMap tokens

end Segment

end FlightRoute
