/-
**The two kinds of terminal procedures.**

A departure (SID) leads from a runway into the en-route network, an arrival (STAR) from the network to
a runway.
-/

namespace FlightRoute

/-- Which end of a flight a procedure serves. -/
inductive ProcedureKind
  /-- Standard instrument departure. -/
  | sid
  /-- Standard terminal arrival. -/
  | star
  deriving DecidableEq

namespace ProcedureKind

/-- The usual abbreviation. -/
def abbreviation : ProcedureKind → String
  | sid => "SID"
  | star => "STAR"

end ProcedureKind

end FlightRoute
