/-
**Calling a search off.**

A search may be given a flag. Once the flag is raised the search stops with an error at its next
look. Copies of a flag share its state; `CancelBoard` keeps several flags and who shares with whom.
-/

import FlightRoute.Error

namespace FlightRoute

/-- The state of a flag when a search looks at it. -/
structure CancelFlag where
  raised : Bool
  deriving DecidableEq

/-- What a look at the flag gives. -/
def CancelFlag.check (flag : CancelFlag) : Except RouteError Unit :=
  if flag.raised then .error .cancelled else .ok ()

/-- What a look at a flag gives when there may be none. -/
def checkCancel (flag : Option CancelFlag) : Except RouteError Unit :=
  match flag with
  | some flag => flag.check
  | none => .ok ()

/-- Flags by number. Each refers to a shared state. -/
structure CancelBoard where
  /-- The shared states. -/
  states : Array CancelFlag
  /-- Which state each flag refers to. -/
  flags : Array Nat

namespace CancelBoard

/-- No flags. -/
def empty : CancelBoard := ⟨#[], #[]⟩

/-- One more flag, not raised. -/
def create (board : CancelBoard) : CancelBoard :=
  ⟨board.states.push ⟨false⟩, board.flags.push board.states.size⟩

/-- One more flag that shares the state of flag `flag`. -/
def copy (board : CancelBoard) (flag : Nat) : CancelBoard :=
  match board.flags[flag]? with
  | some state => { board with flags := board.flags.push state }
  | none => board

/-- Raises the flag, and with it all that share its state. -/
def cancel (board : CancelBoard) (flag : Nat) : CancelBoard :=
  match board.flags[flag]? with
  | some state => { board with states := board.states.modify state fun _ => ⟨true⟩ }
  | none => board

/-- What a look at each flag gives, by number. -/
def checks (board : CancelBoard) : List (Except RouteError Unit) :=
  board.flags.toList.map fun state => checkCancel board.states[state]?

end CancelBoard

end FlightRoute
