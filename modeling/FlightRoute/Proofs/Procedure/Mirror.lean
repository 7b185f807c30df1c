/-
**Procedures that are flown backwards.**

The mirror of a departure is the arrival of the same name and length that has its waypoints in reverse. As a leg
it is the departure in the other direction. A table of procedures has such a mirror when lengths are added
exactly and the distance is symmetric; on floats the sum of the same lengths may depend on the direction.
Failures have a mirror too: what is said of a departure is said of an arrival.

* `RouteError.mirror`, `RouteError.SameKind`: failures at either end of a flight;
* `Procedure.Mirrors.leg_eq`: procedures that mirror each other as legs;
* `Procedure.ofFixes_mirrors`: the procedures of the same fixes in either direction;
* `ProcedureTable.procedure_mirrors`: looking up a name in a table and in its mirror.
-/

import FlightRoute.Procedure.Store
import FlightRoute.Proofs.Distance.Exact
import FlightRoute.Proofs.Except
import FlightRoute.Proofs.Route.Mirror

namespace FlightRoute

variable {α : Type}

/-! ### Failures -/

/-- The other end of a flight. -/
def ProcedureKind.mirror : ProcedureKind → ProcedureKind
  | .sid => .star
  | .star => .sid

/-- The fault at the other end of a flight. -/
def GrammarFault.mirror : GrammarFault → GrammarFault
  | .emptyTerminalSegment kind => .emptyTerminalSegment kind.mirror
  | .missingSeam kind procedure fix => .missingSeam kind.mirror procedure fix
  | .wrongSeam kind found procedure => .wrongSeam kind.mirror found procedure
  | .missingEnroute kind fix procedure => .missingEnroute kind.mirror fix procedure
  | fault => fault

/-- The fault in the procedures at the other end of a flight. -/
def StoreFault.mirror : StoreFault → StoreFault
  | .noFixes kind name => .noFixes kind.mirror name
  | .noWaypoints kind name => .noWaypoints kind.mirror name
  | .unavailable detail => .unavailable detail

namespace RouteError

/-- The failure at the other end of a flight. -/
def mirror : RouteError → RouteError
  | .grammar fault => .grammar fault.mirror
  | .store fault => .store fault.mirror
  | failure => failure

/-- Failures of the same kind, whatever they say. -/
inductive SameKind : RouteError → RouteError → Prop
  | grammar (fault other : GrammarFault) : SameKind (.grammar fault) (.grammar other)
  | unresolvedReference (ident other : String) :
    SameKind (.unresolvedReference ident) (.unresolvedReference other)
  | noPath (origin destination origin' destination' : String) :
    SameKind (.noPath origin destination) (.noPath origin' destination')
  | connectionMismatch (left right left' right' : String) :
    SameKind (.connectionMismatch left right) (.connectionMismatch left' right')
  | routeTooShort : SameKind .routeTooShort .routeTooShort
  | unknownRunway (icao runway icao' runway' : String) :
    SameKind (.unknownRunway icao runway) (.unknownRunway icao' runway')
  | procedureNotFound (name runway name' runway' : String) :
    SameKind (.procedureNotFound name runway) (.procedureNotFound name' runway')
  | store (fault other : StoreFault) : SameKind (.store fault) (.store other)
  | cancelled : SameKind .cancelled .cancelled
  | outOfRange (index other : Nat) : SameKind (.outOfRange index) (.outOfRange other)

theorem sameKind_mirror (failure : RouteError) : failure.SameKind failure.mirror := by
  cases failure <;> constructor

end RouteError

/-! ### Procedures -/

/-- An arrival that is the mirror of a departure: of the same name and length, with the waypoints in reverse. -/
structure Procedure.Mirrors [Distance α] (sid star : Procedure α) : Prop where
  name : star.name = sid.name
  total : star.totalDistance = sid.totalDistance
  waypoints : star.legs.map (·.waypoint) = (sid.legs.map (·.waypoint)).reverse

namespace Procedure.Mirrors

variable [Distance α] {sid star : Procedure α}

/-- The arrival begins where the departure ends. -/
theorem first?_eq (mirrors : sid.Mirrors star) : star.first? = sid.last? := by
  rw [first?, last?, ← List.head?_map, ← List.getLast?_map, mirrors.waypoints, List.head?_reverse]

theorem inner_eq (mirrors : sid.Mirrors star) : star.inner = sid.inner.reverse := by
  simp only [inner, List.drop_one, List.map_dropLast, List.map_tail, mirrors.waypoints,
    List.tail_reverse, List.dropLast_reverse, List.tail_dropLast]

/-- **Procedures that mirror each other** are the same leg, in the one direction and in the other. -/
theorem leg_eq (mirrors : sid.Mirrors star) : star.leg = sid.leg.mirror := by
  unfold leg Leg.mirror
  rw [mirrors.name, mirrors.total, mirrors.inner_eq]

end Procedure.Mirrors

/-! ### Fixes in either direction -/

namespace Procedure

variable [Distance α]

theorem legsFrom_waypoints (previous : Waypoint) (points : List Waypoint) :
    (legsFrom previous points : List (ProcedureLeg α)).map (·.waypoint) = points := by
  induction points generalizing previous with
  | nil => rfl
  | cons point rest ih => rw [legsFrom, List.map_cons, ih]

theorem legsAlong_waypoints (points : List Waypoint) :
    (legsAlong points : List (ProcedureLeg α)).map (·.waypoint) = points := by
  cases points with
  | nil => rfl
  | cons first rest => rw [legsAlong, List.map_cons, legsFrom_waypoints]

/-- One more waypoint is one more leg. -/
theorem legsFrom_concat (previous : Waypoint) (points : List Waypoint) (before last : Waypoint) :
    (legsFrom previous (points ++ [before, last]) : List (ProcedureLeg α)) =
      legsFrom previous (points ++ [before]) ++ [⟨last, Distance.between before last⟩] := by
  induction points generalizing previous with
  | nil => rfl
  | cons point rest ih => exact congrArg (_ :: ·) (ih point)

theorem legsAlong_concat (points : List Waypoint) (before last : Waypoint) :
    (legsAlong (points ++ [before, last]) : List (ProcedureLeg α)) =
      legsAlong (points ++ [before]) ++ [⟨last, Distance.between before last⟩] := by
  cases points with
  | nil => rfl
  | cons first rest => exact congrArg (_ :: ·) (legsFrom_concat first rest before last)

variable [AddCommMonoid α] [LinearOrder α] [Distance.Exact α] [Distance.Symmetric α]

/-- **The length along waypoints** is the same in either direction. -/
theorem total_legsAlong_reverse (points : List Waypoint) :
    Distance.total ((legsAlong points.reverse : List (ProcedureLeg α)).map (·.distance)) =
      Distance.total ((legsAlong points).map (·.distance)) := by
  simp only [Distance.total_eq_sum]
  induction points with
  | nil => rfl
  | cons first rest ih =>
    cases rest with
    | nil => rfl
    | cons second others =>
      have back : (first :: second :: others).reverse = others.reverse ++ [second, first] := by simp
      rw [List.reverse_cons] at ih
      rw [back, legsAlong_concat, List.map_append, List.sum_append, ih, Distance.between_comm]
      simp only [legsAlong, legsFrom, List.map_cons, List.map_nil, List.sum_cons, List.sum_nil,
        Distance.zero_eq, zero_add, add_zero]
      exact add_comm _ _

/-- **The same fixes in either direction** make procedures that mirror each other. -/
theorem ofFixes_mirrors (name : String) (fixes : List Waypoint) (runway : Waypoint) :
    (ofFixes name .sid fixes runway : Procedure α).Mirrors
      (ofFixes name .star fixes.reverse runway) := by
  have back : points .star fixes.reverse runway = (points .sid fixes runway).reverse :=
    List.reverse_cons.symm
  refine ⟨rfl, ?_, ?_⟩
  · unfold totalDistance ofFixes
    rw [back]
    exact total_legsAlong_reverse _
  · unfold ofFixes
    rw [back, legsAlong_waypoints, legsAlong_waypoints]

end Procedure

/-! ### Tables -/

/-- The procedure at the other end of a flight, with its fixes in reverse. -/
def ProcedureEntry.mirror (entry : ProcedureEntry) : ProcedureEntry :=
  { entry with kind := entry.kind.mirror, fixes := entry.fixes.reverse }

namespace ProcedureTable

/-- The procedures in the other direction. -/
def mirror (table : ProcedureTable) : ProcedureTable := ⟨table.entries.map ProcedureEntry.mirror⟩

/-- The first entry of a name is at the same place in the mirror. -/
theorem entry?_mirror (table : ProcedureTable) (runway : Runway) (name : String) :
    table.mirror.entry? runway .star name =
      (table.entry? runway .sid name).map ProcedureEntry.mirror := by
  have serves : ∀ entry : ProcedureEntry,
      entry.mirror.serves runway .star = entry.serves runway .sid := by
    intro entry
    unfold ProcedureEntry.serves ProcedureEntry.mirror
    cases entry.kind <;> rfl
  unfold entry? mirror
  rw [List.find?_map]
  congr 2
  funext entry
  show (entry.mirror.serves runway .star && _) = _
  rw [serves]
  rfl

/-- **Looking up a name** in a table and in its mirror. -/
theorem procedure_mirrors [Distance α] [AddCommMonoid α] [LinearOrder α] [Distance.Exact α]
    [Distance.Symmetric α] (table : ProcedureTable) (runway : Runway) (name : String) :
    Alike RouteError.SameKind Procedure.Mirrors
      (table.procedure runway .sid name : Except RouteError (Procedure α))
      (table.mirror.procedure runway .star name) := by
  unfold procedure
  rw [entry?_mirror]
  cases table.entry? runway .sid name with
  | none => exact .error (.procedureNotFound _ _ _ _)
  | some entry =>
    show Alike _ _ (if entry.fixes.isEmpty then _ else _) (if entry.fixes.reverse.isEmpty then _ else _)
    rw [List.isEmpty_reverse]
    split
    · exact .error (.store _ _)
    · exact .ok (Procedure.ofFixes_mirrors name entry.fixes runway.threshold)

end ProcedureTable

end FlightRoute
