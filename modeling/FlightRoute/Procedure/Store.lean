/-
**Published procedures.**

The resolver asks a `ProcedureStore` for the procedures of a runway. A store answers for a name that is
not published for the runway with `procedureNotFound`; any other error is a failure of the store.
`ProcedureTable` is a store in memory: of several entries that fit, the first one counts.
-/

import FlightRoute.Airport
import FlightRoute.Procedure.Basic

namespace FlightRoute

/-- Where procedures come from. -/
structure ProcedureStore (α : Type) where
  /-- The procedure of a kind and a name for a runway. -/
  procedure : Runway → ProcedureKind → String → Except RouteError (Procedure α)
  /-- The names of all procedures of a kind for a runway. -/
  names : Runway → ProcedureKind → List String

namespace ProcedureStore

/-- The procedure of a name, none when it is not published for the runway. -/
def procedure? {α : Type} (store : ProcedureStore α) (runway : Runway) (kind : ProcedureKind)
    (name : String) : Except RouteError (Option (Procedure α)) :=
  match store.procedure runway kind name with
  | .ok procedure => .ok (some procedure)
  | .error (.procedureNotFound _ _) => .ok none
  | .error failure => .error failure

end ProcedureStore

/-- A procedure as it is published, for some runways of an airport. -/
structure ProcedureEntry where
  icao : String
  kind : ProcedureKind
  name : String
  runways : List String
  /-- Its fixes in flying order, without the runway. -/
  fixes : List Waypoint

/-- Published procedures in the order of their publication. -/
structure ProcedureTable where
  entries : List ProcedureEntry

namespace ProcedureTable

/-- No procedures. -/
def empty : ProcedureTable := ⟨[]⟩

/-- Publishes one more procedure. -/
def insert (table : ProcedureTable) (entry : ProcedureEntry) : ProcedureTable :=
  ⟨table.entries ++ [entry]⟩

end ProcedureTable

/-- Whether an entry is a procedure of this kind for the runway. -/
def ProcedureEntry.serves (entry : ProcedureEntry) (runway : Runway) (kind : ProcedureKind) : Bool :=
  entry.icao == runway.icao && entry.kind == kind && entry.runways.contains runway.designator

namespace ProcedureTable

variable {α : Type}

/-- The first entry of this kind and name for the runway. -/
def entry? (table : ProcedureTable) (runway : Runway) (kind : ProcedureKind) (name : String) :
    Option ProcedureEntry :=
  table.entries.find? fun entry => entry.serves runway kind && entry.name == name

/-- The procedure of this kind and name for the runway. One without fixes is a failure. -/
def procedure [Distance α] (table : ProcedureTable) (runway : Runway) (kind : ProcedureKind)
    (name : String) : Except RouteError (Procedure α) :=
  match table.entry? runway kind name with
  | none => .error (.procedureNotFound name runway.designator)
  | some entry =>
    if entry.fixes.isEmpty then .error (.store (.noFixes kind name))
    else .ok (Procedure.ofFixes name kind entry.fixes runway.threshold)

/-- The names of all entries of this kind for the runway, in order. -/
def names (table : ProcedureTable) (runway : Runway) (kind : ProcedureKind) : List String :=
  (table.entries.filter fun entry => entry.serves runway kind).map (·.name)

/-- The table as a store. -/
def store [Distance α] (table : ProcedureTable) : ProcedureStore α := ⟨table.procedure, table.names⟩

end ProcedureTable

end FlightRoute
