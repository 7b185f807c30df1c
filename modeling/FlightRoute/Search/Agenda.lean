/-
**The open vertices of a search.**

A search keeps the vertices it has reached and not yet settled in the order of their cost, and of
their number where the costs agree. A vertex may stand there several times; the entries that have been
overtaken are passed over when they come up.
-/

import FlightRoute.Distance

namespace FlightRoute.Search

variable {α : Type} [Distance α]

omit [Distance α] in
/-- A vertex and the cost at which it was reached. -/
structure Entry (α : Type) where
  cost : α
  vertex : Nat

/-- Whether an entry comes up before another, or is equal to it. -/
def Entry.before (a b : Entry α) : Bool :=
  ((Distance.order a.cost b.cost).then (compare a.vertex b.vertex)).isLE

/-- Adds an entry at its place. -/
def enter (entry : Entry α) : List (Entry α) → List (Entry α)
  | [] => [entry]
  | first :: rest =>
    if entry.before first then entry :: first :: rest else first :: enter entry rest

end FlightRoute.Search
