/-
**Lengths in order.**

Queues and sorted lists compare lengths by `Distance.order`. `Distance.Ordered` says that it is an order:
of two lengths one comes first or they are level, and what comes before a length comes before all that
follow it. Exact numbers are compared as numbers; floats by their rank, where even what is no number has
its place. No float is shorter than itself.
-/

import Mathlib.Order.Compare
import FlightRoute.Distance.GreatCircle
import FlightRoute.Proofs.Distance.Exact
import FlightRoute.Proofs.Waypoint

namespace FlightRoute.Distance

/-- Lengths that `Distance.order` puts in an order. -/
class Ordered (α : Type) [Distance α] : Prop where
  transCmp : Std.TransCmp (Distance.order (α := α))

instance instOrderedFloat : Ordered Float where
  transCmp := inferInstanceAs (Std.TransCmp (compareOn rank))

instance instIrreflexiveFloat : Irreflexive Float where
  lt_self a := decide_eq_false (float_not_lt_self a)

instance instOrderedExact {α : Type} [Distance α] [AddCommMonoid α] [LinearOrder α] [Exact α] :
    Ordered α where
  transCmp := by
    have same : (Distance.order (α := α)) = compare := funext fun a => funext fun b => order_eq a b
    rw [same]
    infer_instance

end FlightRoute.Distance
