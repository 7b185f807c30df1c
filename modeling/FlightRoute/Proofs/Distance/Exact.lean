/-
**Lengths that are exact numbers.**

`Distance` says nothing about how lengths add up and compare: on floats a sum is rounded and some
lengths do not compare at all. `Distance.Exact` is the reading of a length as a number: addition and
comparison are those of a linearly ordered monoid, and every length is finite. `Distance.Symmetric`
and `Distance.Nonnegative` are the two laws of a metric that routes rely on; `Distance.Congruent` says
that waypoints that agree are as far from every other. `Distance.Irreflexive` is all that a search
needs in order to end with a way where there is one, and floats have it too.

* `total_eq_sum`: the sum of a list of lengths is their sum as numbers.
-/

import Mathlib.Algebra.BigOperators.Group.List.Basic
import Mathlib.Algebra.Order.Monoid.Defs
import FlightRoute.Distance

namespace FlightRoute.Distance

/-- Lengths that are added and compared exactly. -/
class Exact (α : Type) [Distance α] [AddCommMonoid α] [LinearOrder α] : Prop where
  zero_eq : (Distance.zero : α) = 0
  neutral_eq : (Distance.neutral : α) = 0
  add_eq (a b : α) : Distance.add a b = a + b
  lt_eq (a b : α) : Distance.lt a b = decide (a < b)
  le_eq (a b : α) : Distance.le a b = decide (a ≤ b)
  order_eq (a b : α) : Distance.order a b = compare a b
  bounded_eq (a : α) : Distance.bounded a = true

/-- Two waypoints are as far apart in either direction. -/
class Symmetric (α : Type) [Distance α] : Prop where
  between_comm (a b : Waypoint) : (Distance.between a b : α) = Distance.between b a

/-- No two waypoints are less than nothing apart. -/
class Nonnegative (α : Type) [Distance α] [Zero α] [LE α] : Prop where
  between_nonneg (a b : Waypoint) : 0 ≤ (Distance.between a b : α)

/-- No length is shorter than itself. -/
class Irreflexive (α : Type) [Distance α] : Prop where
  lt_self (a : α) : Distance.lt a a = false

/-- Waypoints that agree are as far from every other waypoint. -/
class Congruent (α : Type) [Distance α] : Prop where
  between_left (a b c : Waypoint) : (a == b) = true →
    (Distance.between a c : α) = Distance.between b c
  between_right (a b c : Waypoint) : (a == b) = true →
    (Distance.between c a : α) = Distance.between c b

export Exact (zero_eq neutral_eq add_eq lt_eq le_eq order_eq bounded_eq)
export Symmetric (between_comm)
export Nonnegative (between_nonneg)
export Irreflexive (lt_self)

variable {α : Type} [Distance α] [AddCommMonoid α] [LinearOrder α] [Exact α]

instance instIrreflexiveExact : Irreflexive α where
  lt_self a := by
    rw [lt_eq]
    exact decide_eq_false (lt_irrefl a)

/-- The sum of lengths is their sum as numbers. -/
theorem total_eq_sum (lengths : List α) : total lengths = lengths.sum := by
  have fold : ∀ start : α, lengths.foldl Distance.add start = start + lengths.sum := by
    induction lengths with
    | nil => intro start; simp
    | cons length rest ih =>
      intro start
      rw [List.foldl_cons, ih, add_eq, List.sum_cons, add_assoc]
  rw [total, fold, neutral_eq, zero_add]

end FlightRoute.Distance
