/-
**Distances.**

Every length in this library is a value of a type `α` with a `Distance` instance: it can be added
and compared, and it measures how far apart two waypoints are. The program runs at the great circle
on floats (`FlightRoute.Distance.GreatCircle`); a statement about exact numbers is a statement about
another instance.

* `Distance.total`: the sum of a list of lengths;
* `closestTo`: the first of several candidates at minimal distance from a reference.
-/

import FlightRoute.Waypoint

namespace FlightRoute

/-- Lengths, how they compare, and how far apart two waypoints are. -/
class Distance (α : Type) where
  /-- The length of no way at all. -/
  zero : α
  /-- Where a sum starts: adding it changes nothing. -/
  neutral : α
  /-- The length of two ways one after the other. -/
  add : α → α → α
  /-- Whether the first length is strictly shorter. -/
  lt : α → α → Bool
  /-- Whether the first length is at most the second. -/
  le : α → α → Bool
  /-- A total order that extends `lt`, for queues and sorting. -/
  order : α → α → Ordering
  /-- Whether a length is below infinity. -/
  bounded : α → Bool
  /-- A waypoint further than this from a fix of the same name is a different fix. -/
  sameFix : α
  /-- How far apart two waypoints are. -/
  between : Waypoint → Waypoint → α

namespace Distance

variable {α : Type} [Distance α]

/-- The sum of the lengths, from the left. -/
def total (lengths : List α) : α := lengths.foldl add neutral

end Distance

variable (α : Type) [Distance α]

/-- One step of `closestTo`: the best position so far stays unless the candidate is nearer. -/
def keepClosest (reference : Waypoint) (best : Option (Nat × α)) (candidate : Waypoint × Nat) :
    Option (Nat × α) :=
  let distance : α := Distance.between candidate.1 reference
  match best with
  | some (position, shortest) =>
    if Distance.le shortest distance then some (position, shortest)
    else some (candidate.2, distance)
  | none => some (candidate.2, distance)

/-- The position of the candidate closest to the reference; of several, the first. -/
def closestTo (candidates : List Waypoint) (reference : Waypoint) : Option Nat :=
  (candidates.zipIdx.foldl (keepClosest α reference) none).map (·.1)

end FlightRoute
