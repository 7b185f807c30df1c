/-
**Routes that are flown backwards.**

The mirror of a route has its waypoints in reverse. Every leg moves to the node at its other end, and the fixes
that it passes are turned around as well. On well-formed routes that is undone by doing it again.

* `Runs.mirror`: the mirror runs back;
* `WellFormed.mirror_mirror`: the mirror of the mirror.
-/

import FlightRoute.Proofs.Route.Junction

namespace FlightRoute

/-- The leg in the other direction. -/
def Leg.mirror {α : Type} (leg : Leg α) : Leg α := { leg with inner := leg.inner.reverse }

@[simp]
theorem Leg.mirror_mirror {α : Type} (leg : Leg α) : leg.mirror.mirror = leg := by
  unfold Leg.mirror
  rw [List.reverse_reverse]

namespace Route

variable {α : Type} {route : Route α} {nodes : List (RouteNode α)} {start finish : Waypoint}

/-- The nodes in the other direction; what one of them led to now leads to it. -/
def mirrorNodes : List (RouteNode α) → List (RouteNode α)
  | [] => []
  | ⟨waypoint, none⟩ :: rest => mirrorNodes rest ++ [.final waypoint]
  | ⟨waypoint, some leg⟩ :: rest => withLastLeg leg.mirror (mirrorNodes rest) ++ [.final waypoint]

/-- The route in the other direction. -/
def mirror (route : Route α) : Route α := ⟨mirrorNodes route.nodes⟩

/-- A mirror runs back. -/
theorem Runs.mirror (runs : Runs start nodes finish) : Runs finish (mirrorNodes nodes) start := by
  induction runs with
  | final waypoint => exact .final waypoint
  | @leg start next finish nodes leg runs ih => exact ih.withLastLeg leg.mirror start

/-! ### There and back -/

/-- In the mirror a waypoint that is added at the end stands in front. -/
theorem Runs.mirrorNodes_extend (runs : Runs start nodes finish) (leg : Leg α) (waypoint : Waypoint) :
    mirrorNodes (Route.withLastLeg leg nodes ++ [.final waypoint]) =
      ⟨waypoint, some leg.mirror⟩ :: mirrorNodes nodes := by
  induction runs with
  | final start => rfl
  | leg first runs ih =>
    rw [withLastLeg_cons _ _ runs.ne_nil, List.cons_append, mirrorNodes, ih,
      withLastLeg_cons _ _ runs.mirror.ne_nil]
    rfl

theorem Runs.mirrorNodes_mirrorNodes (runs : Runs start nodes finish) :
    mirrorNodes (mirrorNodes nodes) = nodes := by
  induction runs with
  | final waypoint => rfl
  | @leg start next finish nodes leg runs ih =>
    show mirrorNodes (Route.withLastLeg leg.mirror (mirrorNodes nodes) ++ [.final start]) = _
    rw [runs.mirror.mirrorNodes_extend, ih, Leg.mirror_mirror]

/-- **The mirror of the mirror** of a well-formed route is the route. -/
theorem WellFormed.mirror_mirror (formed : route.WellFormed) : route.mirror.mirror = route := by
  obtain ⟨nodes⟩ := route
  by_cases empty : nodes = []
  · rw [empty]
    rfl
  · obtain ⟨start, finish, runs⟩ := formed.isPath empty
    exact congrArg Route.mk runs.mirrorNodes_mirrorNodes

end Route

end FlightRoute
