/-
**Routes that are written are read again.**

Writing leaves out what is empty, the inner waypoints of a leg that has none and the leg of a node that has
none; reading takes what is missing for empty. What the numbers are written as does not matter, as long as
each is finite and read as itself (`Keeps`). Nothing is asked of the shape of the route.

* `Route.numbers`: all numbers of a route;
* `list?_renumber`: lists, item by item;
* `Waypoint.ofJson?_toJson`, `Leg.ofJson?_toJson`, `RouteNode.ofJson?_toJson`, `Route.ofJson?_toJson`: what
  is written is read;
* `Route.toJson_legible`: every part of a route that is written can be read.
-/

import FlightRoute.Codec.Route
import FlightRoute.Proofs.Json.RoundTrip

namespace FlightRoute

/-! ### Numbers and lists -/

namespace Json

variable {ν β : Type}

/-- A float is finite, and is read as itself where it is written. -/
structure Keeps [JsonNumber ν] (f : Float → ν) (x : Float) : Prop where
  finite : x.isFinite = true
  read : JsonNumber.toFloat? (f x) = some x

theorem Keeps.float? [JsonNumber ν] {f : Float → ν} {x : Float} (keeps : Keeps f x) :
    float? ((ofFloat x).renumber f) = some x := by
  rw [ofFloat, if_pos keeps.finite]
  exact keeps.read

theorem ofFloat_legible {holds : Float → Prop} {x : Float} (own : holds x) : Legible holds (ofFloat x) := by
  unfold ofFloat
  split
  · exact own
  · trivial

/-- **A list** is read as it is written when every item is. -/
theorem list?_renumber (read : Json ν → Option β) {f : Float → ν} {toJson : β → Json Float} {items : List β}
    (each : ∀ item ∈ items, read ((toJson item).renumber f) = some item) :
    list? read (renumber f (.array (items.map toJson))) = some items := by
  rw [renumber_array]
  show ((items.map toJson).map (renumber f)).mapM read = some items
  induction items with
  | nil => rfl
  | cons item rest ih =>
    obtain ⟨own, further⟩ := List.forall_mem_cons.mp each
    rw [List.map_cons, List.map_cons, List.mapM_cons, own, ih further]
    rfl

end Json

open Json (Keeps Legible float? list? ofFloat renumber)

/-! ### The numbers of a route -/

/-- The numbers of a waypoint. -/
def Waypoint.numbers (waypoint : Waypoint) : List Float := [waypoint.lat, waypoint.lon]

/-- The numbers of a leg. -/
def Leg.numbers (leg : Leg Float) : List Float := leg.distance :: leg.inner.flatMap Waypoint.numbers

/-- The numbers of a node. -/
def RouteNode.numbers (node : RouteNode Float) : List Float :=
  node.waypoint.numbers ++ node.leg.toList.flatMap Leg.numbers

/-- The numbers of a route. -/
def Route.numbers (route : Route Float) : List Float := route.nodes.flatMap RouteNode.numbers

/-! ### Reading what is written -/

section Reading

variable {ν : Type} [JsonNumber ν] {f : Float → ν}

theorem Waypoint.ofJson?_toJson {waypoint : Waypoint} (keeps : ∀ x ∈ waypoint.numbers, Keeps f x) :
    Waypoint.ofJson? (waypoint.toJson.renumber f) = some waypoint := by
  obtain ⟨lat, ahead⟩ := List.forall_mem_cons.mp keeps
  have lon := ahead waypoint.lon List.mem_cons_self
  show (do
    let lat ← float? ((ofFloat waypoint.lat).renumber f)
    let lon ← float? ((ofFloat waypoint.lon).renumber f)
    return ⟨waypoint.ident, lat, lon⟩) = some waypoint
  rw [lat.float?, lon.float?]
  rfl

/-- **A leg** is read as it is written, with inner waypoints or without. -/
theorem Leg.ofJson?_toJson {leg : Leg Float} (keeps : ∀ x ∈ leg.numbers, Keeps f x) :
    Leg.ofJson? (leg.toJson.renumber f) = some leg := by
  obtain ⟨airway, distance, inner⟩ := leg
  obtain ⟨own, further⟩ := List.forall_mem_cons.mp keeps
  cases inner with
  | nil =>
    show (do
      let distance ← float? ((ofFloat distance).renumber f)
      return (⟨airway, distance, []⟩ : Leg Float)) = _
    rw [own.float?]
    rfl
  | cons first rest =>
    have read := Json.list?_renumber Waypoint.ofJson? fun waypoint member =>
      Waypoint.ofJson?_toJson fun x here => further x (List.mem_flatMap.mpr ⟨waypoint, member, here⟩)
    show (do
      let distance ← float? ((ofFloat distance).renumber f)
      let inner ← list? Waypoint.ofJson? (renumber f (.array ((first :: rest).map Waypoint.toJson)))
      return (⟨airway, distance, inner⟩ : Leg Float)) = _
    rw [own.float?, read]
    rfl

/-- **A node** is read as it is written, with a leg or without. -/
theorem RouteNode.ofJson?_toJson {node : RouteNode Float} (keeps : ∀ x ∈ node.numbers, Keeps f x) :
    RouteNode.ofJson? (node.toJson.renumber f) = some node := by
  obtain ⟨waypoint, leg⟩ := node
  obtain ⟨here, ahead⟩ := List.forall_mem_append.mp keeps
  have own := Waypoint.ofJson?_toJson here
  cases leg with
  | none =>
    show (do
      let waypoint ← Waypoint.ofJson? (waypoint.toJson.renumber f)
      return (⟨waypoint, none⟩ : RouteNode Float)) = _
    rw [own]
    rfl
  | some leg =>
    have further : Leg.ofJson? (leg.toJson.renumber f) = some leg := Leg.ofJson?_toJson fun x member =>
      ahead x (List.mem_flatMap.mpr ⟨leg, List.mem_singleton_self leg, member⟩)
    show (do
      let waypoint ← Waypoint.ofJson? (waypoint.toJson.renumber f)
      let leg ← (Leg.ofJson? (leg.toJson.renumber f)).map some
      return (⟨waypoint, leg⟩ : RouteNode Float)) = _
    rw [own, further]
    rfl

/-- **A route that is written** is read again, well formed or not. -/
theorem Route.ofJson?_toJson {route : Route Float} (keeps : ∀ x ∈ route.numbers, Keeps f x) :
    Route.ofJson? (route.toJson.renumber f) = some route := by
  have read := Json.list?_renumber RouteNode.ofJson? fun node member =>
    RouteNode.ofJson?_toJson fun x here => keeps x (List.mem_flatMap.mpr ⟨node, member, here⟩)
  show (do
    let nodes ← list? RouteNode.ofJson? (renumber f (.array (route.nodes.map RouteNode.toJson)))
    return (⟨nodes⟩ : Route Float)) = _
  rw [read]
  rfl

end Reading

/-! ### Every part can be read -/

section Parts

variable {holds : Float → Prop}

theorem Waypoint.toJson_legible {waypoint : Waypoint} (all : ∀ x ∈ waypoint.numbers, holds x) :
    Legible holds waypoint.toJson := by
  obtain ⟨lat, ahead⟩ := List.forall_mem_cons.mp all
  have lon := ahead waypoint.lon List.mem_cons_self
  exact ⟨trivial, Json.ofFloat_legible lat, Json.ofFloat_legible lon, trivial⟩

theorem Leg.toJson_legible {leg : Leg Float} (all : ∀ x ∈ leg.numbers, holds x) :
    Legible holds leg.toJson := by
  obtain ⟨own, further⟩ := List.forall_mem_cons.mp all
  unfold Leg.toJson
  split
  · exact ⟨trivial, Json.ofFloat_legible own, trivial⟩
  · refine ⟨trivial, Json.ofFloat_legible own, Json.legibleItems_map fun waypoint member => ?_, trivial⟩
    exact Waypoint.toJson_legible fun x here => further x (List.mem_flatMap.mpr ⟨waypoint, member, here⟩)

theorem RouteNode.toJson_legible {node : RouteNode Float} (all : ∀ x ∈ node.numbers, holds x) :
    Legible holds node.toJson := by
  obtain ⟨waypoint, leg⟩ := node
  obtain ⟨here, ahead⟩ := List.forall_mem_append.mp all
  cases leg with
  | none => exact ⟨Waypoint.toJson_legible here, trivial⟩
  | some leg =>
    have further : Legible holds leg.toJson := Leg.toJson_legible fun x member =>
      ahead x (List.mem_flatMap.mpr ⟨leg, List.mem_singleton_self leg, member⟩)
    exact ⟨Waypoint.toJson_legible here, further, trivial⟩

/-- **Every part of a route that is written** can be read. -/
theorem Route.toJson_legible {route : Route Float} (all : ∀ x ∈ route.numbers, holds x) :
    Legible holds route.toJson := by
  refine ⟨Json.legibleItems_map fun node member => ?_, trivial⟩
  exact RouteNode.toJson_legible fun x here => all x (List.mem_flatMap.mpr ⟨node, member, here⟩)

end Parts

end FlightRoute
