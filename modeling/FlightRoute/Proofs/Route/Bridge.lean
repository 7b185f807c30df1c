/-
**Editing is connecting.**

Waypoints and routes are added at the ends of a route by changing its nodes. The same comes of connecting with
a bridge, the route of the one leg that is new: a route that is added is connected behind the bridge, and a
waypoint is a route of one node. At either end of the bridge a waypoint is compared with itself, so that it must
be made of numbers.

* `append_eq`: a route that another one is added to;
* `connect_bridge`, `bridge_connect`: the bridge behind a route and in front of one;
* `edit_eq_connect`: every way to add something, and the total of what comes of it.
-/

import FlightRoute.Proofs.Route.Junction

namespace FlightRoute.Route

variable {α : Type} [Distance α] {route other : Route α} {start finish last first : Waypoint}
  {airway : String} {distance : Option α}

/-- A new leg between two waypoints; a length that is not given is how far they are apart. -/
def newLeg (start : Waypoint) (airway : String) (distance : Option α) (finish : Waypoint) : Leg α :=
  { airway, distance := distance.getD (Distance.between start finish) }

/-- The route of one new leg. -/
def bridge (start : Waypoint) (airway : String) (distance : Option α) (finish : Waypoint) : Route α :=
  .ofLeg start (newLeg start airway distance finish) finish

/-! ### Nodes -/

/-- The last node of a route leads to what is added. -/
theorem leadTo_of_last? (ends : route.last? = some last) (next : Waypoint) :
    leadTo next airway distance route.nodes =
      route.nodes.dropLast ++ [⟨last, some (newLeg last airway distance next)⟩] := by
  obtain ⟨node, final, rfl⟩ := Option.map_eq_some_iff.mp ends
  unfold leadTo
  rw [final]
  exact withLastLeg_of_last? ends _

/-- A route that another one is added to. -/
theorem append_eq (ends : route.last? = some last) (begins : other.first? = some first) :
    route.append other airway distance =
      ⟨route.nodes.dropLast ++
        ⟨last, some (newLeg last airway distance first)⟩ :: other.nodes⟩ := by
  obtain ⟨nodes⟩ := other
  cases nodes with
  | nil => cases begins
  | cons node rest =>
    cases begins
    show Route.mk (leadTo _ airway distance route.nodes ++ node :: rest) = _
    rw [leadTo_of_last? ends, List.append_assoc]
    rfl

/-! ### Bridges -/

/-- A bridge behind a route. -/
theorem connect_bridge (ends : route.last? = some last) (agrees : (last == last) = true)
    (next : Waypoint) :
    route.connect (bridge last airway distance next) =
      .ok ⟨route.nodes.dropLast ++ [⟨last, some (newLeg last airway distance next)⟩, .final next]⟩ := by
  rw [connect_eq ends rfl, if_pos agrees]
  rfl

/-- A bridge in front of a route. -/
theorem bridge_connect (begins : route.first? = some first) (agrees : (first == first) = true)
    (start : Waypoint) :
    (bridge start airway distance first).connect route =
      .ok ⟨⟨start, some (newLeg start airway distance first)⟩ :: route.nodes⟩ := by
  have ends : (bridge start airway distance first).last? = some first := rfl
  rw [connect_eq ends begins, if_pos agrees]
  rfl

/-- A route that is added is connected behind a bridge. -/
theorem append_eq_connect (ends : route.last? = some last) (begins : other.first? = some first)
    (left : (last == last) = true) (right : (first == first) = true) :
    (route.connect (bridge last airway distance first) >>= fun front => front.connect other) =
      .ok (route.append other airway distance) := by
  have led : (⟨route.nodes.dropLast ++ [⟨last, some (newLeg last airway distance first)⟩,
      .final first]⟩ : Route α).last? = some first := by
    rw [last?, List.getLast?_append]
    rfl
  rw [connect_bridge ends left, ok_bind, connect_eq led begins, if_pos right,
    append_eq ends begins, List.dropLast_append_of_ne_nil (List.cons_ne_nil _ _), List.append_assoc]
  rfl

/-- A waypoint that is put in front of a route is connected by a bridge. -/
theorem pushFront_eq_connect (begins : route.first? = some first) (agrees : (first == first) = true)
    (waypoint : Waypoint) :
    (bridge waypoint airway distance first).connect route =
      .ok (route.pushFront waypoint airway distance) := by
  rw [bridge_connect begins agrees]
  obtain ⟨nodes⟩ := route
  cases nodes with
  | nil => cases begins
  | cons node rest =>
    cases begins
    rfl

/-! ### Totals -/

/-- The legs of a route that another one is added to, with the new one in between. -/
theorem WellFormed.legs_append (front : route.WellFormed) (ends : route.last? = some last)
    (begins : other.first? = some first) :
    (route.append other airway distance).legs =
      route.legs ++ newLeg last airway distance first :: other.legs := by
  rw [append_eq ends begins]
  exact front.legs_rejoin _

/-- On exact numbers the total is that of both routes and the new leg. -/
theorem WellFormed.total_append [AddCommMonoid α] [LinearOrder α] [Distance.Exact α]
    (front : route.WellFormed) (ends : route.last? = some last) (begins : other.first? = some first) :
    (route.append other airway distance).totalDistance =
      .ok ((route.legs.map (·.distance)).sum + distance.getD (Distance.between last first) +
        (other.legs.map (·.distance)).sum) := by
  have more : other.nodes ≠ [] := by
    intro empty
    rw [first?, empty] at begins
    cases begins
  have several : 2 ≤ (route.append other airway distance).length := by
    rw [append_eq ends begins, length, List.length_append, List.length_cons]
    exact Nat.le_add_left_of_le (Nat.succ_le_succ (List.length_pos_iff.mpr more))
  rw [totalDistance_of_le several, front.legs_append ends begins, Distance.total_eq_sum,
    List.map_append, List.map_cons, List.sum_append, List.sum_cons, add_assoc]
  rfl

/-! ### Every way to add something -/

/-- **Editing is connecting.** A route that is added to another one is connected behind a bridge, a waypoint
that is added is a route of one node, and one that is put in front is connected by a bridge. What comes of two
well-formed routes is as long as both and the bridge together. -/
theorem edit_eq_connect (ends : route.last? = some last) (begins : other.first? = some first)
    (left : (last == last) = true) (right : (first == first) = true) (airway : String)
    (distance : Option α) :
    (route.connect (bridge last airway distance first) >>= fun front => front.connect other) =
        .ok (route.append other airway distance) ∧
      (∀ waypoint, route.pushBack waypoint airway distance =
        route.append (.single waypoint) airway distance) ∧
      (∀ waypoint, (bridge waypoint airway distance first).connect other =
        .ok (other.pushFront waypoint airway distance)) ∧
      ∀ [AddCommMonoid α] [LinearOrder α] [Distance.Exact α], route.WellFormed → other.WellFormed →
        (route.append other airway distance).totalDistance =
          .ok ((route.legs.map (·.distance)).sum + distance.getD (Distance.between last first) +
            (other.legs.map (·.distance)).sum) :=
  ⟨append_eq_connect ends begins left right, fun _ => rfl, pushFront_eq_connect begins right,
    fun front _ => front.total_append ends begins⟩

omit [Distance α] in
/-- A leg of three and a single waypoint a degree away from its end. -/
theorem edit_eq_connect_row :
    let front : Route ℚ := .ofLeg ⟨"X", 0, 0⟩ ⟨"J1", 3, []⟩ ⟨"Y", 0, 1⟩
    let back : Route ℚ := .single ⟨"Z", 0, 2⟩
    front.WellFormed ∧ back.WellFormed ∧
      (front.connect (bridge ⟨"Y", 0, 1⟩ "J2" (some 4) ⟨"Z", 0, 2⟩) >>= fun led => led.connect back) =
        .ok (front.append back "J2" (some 4)) ∧
      (front.append back "J2" (some 4)).totalDistance = .ok 7 := by
  intro front back
  have formed : front.WellFormed := joined_none_iff.mp (joined_ofLeg _ _ _)
  have more : back.WellFormed := joined_none_iff.mp (joined_single _)
  have ends : front.last? = some ⟨"Y", 0, 1⟩ := rfl
  have begins : back.first? = some ⟨"Z", 0, 2⟩ := rfl
  obtain ⟨connected, _, _, total⟩ :=
    edit_eq_connect ends begins (by decide +kernel) (by decide +kernel) "J2" (some 4)
  refine ⟨formed, more, connected, ?_⟩
  rw [total formed more]
  show Except.ok ((3 + 0) + 4 + 0 : ℚ) = .ok 7
  norm_num

end FlightRoute.Route
