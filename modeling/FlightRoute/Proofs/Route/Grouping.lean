/-
**In which order routes are connected.**

Connecting is associative where it succeeds. The routes that could make a difference are those that hide a
seam: behind an empty route there is nothing to compare, and the one waypoint of a route of one node is
compared on both sides. The first takes no part, and the waypoint of the second agrees with both
neighbours, so that they agree with each other.

* `connect_connect`: a route in front of two that connect;
* `connect_assoc`: three routes, from either side;
* `connectAll_flatten`: a list of routes that is cut into groups.
-/

import FlightRoute.Proofs.Route.Junction

namespace FlightRoute.Route

variable {α : Type} {route other third joined whole : Route α} {last next seam : Waypoint}

/-! ### Three routes -/

/-- A route that another one is put behind begins as before, or at a waypoint that agrees. -/
theorem first?_rejoin (ends : route.last? = some last) (begins : other.first? = some next)
    (agrees : (last == next) = true) :
    ∃ first second, route.first? = some first ∧
      (⟨route.nodes.dropLast ++ other.nodes⟩ : Route α).first? = some second ∧ first.Same second := by
  obtain ⟨nodes⟩ := route
  match nodes with
  | [] => cases ends
  | [node] =>
    cases ends
    exact ⟨node.waypoint, next, rfl, begins, Or.inr agrees⟩
  | node :: second :: rest => exact ⟨node.waypoint, node.waypoint, rfl, rfl, .refl _⟩

/-- A route that is put behind another one ends it. -/
theorem last?_rejoin (ends : other.last? = some last) :
    (⟨route.nodes.dropLast ++ other.nodes⟩ : Route α).last? = some last := by
  obtain ⟨node, final, rfl⟩ := Option.map_eq_some_iff.mp ends
  rw [last?, List.getLast?_append, final]
  rfl

/-- **A route in front of two that connect** connects with them as it does with the first of them. -/
theorem connect_connect (connected : other.connect third = .ok joined) :
    route.connect joined = (route.connect other >>= fun front => front.connect third) := by
  by_cases empty : route.nodes = []
  · rw [connect_of_empty empty, connect_of_empty empty, ok_bind, connected]
  by_cases hidden : other.nodes = []
  · rw [connect_of_empty hidden] at connected
    cases connected
    rw [connect_nil hidden, ok_bind]
  by_cases noNodes : third.nodes = []
  · rw [connect_nil noNodes] at connected
    cases connected
    cases route.connect other with
    | error failure => rfl
    | ok front => rw [ok_bind, connect_nil noNodes]
  obtain ⟨finish, ends⟩ := exists_last? empty
  obtain ⟨last, finishes⟩ := exists_last? hidden
  obtain ⟨next, begins⟩ := exists_first? noNodes
  rw [connect_eq finishes begins] at connected
  split at connected
  · rename_i agrees
    cases connected
    -- the seam at the front is compared with the first waypoint of either, and these are the same
    obtain ⟨first, seam, starts, opens, same⟩ := first?_rejoin finishes begins agrees
    rw [connect_eq ends opens, connect_eq ends starts, same.beq_right, same.ident_eq]
    split
    · have behind : (⟨route.nodes.dropLast ++ other.nodes⟩ : Route α).last? = some last :=
        last?_rejoin finishes
      rw [ok_bind, connect_eq behind begins, if_pos agrees, List.dropLast_append_of_ne_nil hidden,
        List.append_assoc]
    · rfl
  · cases connected

/-- Routes that connect behind another one connect without it. -/
theorem connect_behind (front : route.connect other = .ok joined)
    (connected : joined.connect third = .ok whole) : ∃ back, other.connect third = .ok back := by
  rw [connect_isOk_iff]
  by_cases empty : other.nodes = []
  · exact Or.inl empty
  by_cases noNodes : third.nodes = []
  · exact Or.inr (Or.inl noNodes)
  refine Or.inr (Or.inr ?_)
  obtain ⟨last, ends⟩ := exists_last? empty
  obtain ⟨next, begins⟩ := exists_first? noNodes
  have behind : joined.last? = some last := by
    by_cases first : route.nodes = []
    · rw [connect_of_empty first] at front
      cases front
      exact ends
    · obtain ⟨finish, finishes⟩ := exists_last? first
      obtain ⟨start, starts⟩ := exists_first? empty
      rw [connect_eq finishes starts] at front
      split at front
      · cases front
        exact last?_rejoin ends
      · cases front
  rw [connect_eq behind begins] at connected
  split at connected
  · rename_i agrees
    exact ⟨last, next, ends, begins, agrees⟩
  · cases connected

/-- **Three routes** connect to the same route from either side. -/
theorem connect_assoc :
    (∃ front, route.connect other = .ok front ∧ front.connect third = .ok whole) ↔
      ∃ back, other.connect third = .ok back ∧ route.connect back = .ok whole := by
  constructor
  · rintro ⟨front, first, connected⟩
    obtain ⟨back, behind⟩ := connect_behind first connected
    refine ⟨back, behind, ?_⟩
    rw [connect_connect behind, first, ok_bind, connected]
  · rintro ⟨back, behind, connected⟩
    rw [connect_connect behind] at connected
    exact bind_eq_ok.mp connected

/-! ### Groups of routes -/

/-- Routes behind another one may be connected among themselves first. -/
theorem foldlM_connect_iff {routes : List (Route α)} :
    routes.foldlM connect route = .ok whole ↔
      ∃ back, connectAll routes = .ok back ∧ route.connect back = .ok whole := by
  -- the hypothesis is used twice: behind the two routes in front, and behind the second of them alone
  induction routes generalizing route whole with
  | nil =>
    have alone : route.connect empty = .ok route := connect_nil rfl
    constructor
    · intro done
      cases done
      exact ⟨empty, rfl, alone⟩
    · rintro ⟨back, nothing, connected⟩
      cases nothing
      exact alone.symm.trans connected
  | cons next rest ih =>
    have all : connectAll (next :: rest) = rest.foldlM connect next := rfl
    rw [List.foldlM_cons, bind_eq_ok, all]
    constructor
    · rintro ⟨front, first, done⟩
      obtain ⟨behind, connected, further⟩ := ih.mp done
      obtain ⟨back, joined, final⟩ := connect_assoc.mp ⟨front, first, further⟩
      exact ⟨back, ih.mpr ⟨behind, connected, joined⟩, final⟩
    · rintro ⟨back, done, final⟩
      obtain ⟨behind, connected, joined⟩ := ih.mp done
      obtain ⟨front, first, further⟩ := connect_assoc.mpr ⟨back, joined, final⟩
      exact ⟨front, first, ih.mpr ⟨behind, connected, further⟩⟩

/-- Two lists of routes connect to what their parts do. -/
theorem connectAll_append {routes others : List (Route α)} :
    connectAll (routes ++ others) = .ok whole ↔
      ∃ front back, connectAll routes = .ok front ∧ connectAll others = .ok back ∧
        front.connect back = .ok whole := by
  rw [connectAll, List.foldlM_append, bind_eq_ok]
  refine exists_congr fun front => ?_
  rw [exists_and_left]
  exact and_congr_right fun _ => foldlM_connect_iff

/-- A route in front of a list of routes. -/
theorem connectAll_cons {routes : List (Route α)} :
    connectAll (route :: routes) = .ok whole ↔
      ∃ back, connectAll routes = .ok back ∧ route.connect back = .ok whole := by
  show routes.foldlM connect route = .ok whole ↔ _
  exact foldlM_connect_iff

/-- **A list of routes that is cut into groups** connects to the same route group by group. -/
theorem connectAll_flatten {groups : List (List (Route α))} :
    connectAll groups.flatten = .ok whole ↔
      ∃ parts, groups.mapM connectAll = .ok parts ∧ connectAll parts = .ok whole := by
  induction groups generalizing whole with
  | nil =>
    constructor
    · exact fun done => ⟨[], rfl, done⟩
    · rintro ⟨parts, nothing, done⟩
      cases nothing
      exact done
  | cons group rest ih =>
    rw [List.flatten_cons, connectAll_append, List.mapM_cons]
    constructor
    · rintro ⟨front, back, here, there, joined⟩
      obtain ⟨parts, each, done⟩ := ih.mp there
      refine ⟨front :: parts, by rw [here, ok_bind, each]; rfl, ?_⟩
      exact connectAll_cons.mpr ⟨back, done, joined⟩
    · rintro ⟨parts, each, done⟩
      obtain ⟨front, here, each⟩ := bind_eq_ok.mp each
      obtain ⟨others, there, both⟩ := bind_eq_ok.mp each
      cases both
      obtain ⟨back, joined, final⟩ := connectAll_cons.mp done
      exact ⟨front, back, here, ih.mpr ⟨others, there, joined⟩, final⟩

end FlightRoute.Route
