/-
**Joining two routes.**

Two routes join when one of them is empty or the one ends where the other begins. The whole route is as
well formed as its parts, it keeps all their legs, and nothing is added at the seam: its total is that
of both parts, and a part of a single node adds nothing. A route that does not join is left as it was;
that is said of `connectInPlace`, which changes a route that is held instead of making a new one.

* `connectInPlace_run`: joining in place is `connect`, and a failure changes nothing;
* `WellFormed.rejoin`, `WellFormed.legs_rejoin`: what is kept across the seam;
* `connect_outcome`: when routes join, and what comes of it.
-/

import FlightRoute.Proofs.Distance.Planar
import FlightRoute.Proofs.Route.Connect
import FlightRoute.Proofs.Route.Editing

namespace FlightRoute.Route

variable {α : Type} {route other whole : Route α}

/-! ### In place -/

/-- **Joining in place** gives what `connect` makes, and a failure leaves the route as it was. -/
theorem connectInPlace_run (route other : Route α) :
    (connectInPlace other).run route =
      match route.connect other with
      | .ok whole => .ok () whole
      | .error failure => .error failure route := by
  obtain ⟨others⟩ := other
  unfold connect connectInPlace
  simp only [EStateM.run_bind, EStateM.run_get]
  cases route.nodes.getLast? with
  | none => rfl
  | some seam =>
    cases others with
    | nil => rfl
    | cons first rest =>
      cases agrees : seam.waypoint == first.waypoint with
      | true => simp [bne, agrees]
      | false => simp [bne, agrees]

/-! ### When routes connect -/

theorem exists_first? (nonempty : route.nodes ≠ []) : ∃ first, route.first? = some first :=
  ⟨_, by rw [first?, List.head?_eq_some_head nonempty]; rfl⟩

theorem exists_last? (nonempty : route.nodes ≠ []) : ∃ last, route.last? = some last :=
  ⟨_, by rw [last?, List.getLast?_eq_some_getLast nonempty]; rfl⟩

theorem eq_of_empty (noNodes : route.nodes = []) (noneBehind : other.nodes = []) : route = other := by
  obtain ⟨nodes⟩ := route
  obtain ⟨others⟩ := other
  exact congrArg Route.mk (noNodes.trans noneBehind.symm)

theorem short_of_empty (noNodes : route.nodes = []) : route.length ≤ 1 := by
  rw [length, noNodes]
  exact Nat.zero_le 1

/-- Behind an empty route there is nothing to compare. -/
theorem connect_of_empty (noNodes : route.nodes = []) : route.connect other = .ok other := by
  unfold connect
  rw [noNodes]
  rfl

/-- **Routes connect** when one of them is empty or they meet, and only then. -/
theorem connect_isOk_iff :
    (∃ whole, route.connect other = .ok whole) ↔
      route.nodes = [] ∨ other.nodes = [] ∨ route.Meets other := by
  constructor
  · rintro ⟨whole, connected⟩
    by_contra apart
    obtain ⟨nonempty, apart⟩ := not_or.mp apart
    obtain ⟨more, apart⟩ := not_or.mp apart
    obtain ⟨last, ends⟩ := exists_last? nonempty
    obtain ⟨first, begins⟩ := exists_first? more
    rw [connect_eq ends begins] at connected
    split at connected
    · rename_i agrees
      exact apart ⟨last, first, ends, begins, agrees⟩
    · cases connected
  · rintro (noNodes | noNodes | meets)
    · exact ⟨other, connect_of_empty noNodes⟩
    · exact ⟨route, connect_nil noNodes⟩
    · obtain ⟨whole, connected, _⟩ := meets.connect
      exact ⟨whole, connected⟩

/-- A failure names the two waypoints that do not agree. -/
theorem connect_error {failure : RouteError} (failed : route.connect other = .error failure) :
    ∃ last first, route.last? = some last ∧ other.first? = some first ∧
      failure = .connectionMismatch last.ident first.ident := by
  by_cases noNodes : route.nodes = []
  · rw [connect_of_empty noNodes] at failed
    cases failed
  · by_cases empty : other.nodes = []
    · rw [connect_nil empty] at failed
      cases failed
    · obtain ⟨last, ends⟩ := exists_last? noNodes
      obtain ⟨first, begins⟩ := exists_first? empty
      rw [connect_eq ends begins] at failed
      split at failed
      · cases failed
      · cases failed
        exact ⟨last, first, ends, begins, rfl⟩

/-! ### Across the seam -/

/-- A well-formed route that has nodes is a path. -/
theorem WellFormed.isPath (formed : route.WellFormed) (nonempty : route.nodes ≠ []) :
    route.IsPath := by
  obtain ⟨start, begins⟩ := exists_first? nonempty
  obtain ⟨finish, ends⟩ := exists_last? nonempty
  exact ⟨start, finish, runs_iff.mpr ⟨formed, begins, ends⟩⟩

/-- Nodes of a well-formed route that stand in front of another one keep its end well formed. -/
theorem WellFormed.rejoin (front : route.WellFormed) (back : other.WellFormed)
    (nonempty : other.nodes ≠ []) : WellFormed ⟨route.nodes.dropLast ++ other.nodes⟩ :=
  joined_none_iff.mp ((joined_none_iff.mpr back).append_nodes nonempty front.joined)

/-- The node that is taken off carries no leg, so that no leg is lost. -/
theorem WellFormed.legs_rejoin (front : route.WellFormed) (others : List (RouteNode α)) :
    (⟨route.nodes.dropLast ++ others⟩ : Route α).legs = route.legs ++ legs ⟨others⟩ := by
  by_cases nonempty : route.nodes = []
  · rw [legs, legs, nonempty]
    rfl
  · obtain ⟨start, finish, runs⟩ := front.isPath nonempty
    exact runs.legs_join others

/-- A well-formed route of one node has no leg. -/
theorem WellFormed.legs_eq_nil (formed : route.WellFormed) (short : route.length ≤ 1) :
    route.legs = [] := by
  obtain ⟨nodes⟩ := route
  match nodes with
  | [] => rfl
  | [node] =>
    have bare : node.leg = none := formed.ended node rfl
    rw [legs, List.filterMap_cons_none bare]
    rfl
  | _ :: _ :: _ => simp [length] at short

/-! ### Totals -/

section Totals

variable [Distance α]

/-- A route of at most one node has no total. -/
theorem totalDistance_of_short (short : route.length ≤ 1) :
    route.totalDistance = .error .routeTooShort :=
  if_pos (Nat.lt_succ_of_le short)

/-- The total of two nodes or more is the sum over the legs. -/
theorem totalDistance_of_le (several : 2 ≤ route.length) :
    route.totalDistance = .ok (Distance.total (route.legs.map (·.distance))) :=
  if_neg (Nat.not_lt.mpr several)

/-- Routes of as many nodes and of the same legs have the same total. -/
theorem totalDistance_congr (long : route.length = other.length) (same : route.legs = other.legs) :
    route.totalDistance = other.totalDistance := by
  unfold totalDistance
  rw [show route.nodes.length = other.nodes.length from long, same]

/-- The total of routes that are joined is the sum of theirs. -/
theorem WellFormed.total_rejoin [AddCommMonoid α] [LinearOrder α] [Distance.Exact α]
    (front : route.WellFormed) (several : 2 ≤ route.length) (more : 2 ≤ other.length) :
    ∃ before behind, route.totalDistance = .ok before ∧ other.totalDistance = .ok behind ∧
      (⟨route.nodes.dropLast ++ other.nodes⟩ : Route α).totalDistance = .ok (before + behind) := by
  refine ⟨_, _, totalDistance_of_le several, totalDistance_of_le more, ?_⟩
  have long : 2 ≤ (⟨route.nodes.dropLast ++ other.nodes⟩ : Route α).length := by
    rw [length, List.length_append]
    exact Nat.le_add_left_of_le more
  rw [totalDistance_of_le long, front.legs_rejoin, List.map_append]
  simp only [Distance.total_eq_sum, List.sum_append]

/-! ### What comes of it -/

/-- What a route is that two routes were joined to. -/
structure Junction (route other whole : Route α) : Prop where
  front_empty : route.nodes = [] → whole = other
  back_empty : other.nodes = [] → whole = route
  /-- The last node of the one gives way to the nodes of the other. -/
  nodes : route.nodes ≠ [] → other.nodes ≠ [] → whole.nodes = route.nodes.dropLast ++ other.nodes
  wellFormed : whole.WellFormed
  /-- A part of one node adds nothing to the total. -/
  front_short : route.length ≤ 1 → whole.totalDistance = other.totalDistance
  back_short : other.length ≤ 1 → whole.totalDistance = route.totalDistance
  /-- The total of two parts of several nodes is the sum of theirs, on exact numbers. -/
  total : ∀ [AddCommMonoid α] [LinearOrder α] [Distance.Exact α], 2 ≤ route.length →
    2 ≤ other.length → ∃ before behind, route.totalDistance = .ok before ∧
      other.totalDistance = .ok behind ∧ whole.totalDistance = .ok (before + behind)

/-- Behind an empty route nothing is taken off. -/
theorem junction_front_empty (noNodes : route.nodes = []) (back : other.WellFormed) :
    Junction route other other where
  front_empty _ := rfl
  back_empty empty := eq_of_empty empty noNodes
  nodes nonempty := absurd noNodes nonempty
  wellFormed := back
  front_short _ := rfl
  back_short short :=
    (totalDistance_of_short short).trans (totalDistance_of_short (short_of_empty noNodes)).symm
  total several := absurd (short_of_empty noNodes) (Nat.not_le.mpr several)

/-- An empty route behind takes nothing off. -/
theorem junction_back_empty (noNodes : other.nodes = []) (front : route.WellFormed) :
    Junction route other route where
  front_empty empty := eq_of_empty empty noNodes
  back_empty _ := rfl
  nodes _ nonempty := absurd noNodes nonempty
  wellFormed := front
  front_short short :=
    (totalDistance_of_short short).trans (totalDistance_of_short (short_of_empty noNodes)).symm
  back_short _ := rfl
  total _ several := absurd (short_of_empty noNodes) (Nat.not_le.mpr several)

/-- The shared waypoint is there once. -/
theorem junction_rejoin (front : route.WellFormed) (back : other.WellFormed)
    (nonempty : route.nodes ≠ []) (more : other.nodes ≠ []) :
    Junction route other ⟨route.nodes.dropLast ++ other.nodes⟩ where
  front_empty noNodes := absurd noNodes nonempty
  back_empty noNodes := absurd noNodes more
  nodes _ _ := rfl
  wellFormed := front.rejoin back more
  front_short short := by
    refine totalDistance_congr ?_ ?_
    · have alone : route.nodes.length - 1 = 0 := Nat.sub_eq_zero_of_le short
      rw [length, List.length_append, List.length_dropLast, alone]
      exact Nat.zero_add _
    · rw [front.legs_rejoin, front.legs_eq_nil short]
      rfl
  back_short short := by
    refine totalDistance_congr ?_ ?_
    · have alone : other.nodes.length = 1 := Nat.le_antisymm short (List.length_pos_iff.mpr more)
      rw [length, List.length_append, List.length_dropLast, alone]
      exact Nat.sub_add_cancel (List.length_pos_iff.mpr nonempty)
    · rw [front.legs_rejoin, back.legs_eq_nil short, List.append_nil]
  total := front.total_rejoin

/-- What two routes are joined to. -/
theorem connect_junction (front : route.WellFormed) (back : other.WellFormed)
    (connected : route.connect other = .ok whole) : Junction route other whole := by
  by_cases noNodes : route.nodes = []
  · rw [connect_of_empty noNodes] at connected
    cases connected
    exact junction_front_empty noNodes back
  · by_cases empty : other.nodes = []
    · rw [connect_nil empty] at connected
      cases connected
      exact junction_back_empty empty front
    · obtain ⟨last, ends⟩ := exists_last? noNodes
      obtain ⟨first, begins⟩ := exists_first? empty
      rw [connect_eq ends begins] at connected
      split at connected
      · cases connected
        exact junction_rejoin front back noNodes empty
      · cases connected

/-- **When routes join, and what comes of it.** Well-formed routes join exactly when one of them is
empty or the last waypoint of the one agrees with the first of the other. Then the whole route is made
of the nodes of both, the seam once, and its total is that of both. Otherwise the two waypoints at the
seam are named, and the route that is held stays as it was. -/
theorem connect_outcome (front : route.WellFormed) (back : other.WellFormed) :
    ((∃ whole, route.connect other = .ok whole) ↔
      route.nodes = [] ∨ other.nodes = [] ∨ ∃ last first, route.last? = some last ∧
        other.first? = some first ∧ last.ident = first.ident ∧
        (last.lat == first.lat) = true ∧ (last.lon == first.lon) = true) ∧
    (∀ whole, route.connect other = .ok whole →
      Junction route other whole ∧ (connectInPlace other).run route = .ok () whole) ∧
    ∀ failure, route.connect other = .error failure →
      (∃ last first, route.last? = some last ∧ other.first? = some first ∧
        failure = .connectionMismatch last.ident first.ident) ∧
      (connectInPlace other).run route = .error failure route := by
  refine ⟨?_, fun whole connected => ⟨connect_junction front back connected, ?_⟩,
    fun failure failed => ⟨connect_error failed, ?_⟩⟩
  · simp only [connect_isOk_iff, Meets, Waypoint.beq_iff]
  · rw [connectInPlace_run, connected]
  · rw [connectInPlace_run, failed]

/-- Two legs of three and of four that share their middle waypoint. -/
theorem connect_outcome_row :
    let front : Route ℚ := .ofLeg ⟨"X", 0, 0⟩ ⟨"J1", 3, []⟩ ⟨"Y", 0, 1⟩
    let back : Route ℚ := .ofLeg ⟨"Y", 0, 1⟩ ⟨"J2", 4, []⟩ ⟨"Z", 0, 2⟩
    front.WellFormed ∧ back.WellFormed ∧
      ∃ whole, front.connect back = .ok whole ∧ whole.totalDistance = .ok 7 := by
  intro front back
  have formed : front.WellFormed := joined_none_iff.mp (joined_ofLeg _ _ _)
  have more : back.WellFormed := joined_none_iff.mp (joined_ofLeg _ _ _)
  obtain ⟨joins, whole, _⟩ := connect_outcome formed more
  obtain ⟨joined, connected⟩ :=
    joins.mpr (Or.inr (Or.inr ⟨_, _, rfl, rfl, rfl, by decide, by decide⟩))
  obtain ⟨junction, _⟩ := whole joined connected
  obtain ⟨before, behind, left, right, total⟩ := junction.total (by decide) (by decide)
  refine ⟨formed, more, joined, connected, ?_⟩
  rw [total]
  cases left
  cases right
  show Except.ok ((0 + 3) + (0 + 4) : ℚ) = .ok 7
  norm_num

end Totals

end FlightRoute.Route
