/-
**What editing keeps.**

A draft says how a route was put together: from nothing, from one waypoint or from one leg, by adding
waypoints and other drafts at its ends. Every operation leaves each node but the last with its leg, and
the last node is meant to carry none. One operation breaks that: a waypoint that is put in front of an
empty route keeps the leg that it was given, where adding it behind an empty route drops the leg. Until
something is added behind it that leg stays open (`Draft.openLeg`), and the total counts it although no
line of a report shows it. Without an open leg the last node carries none, and the total is the sum of
the legs between neighbouring nodes.

* `Joined.pushBack`, `Joined.pushFront`, `Joined.append`, `Joined.connect`: one operation;
* `Draft.joined`: a whole draft;
* `Draft.legs_accounted`: which legs the nodes carry, what the total counts and what a report lists.
-/

import Mathlib.Tactic.NormNum
import FlightRoute.Proofs.Distance.Planar
import FlightRoute.Proofs.Route.Spans
import FlightRoute.Report

namespace FlightRoute

namespace Route

variable {α : Type} {route other whole : Route α} {nodes : List (RouteNode α)}
  {trailing further : Option (Leg α)}

/-! ### One operation -/

/-- With a leg on the last node too every node carries one. -/
theorem withLastLeg_isSome (leg : Leg α) (joined : ∀ node ∈ nodes.dropLast, node.leg.isSome) :
    ∀ node ∈ withLastLeg leg nodes, node.leg.isSome := by
  fun_induction withLastLeg leg nodes with
  | case1 => exact fun node member => absurd member List.not_mem_nil
  | case2 last =>
    intro node member
    rw [List.mem_singleton.mp member]
    rfl
  | case3 first second rest ih =>
    intro node member
    rcases List.mem_cons.mp member with rfl | member
    · exact joined node List.mem_cons_self
    · exact ih (fun other inside => joined other (List.mem_cons_of_mem _ inside)) node member

theorem joined_empty : (empty : Route α).Joined none where
  joined _ member := absurd member List.not_mem_nil
  ended _ member := by cases member

theorem joined_single (waypoint : Waypoint) : (single waypoint : Route α).Joined none :=
  joined_none_iff.mpr (Runs.final waypoint).wellFormed

theorem joined_ofLeg (start : Waypoint) (leg : Leg α) (finish : Waypoint) :
    (ofLeg start leg finish).Joined none :=
  joined_none_iff.mpr (Runs.leg leg (.final finish)).wellFormed

/-- Nodes that all carry a leg, put in front of a route. -/
theorem Joined.append_nodes (joined : other.Joined trailing) (nonempty : other.nodes ≠ [])
    (front : ∀ node ∈ nodes, node.leg.isSome) : Joined ⟨nodes ++ other.nodes⟩ trailing where
  joined node member := by
    rw [List.dropLast_append_of_ne_nil nonempty] at member
    rcases List.mem_append.mp member with member | member
    · exact front node member
    · exact joined.joined node member
  ended node member := by
    rw [List.getLast?_append_of_ne_nil _ nonempty] at member
    exact joined.ended node member

theorem Joined.leadTo_isSome [Distance α] (joined : route.Joined trailing) (next : Waypoint)
    (airway : String) (distance : Option α) :
    ∀ node ∈ leadTo next airway distance route.nodes, node.leg.isSome := by
  unfold leadTo
  split
  · exact withLastLeg_isSome _ joined.joined
  · exact fun node member => absurd member List.not_mem_nil

/-- A waypoint at the end ends the route without a leg. -/
theorem Joined.pushBack [Distance α] (joined : route.Joined trailing) (waypoint : Waypoint)
    (airway : String) (distance : Option α) :
    (route.pushBack waypoint airway distance).Joined none :=
  (joined_single waypoint).append_nodes (List.cons_ne_nil _ _)
    (joined.leadTo_isSome waypoint airway distance)

/-- A waypoint in front of a route that has nodes leaves its end alone. -/
theorem Joined.pushFront [Distance α] (joined : route.Joined trailing)
    (nonempty : route.nodes ≠ []) (waypoint : Waypoint) (airway : String) (distance : Option α) :
    (route.pushFront waypoint airway distance).Joined trailing := by
  show Joined ⟨[_] ++ route.nodes⟩ trailing
  refine joined.append_nodes nonempty fun node member => ?_
  rw [List.mem_singleton.mp member]
  rfl

/-- A waypoint in front of an empty route keeps its leg. -/
theorem joined_pushFront_nil [Distance α] (noNodes : route.nodes = []) (waypoint : Waypoint)
    (airway : String) (distance : Option α) :
    (route.pushFront waypoint airway distance).Joined
      (some { airway, distance := distance.getD Distance.zero }) := by
  unfold Route.pushFront
  rw [noNodes]
  refine ⟨fun node member => absurd member List.not_mem_nil, fun node member => ?_⟩
  cases member
  rfl

/-- A route at the end brings its own end with it. -/
theorem Joined.append [Distance α] (joined : route.Joined trailing) (more : other.Joined further)
    (nonempty : other.nodes ≠ []) (airway : String) (distance : Option α) :
    (route.append other airway distance).Joined further := by
  obtain ⟨nodes⟩ := other
  cases nodes with
  | nil => exact absurd rfl nonempty
  | cons first rest =>
    exact more.append_nodes nonempty (joined.leadTo_isSome first.waypoint airway distance)

/-- So does a route that is connected. -/
theorem Joined.connect (joined : route.Joined trailing) (more : other.Joined further)
    (nonempty : other.nodes ≠ []) (connected : route.connect other = .ok whole) :
    whole.Joined further := by
  obtain ⟨nodes⟩ := other
  cases nodes with
  | nil => exact absurd rfl nonempty
  | cons first rest =>
    unfold Route.connect at connected
    split at connected
    · cases connected
      exact more
    · rename_i noNodes
      cases noNodes
    · rename_i same
      cases same
      split at connected
      · cases connected
        exact more.append_nodes nonempty joined.joined
      · cases connected

/-- An empty route connects without a change. -/
theorem connect_nil (noNodes : other.nodes = []) : route.connect other = .ok route := by
  obtain ⟨nodes⟩ := other
  cases noNodes
  obtain ⟨nodes⟩ := route
  unfold Route.connect
  split
  · rename_i noLast
    cases List.getLast?_eq_none_iff.mp noLast
    rfl
  · rfl
  · rename_i same
    cases same

end Route

/-! ### Reports -/

namespace Report

/-- **A report has one line a span.** -/
theorem legLines_eq (route : Route Float) :
    legLines route.nodes =
      route.spans.map fun span => legLine span.start span.leg span.finish := by
  obtain ⟨nodes⟩ := route
  show legLines nodes = (spansOf nodes).map _
  fun_induction legLines nodes with
  | case1 first second rest leg carries ih =>
    rw [spansOf, carries, ih]
    rfl
  | case2 first second rest carries ih => rw [spansOf, carries, ih]
  | case3 nodes short =>
    cases nodes with
    | nil => rfl
    | cons node rest =>
      cases rest with
      | nil => rfl
      | cons next rest => exact absurd rfl (short node next rest)

end Report

/-! ### Drafts -/

/-- How a route was put together. -/
inductive Draft (α : Type) where
  | empty
  | single (waypoint : Waypoint)
  | ofLeg (start : Waypoint) (leg : Leg α) (finish : Waypoint)
  | pushBack (draft : Draft α) (waypoint : Waypoint) (airway : String) (distance : Option α)
  | pushFront (draft : Draft α) (waypoint : Waypoint) (airway : String) (distance : Option α)
  | append (draft other : Draft α) (airway : String) (distance : Option α)
  | connect (draft other : Draft α)

namespace Draft

variable {α : Type} [Distance α]

/-- The route that was put together; a route that does not connect is left as it was. -/
def route : Draft α → Route α
  | .empty => .empty
  | .single waypoint => .single waypoint
  | .ofLeg start leg finish => .ofLeg start leg finish
  | .pushBack draft waypoint airway distance => draft.route.pushBack waypoint airway distance
  | .pushFront draft waypoint airway distance => draft.route.pushFront waypoint airway distance
  | .append draft other airway distance => draft.route.append other.route airway distance
  | .connect draft other =>
    match draft.route.connect other.route with
    | .ok whole => whole
    | .error _ => draft.route

/-- The leg that the last node keeps: that node was put in front of an empty route, and nothing has
been added behind it. -/
def openLeg : Draft α → Option (Leg α)
  | .empty | .single _ | .ofLeg _ _ _ | .pushBack _ _ _ _ => none
  | .pushFront draft _ airway distance =>
    match draft.route.nodes with
    | [] => some { airway, distance := distance.getD Distance.zero }
    | _ :: _ => draft.openLeg
  | .append draft other _ _ =>
    match other.route.nodes with
    | [] => draft.openLeg
    | _ :: _ => other.openLeg
  | .connect draft other =>
    match draft.route.connect other.route, other.route.nodes with
    | .error _, _ | .ok _, [] => draft.openLeg
    | .ok _, _ :: _ => other.openLeg

/-- **Whatever was done to a route**, every node but the last carries a leg, and the last one carries
none unless it is still open. -/
theorem joined (draft : Draft α) : draft.route.Joined draft.openLeg := by
  induction draft with
  | empty => exact Route.joined_empty
  | single waypoint => exact Route.joined_single waypoint
  | ofLeg start leg finish => exact Route.joined_ofLeg start leg finish
  | pushBack draft waypoint airway distance ih => exact ih.pushBack waypoint airway distance
  | pushFront draft waypoint airway distance ih =>
    unfold openLeg
    split
    · rename_i noNodes
      exact Route.joined_pushFront_nil noNodes waypoint airway distance
    · rename_i nodes
      exact ih.pushFront (nodes ▸ List.cons_ne_nil _ _) waypoint airway distance
  | append draft other airway distance ih more =>
    unfold openLeg
    split
    · rename_i noNodes
      unfold route Route.append
      rw [noNodes]
      exact ih
    · rename_i nodes
      exact ih.append more (nodes ▸ List.cons_ne_nil _ _) airway distance
  | connect draft other ih more =>
    cases connected : draft.route.connect other.route with
    | error failure =>
      simp only [route, openLeg, connected]
      exact ih
    | ok whole =>
      cases nodes : other.route.nodes with
      | nil =>
        obtain rfl : draft.route = whole := by
          rw [Route.connect_nil nodes] at connected
          cases connected
          rfl
        simp only [route, openLeg, connected, nodes]
        exact ih
      | cons first rest =>
        simp only [route, openLeg, connected, nodes]
        exact ih.connect more (nodes ▸ List.cons_ne_nil _ _) connected

/-- Without an open leg the total is the sum of the legs between neighbouring nodes. -/
theorem totalDistance_eq (draft : Draft α) (closed : draft.openLeg = none)
    (several : 2 ≤ draft.route.length) :
    draft.route.totalDistance = .ok (Distance.total (draft.route.spans.map (·.leg.distance))) := by
  have nonempty : draft.route.nodes ≠ [] := by
    intro noNodes
    rw [Route.length, noNodes] at several
    exact absurd several (Nat.not_succ_le_zero 1)
  have long : ¬ draft.route.nodes.length < 2 := Nat.not_lt.mpr several
  unfold Route.totalDistance
  rw [if_neg long, draft.joined.legs_eq nonempty, closed, Option.toList_none, List.append_nil,
    List.map_map]
  rfl

/-- **What editing keeps.** Every node but the last carries a leg, and the last one carries none exactly
when no leg is open; then the total is the sum of the legs between neighbouring nodes, exactly so on
exact numbers; and a report lists exactly the legs between neighbouring nodes. -/
theorem legs_accounted (draft : Draft α) :
    (∀ node ∈ draft.route.nodes.dropLast, node.leg.isSome) ∧
    (∀ node ∈ draft.route.nodes.getLast?, node.leg = none ↔ draft.openLeg = none) ∧
    draft.route.spans.length = draft.route.length - 1 ∧
    (draft.openLeg = none → 2 ≤ draft.route.length →
      draft.route.totalDistance =
        .ok (Distance.total (draft.route.spans.map (·.leg.distance)))) ∧
    (∀ [AddCommMonoid α] [LinearOrder α] [Distance.Exact α], draft.openLeg = none →
      2 ≤ draft.route.length →
        draft.route.totalDistance = .ok (draft.route.spans.map (·.leg.distance)).sum) ∧
    ∀ printed : Draft Float, Report.legLines printed.route.nodes =
      printed.route.spans.map fun span => Report.legLine span.start span.leg span.finish := by
  have joined := draft.joined
  refine ⟨joined.joined, fun node last => ?_, joined.length_spans, draft.totalDistance_eq, ?_,
    fun printed => Report.legLines_eq printed.route⟩
  · rw [joined.ended node last]
  · intro _ _ _ closed several
    rw [draft.totalDistance_eq closed several, Distance.total_eq_sum]

/-- Two routes that are put together at a waypoint that was in front of nothing. -/
theorem legs_accounted_closed :
    let draft : Draft ℚ :=
      .append (.pushFront .empty ⟨"A", 0, 0⟩ "J1" (some 10))
        (.pushBack (.single ⟨"B", 0, 1⟩) ⟨"C", 0, 2⟩ "J2" (some 5)) "J3" (some 7)
    draft.openLeg = none ∧ 2 ≤ draft.route.length ∧ draft.route.totalDistance = .ok 12 := by
  intro draft
  obtain ⟨_, _, _, _, summed, _⟩ := legs_accounted draft
  refine ⟨rfl, by decide, ?_⟩
  rw [summed rfl (by decide)]
  show Except.ok (7 + (5 + 0) : ℚ) = .ok 12
  norm_num

/-- **A waypoint in front of nothing** leaves the last node with a leg, and the total with a length that
no leg between neighbouring nodes has. -/
theorem front_only_open :
    let draft : Draft ℚ :=
      .pushFront (.pushFront .empty ⟨"B", 0, 1⟩ "J1" (some 10)) ⟨"A", 0, 0⟩ "J2" (some 5)
    (∃ node ∈ draft.route.nodes.getLast?, node.leg.isSome) ∧
      draft.route.totalDistance = .ok 15 ∧ (draft.route.spans.map (·.leg.distance)).sum = 5 := by
  refine ⟨⟨_, rfl, rfl⟩, ?_, ?_⟩
  · show Except.ok (0 + 5 + 10 : ℚ) = .ok 15
    norm_num
  · show (5 + 0 : ℚ) = 5
    norm_num

end Draft

end FlightRoute
