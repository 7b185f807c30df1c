/-
**What a request takes into the graph.**

The literal coordinates of a request are gone through in order, and each one that is not there by then is taken
in. A coordinate that was there before, or that came up before, is therefore not taken in again: behind the old
waypoints stand those that were missing, each once, in the order in which they come up first.

* `has_eq`: a waypoint is found when the graph has it;
* `foldl_injectMissing_waypoints`, `foldl_injectMissing_has`: one waypoint after the other;
* `scopeOf_waypoints`, `scopeOf_has`: all of them.
-/

import FlightRoute.Proofs.Graph.Lookup
import FlightRoute.Proofs.Resolve.Rollback

namespace FlightRoute

variable {α : Type}

namespace Graph

variable {graph grown : Graph α}

/-- Whether a waypoint of the graph agrees with this one. -/
def has (graph : Graph α) (waypoint : Waypoint) : Bool := graph.waypoints.any (· == waypoint)

/-- The waypoints that the graph does not have, each once, in the order in which they come up first. -/
def missing (graph : Graph α) (waypoints : List Waypoint) : List Waypoint :=
  (waypoints.filter fun waypoint => !graph.has waypoint).eraseDups

/-- **A waypoint is found** when the graph has it. -/
theorem has_eq (exactIndex : graph.ExactIndex) (waypoint : Waypoint) :
    graph.has waypoint = (graph.byWaypoint? waypoint).isSome := by
  rw [Bool.eq_iff_iff, has, Array.any_eq_true]
  constructor
  · rintro ⟨node, inside, agrees⟩
    exact byWaypoint?_isSome exactIndex (Array.getElem?_eq_getElem inside) agrees
  · intro known
    obtain ⟨node, found⟩ := Option.isSome_iff_exists.mp known
    obtain ⟨own, here, agrees⟩ := byWaypoint?_eq_some found
    obtain ⟨inside, rfl⟩ := Array.getElem?_eq_some_iff.mp here
    exact ⟨node, inside, agrees⟩

/-- One more waypoint is there. -/
theorem has_push {first : Waypoint} (pushed : grown.waypoints = graph.waypoints.push first)
    (waypoint : Waypoint) : grown.has waypoint = (graph.has waypoint || first == waypoint) := by
  rw [has, pushed, Array.any_push]
  rfl

/-- A waypoint that is there is not missing. -/
theorem missing_cons_of_has {first : Waypoint} {rest : List Waypoint} (known : graph.has first = true) :
    graph.missing (first :: rest) = graph.missing rest := by
  simp [missing, known]

/-- A waypoint that is not there is missing, and once it is there no other like it is. -/
theorem missing_cons_of_push {first : Waypoint} {rest : List Waypoint}
    (unknown : graph.has first = false) (pushed : grown.waypoints = graph.waypoints.push first) :
    graph.missing (first :: rest) = first :: grown.missing rest := by
  have others : rest.filter (fun waypoint => !grown.has waypoint) =
      (rest.filter fun waypoint => !graph.has waypoint).filter fun waypoint => !waypoint == first := by
    rw [List.filter_filter]
    refine List.filter_congr fun waypoint _ => ?_
    rw [has_push pushed, Bool.not_or, Bool.and_comm, BEq.comm]
  rw [missing, missing, others, List.filter_cons_of_pos (by rw [unknown]; rfl), List.eraseDups_cons]

end Graph

namespace Resolver

variable [Distance α] {graph : Graph α} {scope : Scope α} {waypoints : List Waypoint} {links : Nat}

theorem injectMissing_of_has (grown : scope.Over graph) {waypoint : Waypoint}
    (known : scope.graph.has waypoint = true) : injectMissing links scope waypoint = scope := by
  rw [Graph.has_eq grown.wellFormed.exactIndex] at known
  exact if_pos known

theorem injectMissing_of_not_has (grown : scope.Over graph) {waypoint : Waypoint}
    (unknown : scope.graph.has waypoint = false) :
    injectMissing links scope waypoint = scope.inject waypoint links := by
  rw [Graph.has_eq grown.wellFormed.exactIndex] at unknown
  exact if_neg (by simp [unknown])

/-- **Behind the waypoints that are there** stand those that are missing. -/
theorem foldl_injectMissing_waypoints (wellFormed : graph.WellFormed) (grown : scope.Over graph) :
    (waypoints.foldl (injectMissing links) scope).graph.waypoints.toList =
      scope.graph.waypoints.toList ++ scope.graph.missing waypoints := by
  -- What is missing is said of the scope as it is by then: taking in one waypoint makes its like not missing.
  induction waypoints generalizing scope with
  | nil => exact (List.append_nil _).symm
  | cons first rest ih =>
    rw [List.foldl_cons]
    cases known : scope.graph.has first with
    | true => rw [injectMissing_of_has grown known, ih grown, Graph.missing_cons_of_has known]
    | false =>
      have pushed := Scope.waypoints_inject scope first links
      rw [injectMissing_of_not_has grown known, ih (Scope.inject_over wellFormed grown first links),
        Graph.missing_cons_of_push known pushed, pushed, Array.toList_push, List.append_assoc]
      rfl

/-- **What is there stays, and what is gone through is there**, if it agrees with itself. -/
theorem foldl_injectMissing_has (wellFormed : graph.WellFormed) (grown : scope.Over graph)
    {waypoint : Waypoint} (own : (waypoint == waypoint) = true)
    (listed : scope.graph.has waypoint = true ∨ waypoint ∈ waypoints) :
    (waypoints.foldl (injectMissing links) scope).graph.has waypoint = true := by
  induction waypoints generalizing scope with
  | nil => exact listed.resolve_right List.not_mem_nil
  | cons first rest ih =>
    rw [List.mem_cons, ← or_assoc] at listed
    rw [List.foldl_cons]
    cases known : scope.graph.has first with
    | true =>
      rw [injectMissing_of_has grown known]
      refine ih grown (listed.imp_left fun before => ?_)
      rcases before with here | rfl
      · exact here
      · exact known
    | false =>
      have pushed := Scope.waypoints_inject scope first links
      rw [injectMissing_of_not_has grown known]
      refine ih (Scope.inject_over wellFormed grown first links) (listed.imp_left fun before => ?_)
      rw [Graph.has_push pushed, Bool.or_eq_true]
      rcases before with here | rfl
      · exact Or.inl here
      · exact Or.inr own

/-- **What is taken in** is what was missing, each once, in order. -/
theorem scopeOf_waypoints (wellFormed : graph.WellFormed) (links : Nat) (waypoints : List Waypoint) :
    (scopeOf graph links waypoints).graph.waypoints.toList =
      graph.waypoints.toList ++ graph.missing waypoints :=
  foldl_injectMissing_waypoints wellFormed (Scope.openScope_over wellFormed)

/-- One literal coordinate that the graph does not have stands behind its waypoints. -/
theorem coordinateScope_push {σ : Type} (wellFormed : graph.WellFormed) (resolver : Resolver σ α)
    {tokens : List Token} {waypoint : Waypoint} (literal : RouteString.coordinates tokens = [waypoint])
    (unknown : graph.has waypoint = false) :
    (resolver.coordinateScope graph tokens).graph.waypoints = graph.waypoints.push waypoint := by
  unfold coordinateScope
  rw [literal, List.foldl_cons, List.foldl_nil,
    injectMissing_of_not_has (Scope.openScope_over wellFormed) unknown, Scope.waypoints_inject]
  rfl

/-- **All of it is there then.** -/
theorem scopeOf_has (wellFormed : graph.WellFormed) (links : Nat) {waypoint : Waypoint}
    (own : (waypoint == waypoint) = true) (member : waypoint ∈ waypoints) :
    (scopeOf graph links waypoints).graph.has waypoint = true :=
  foldl_injectMissing_has wellFormed (Scope.openScope_over wellFormed) own (Or.inr member)

end Resolver

end FlightRoute
