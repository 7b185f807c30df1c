/-
**Graphs as they are built.**

A graph grows from nothing by waypoints and edges (`Built`). Every such graph is well formed: each node
has its list of edges, every edge leads to a node, and the index knows for each identifier exactly the
nodes that carry it, in order.

* `addWaypoint_wellFormed`, `addEdge_wellFormed`: what the two ways of growing keep;
* `Built.wellFormed`: every graph that was built is well formed.
-/

import Mathlib.Data.List.Basic
import FlightRoute.Graph.Basic

namespace FlightRoute.Graph

variable {α : Type}

/-- A graph that was built from nothing by adding waypoints and edges. -/
inductive Built [Distance α] : Graph α → Prop
  | empty : Built .empty
  | addWaypoint {graph : Graph α} (waypoint : Waypoint) :
      Built graph → Built (graph.addWaypoint waypoint)
  | addEdge {graph : Graph α} (source target : Nat) (airway : String) (distance : Option α) :
      Built graph → Built (graph.addEdge source target airway distance)

/-- The nodes that carry an identifier, in order. -/
def bearers (graph : Graph α) (ident : String) : List Nat :=
  (List.range graph.size).filter fun node => graph.waypoints[node]?.any (·.ident == ident)

/-- Every node has its list of edges, every edge leads to a node, and the index is exact. -/
structure WellFormed (graph : Graph α) : Prop where
  outgoing_size : graph.outgoing.size = graph.size
  target_lt : ∀ (node : Nat) (edges : Array (Edge α)) (edge : Edge α),
    graph.outgoing[node]? = some edges → edge ∈ edges → edge.target < graph.size
  indexed : ∀ ident, graph.positions[ident]? =
    if graph.bearers ident = [] then none else some (graph.bearers ident).toArray

/-- What has a list of edges is a node. -/
theorem WellFormed.lt_of_outgoing {graph : Graph α} (wellFormed : graph.WellFormed) {node : Nat}
    {edges : Array (Edge α)} (leaving : graph.outgoing[node]? = some edges) : node < graph.size := by
  rw [← wellFormed.outgoing_size]
  exact (Array.getElem?_eq_some_iff.mp leaving).1

theorem WellFormed.outgoing_of_lt {graph : Graph α} (wellFormed : graph.WellFormed) {node : Nat}
    (inside : node < graph.size) : ∃ edges, graph.outgoing[node]? = some edges := by
  rw [← wellFormed.outgoing_size] at inside
  exact ⟨_, Array.getElem?_eq_getElem inside⟩

theorem mem_bearers {graph : Graph α} {ident : String} {node : Nat} :
    node ∈ graph.bearers ident ↔
      ∃ waypoint, graph.waypoints[node]? = some waypoint ∧ waypoint.ident = ident := by
  unfold bearers
  rw [List.mem_filter, List.mem_range, Option.any_eq_true]
  constructor
  · rintro ⟨_, waypoint, found, carries⟩
    exact ⟨waypoint, found, beq_iff_eq.mp carries⟩
  · rintro ⟨waypoint, found, carries⟩
    exact ⟨(Array.getElem?_eq_some_iff.mp found).1, waypoint, found, beq_iff_eq.mpr carries⟩

theorem bearers_congr {graph grown : Graph α} (same : grown.waypoints = graph.waypoints)
    (ident : String) : grown.bearers ident = graph.bearers ident := by
  unfold bearers size
  rw [same]

/-- The index is exact: it knows for each identifier the nodes that carry it, in order. -/
def ExactIndex (graph : Graph α) : Prop :=
  ∀ ident, (graph.allByIdent ident).toList = graph.bearers ident

theorem WellFormed.exactIndex {graph : Graph α} (wellFormed : graph.WellFormed) :
    graph.ExactIndex := by
  intro ident
  unfold allByIdent
  rw [wellFormed.indexed]
  split
  · rename_i missing
    rw [missing]
    rfl
  · rfl

theorem empty_wellFormed : WellFormed (empty : Graph α) where
  outgoing_size := rfl
  target_lt node edges edge found := by simp [empty] at found
  indexed ident := by simp [empty, bearers, size]

/-! ### A waypoint more -/

theorem size_addWaypoint (graph : Graph α) (waypoint : Waypoint) :
    (graph.addWaypoint waypoint).size = graph.size + 1 :=
  Array.size_push _

theorem getElem?_addWaypoint (graph : Graph α) (waypoint : Waypoint) (node : Nat) :
    (graph.addWaypoint waypoint).waypoints[node]? =
      if node = graph.size then some waypoint else graph.waypoints[node]? :=
  Array.getElem?_push

/-- The new node stands behind the others that carry its identifier. -/
theorem bearers_addWaypoint (graph : Graph α) (waypoint : Waypoint) (ident : String) :
    (graph.addWaypoint waypoint).bearers ident =
      graph.bearers ident ++ if waypoint.ident = ident then [graph.size] else [] := by
  have older : (List.range graph.size).filter (fun node =>
        (graph.addWaypoint waypoint).waypoints[node]?.any (·.ident == ident)) =
      graph.bearers ident := by
    refine List.filter_congr fun node member => ?_
    rw [getElem?_addWaypoint, if_neg (Nat.ne_of_lt (List.mem_range.mp member))]
  unfold bearers at older ⊢
  rw [size_addWaypoint, List.range_succ, List.filter_append, older]
  congr 1
  rw [List.filter_singleton, getElem?_addWaypoint, if_pos rfl, Option.any_some]
  by_cases carries : waypoint.ident = ident
  · rw [beq_iff_eq.mpr carries, if_pos carries]
    rfl
  · rw [beq_eq_false_iff_ne.mpr carries, if_neg carries]
    rfl

theorem addWaypoint_wellFormed {graph : Graph α} (wellFormed : graph.WellFormed)
    (waypoint : Waypoint) : (graph.addWaypoint waypoint).WellFormed where
  outgoing_size := by
    rw [size_addWaypoint, ← wellFormed.outgoing_size]
    exact Array.size_push _
  target_lt node edges edge found member := by
    rw [size_addWaypoint]
    unfold addWaypoint at found
    rw [Array.getElem?_push] at found
    split at found
    · cases found
      simp at member
    · exact Nat.lt_succ_of_lt (wellFormed.target_lt node edges edge found member)
  indexed ident := by
    rw [bearers_addWaypoint]
    show (graph.positions.alter waypoint.ident _)[ident]? = _
    rw [Std.ExtHashMap.getElem?_alter]
    by_cases carries : waypoint.ident = ident
    · subst carries
      rw [if_pos (beq_self_eq_true _), if_pos rfl, if_neg (by simp), wellFormed.indexed]
      split
      · rename_i missing
        rw [missing]
        rfl
      · simp
    · rw [if_neg (by simpa using carries), if_neg carries, List.append_nil]
      exact wellFormed.indexed ident

/-! ### An edge more -/

variable [Distance α]

theorem waypoints_addEdge (graph : Graph α) (source target : Nat) (airway : String)
    (distance : Option α) :
    (graph.addEdge source target airway distance).waypoints = graph.waypoints := by
  unfold addEdge
  split <;> rfl

theorem positions_addEdge (graph : Graph α) (source target : Nat) (airway : String)
    (distance : Option α) :
    (graph.addEdge source target airway distance).positions = graph.positions := by
  unfold addEdge
  split <;> rfl

/-- What an edge more does to the edges: it stands behind the others of its node. -/
theorem outgoing_addEdge (graph : Graph α) (source target : Nat) (airway : String)
    (distance : Option α) :
    (graph.addEdge source target airway distance).outgoing = graph.outgoing ∨
      ∃ start finish, graph.waypoints[source]? = some start ∧
        graph.waypoints[target]? = some finish ∧
        (graph.addEdge source target airway distance).outgoing = graph.outgoing.modify source
          (·.push ⟨target, airway, distance.getD (Distance.between start finish)⟩) := by
  unfold addEdge
  split
  · rename_i start finish here found
    exact Or.inr ⟨start, finish, here, found, rfl⟩
  · exact Or.inl rfl

/-- An edge between two nodes stands behind the other edges of the first. -/
theorem outgoing_addEdge_of {graph : Graph α} {source target : Nat} {start finish : Waypoint}
    (place : graph.waypoints[source]? = some start)
    (there : graph.waypoints[target]? = some finish) (airway : String) (distance : Option α) :
    (graph.addEdge source target airway distance).outgoing = graph.outgoing.modify source
      (·.push ⟨target, airway, distance.getD (Distance.between start finish)⟩) := by
  unfold addEdge
  rw [place, there]

theorem addEdge_wellFormed {graph : Graph α} (wellFormed : graph.WellFormed)
    (source target : Nat) (airway : String) (distance : Option α) :
    (graph.addEdge source target airway distance).WellFormed := by
  have sizes : (graph.addEdge source target airway distance).size = graph.size := by
    rw [size, waypoints_addEdge]
    rfl
  refine ⟨?_, fun node edges edge found member => ?_, fun ident => ?_⟩
  · rw [sizes]
    rcases outgoing_addEdge graph source target airway distance with same | ⟨_, _, _, _, more⟩
    · rw [same, wellFormed.outgoing_size]
    · rw [more, Array.size_modify, wellFormed.outgoing_size]
  · rw [sizes]
    rcases outgoing_addEdge graph source target airway distance with
      same | ⟨_, _, _, inside, more⟩
    · rw [same] at found
      exact wellFormed.target_lt node edges edge found member
    · rw [more, Array.getElem?_modify] at found
      split at found
      · obtain ⟨older, before, rfl⟩ := Option.map_eq_some_iff.mp found
        rcases Array.mem_push.mp member with old | rfl
        · exact wellFormed.target_lt node older edge before old
        · exact (Array.getElem?_eq_some_iff.mp inside).1
      · exact wellFormed.target_lt node edges edge found member
  · rw [positions_addEdge, wellFormed.indexed]
    unfold bearers
    rw [sizes, waypoints_addEdge]

/-- **Every graph that was built is well formed.** -/
theorem Built.wellFormed {graph : Graph α} (built : graph.Built) : graph.WellFormed := by
  induction built with
  | empty => exact empty_wellFormed
  | addWaypoint waypoint _ ih => exact addWaypoint_wellFormed ih waypoint
  | addEdge source target airway distance _ ih =>
    exact addEdge_wellFormed ih source target airway distance

end FlightRoute.Graph
