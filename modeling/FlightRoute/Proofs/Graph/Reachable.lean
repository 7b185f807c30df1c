/-
**What holds of every graph that can come about.**

A graph is empty at first. It takes in waypoints and edges, and for the time of a request it takes in
more waypoints that are taken out again (`Step`). Whatever is done, in whatever order, the lists of the
graph fit together, the index lists for each name exactly the nodes that carry it, and every look-up by
name says exactly what it should (`Faithful`).

* `byWaypoint?_isLeast`: an exact waypoint is found at the first node that has it;
* `closestByIdent?_first`: the closest node of a name, and of several the first;
* `Step.sound`, `Reachable.sound`: what one step keeps, and what holds after any number of them;
* `reachable_faithful`: what follows for the graph.
-/

import Mathlib.Logic.Relation
import Mathlib.Order.Bounds.Basic
import FlightRoute.Proofs.Distance.Closest
import FlightRoute.Proofs.Distance.Planar
import FlightRoute.Proofs.Graph.Bounds

namespace FlightRoute

variable {α : Type}

namespace Graph

variable {graph : Graph α} {node : Nat} {waypoint reference : Waypoint} {ident : String}

/-! ### Exact waypoints -/

theorem bearers_sorted (graph : Graph α) (ident : String) :
    (graph.bearers ident).Pairwise (· < ·) :=
  List.pairwise_lt_range.filter _

/-- The candidates of a name are in order. -/
theorem candidates_sorted (exactIndex : graph.ExactIndex) (ident : String) :
    (graph.candidates ident).Pairwise fun first second => first.1 < second.1 := by
  have sorted := graph.bearers_sorted ident
  rw [← exactIndex, ← candidates_nodes exactIndex] at sorted
  exact List.pairwise_map.mp sorted

/-- The candidates of a name are the nodes that carry it. -/
theorem mem_candidates_iff (exactIndex : graph.ExactIndex) {own : Waypoint} :
    (node, own) ∈ graph.candidates ident ↔
      graph.waypoints[node]? = some own ∧ own.ident = ident := by
  rw [mem_candidates, exactIndex, mem_bearers]
  constructor
  · rintro ⟨⟨other, found, named⟩, here⟩
    rw [here] at found
    cases found
    exact ⟨here, named⟩
  · rintro ⟨here, named⟩
    exact ⟨⟨own, here, named⟩, here⟩

/-- The nodes with a waypoint that agrees with this one. -/
def agreeing (graph : Graph α) (waypoint : Waypoint) : Set Nat :=
  {node | ∃ own, graph.waypoints[node]? = some own ∧ (own == waypoint) = true}

theorem byWaypoint?_isSome_iff (wellFormed : graph.WellFormed) :
    (graph.byWaypoint? waypoint).isSome ↔ ∃ node, node ∈ graph.agreeing waypoint := by
  constructor
  · intro known
    obtain ⟨node, found⟩ := Option.isSome_iff_exists.mp known
    exact ⟨node, byWaypoint?_eq_some found⟩
  · rintro ⟨node, own, here, agrees⟩
    exact byWaypoint?_isSome wellFormed.exactIndex here agrees

/-- **An exact waypoint is found** at the first node that has it. -/
theorem byWaypoint?_isLeast (wellFormed : graph.WellFormed) :
    graph.byWaypoint? waypoint = some node ↔ IsLeast (graph.agreeing waypoint) node := by
  have least : ∀ {node : Nat}, graph.byWaypoint? waypoint = some node →
      IsLeast (graph.agreeing waypoint) node := by
    intro node found
    refine ⟨byWaypoint?_eq_some found, fun other agreeing => ?_⟩
    obtain ⟨place, there, agrees⟩ := agreeing
    unfold byWaypoint? at found
    obtain ⟨⟨_, own⟩, first, rfl⟩ := Option.map_eq_some_iff.mp found
    obtain ⟨_, front, back, split, others⟩ := List.find?_eq_some_iff_append.mp first
    have sorted := candidates_sorted wellFormed.exactIndex waypoint.ident
    have member : (other, place) ∈ graph.candidates waypoint.ident :=
      (mem_candidates_iff wellFormed.exactIndex).mpr ⟨there, Waypoint.ident_eq_of_beq agrees⟩
    rw [split] at member sorted
    rcases List.mem_append.mp member with before | here
    · have differs := others _ before
      rw [agrees] at differs
      cases differs
    · rcases List.mem_cons.mp here with same | behind
      · exact (Prod.mk.inj same).1.ge
      · exact (List.rel_of_pairwise_cons (List.pairwise_append.mp sorted).2.1 behind).le
  refine ⟨least, fun here => ?_⟩
  have known := (byWaypoint?_isSome_iff wellFormed).mpr ⟨node, here.1⟩
  obtain ⟨other, found⟩ := Option.isSome_iff_exists.mp known
  rw [found, (least found).unique here]

/-! ### The closest node of a name -/

variable [Distance α]

/-- How far the nodes of a name are from a reference. -/
def lengthsFrom (graph : Graph α) (ident : String) (reference : Waypoint) : Set α :=
  {length | ∃ (node : Nat) (own : Waypoint), graph.waypoints[node]? = some own ∧ own.ident = ident ∧
    length = Distance.between own reference}

/-- There is a closest node of a name when there are nodes of that name. -/
theorem closestByIdent?_isSome_iff (exactIndex : graph.ExactIndex) :
    (graph.closestByIdent? ident reference).isSome ↔
      ∃ (node : Nat) (own : Waypoint), graph.waypoints[node]? = some own ∧ own.ident = ident := by
  constructor
  · intro known
    obtain ⟨node, found⟩ := Option.isSome_iff_exists.mp known
    exact ⟨node, closestByIdent?_eq_some exactIndex found⟩
  · rintro ⟨node, own, here⟩
    have nonempty : (graph.candidates ident).map (·.2) ≠ [] := by
      intro empty
      have member := (mem_candidates_iff exactIndex).mpr here
      rw [List.map_eq_nil_iff.mp empty] at member
      exact absurd member List.not_mem_nil
    obtain ⟨position, found⟩ := Option.isSome_iff_exists.mp (closestTo_isSome (α := α).mpr nonempty)
    have inside := closestTo_lt found
    rw [List.length_map] at inside
    rw [closestByIdent?, found, Option.bind_some, List.getElem?_eq_getElem inside]
    rfl

/-- **The closest node of a name** carries it, no node that carries it is closer, and of several such
nodes it is the first. -/
theorem closestByIdent?_first (exactIndex : graph.ExactIndex)
    (ranked : Distance.Ranked (graph.lengthsFrom ident reference))
    (found : graph.closestByIdent? ident reference = some node) :
    ∃ own, graph.waypoints[node]? = some own ∧ own.ident = ident ∧
      ∀ (other : Nat) (place : Waypoint), graph.waypoints[other]? = some place →
        place.ident = ident →
        Distance.le (Distance.between own reference : α) (Distance.between place reference) = true ∧
        (Distance.le (Distance.between place reference : α) (Distance.between own reference) = true →
          node ≤ other) := by
  have fewer : Distance.Ranked (lengthsTo α ((graph.candidates ident).map (·.2)) reference) := by
    refine ranked.mono fun length member => ?_
    obtain ⟨own, listed, same⟩ := member
    obtain ⟨⟨place, _⟩, candidate, rfl⟩ := List.mem_map.mp listed
    obtain ⟨here, named⟩ := (mem_candidates_iff exactIndex).mp candidate
    exact ⟨place, _, here, named, same⟩
  unfold closestByIdent? at found
  obtain ⟨position, closest, found⟩ := Option.bind_eq_some_iff.mp found
  obtain ⟨⟨_, own⟩, candidate, rfl⟩ := Option.map_eq_some_iff.mp found
  obtain ⟨same, listed, best⟩ := closestTo_first fewer closest
  rw [List.getElem?_map, candidate] at listed
  cases listed
  obtain ⟨here, named⟩ := (mem_candidates_iff exactIndex).mp (List.mem_of_getElem? candidate)
  refine ⟨own, here, named, fun other place there carries => ?_⟩
  have member := (mem_candidates_iff exactIndex).mpr ⟨there, carries⟩
  obtain ⟨index, inside⟩ := List.mem_iff_getElem?.mp member
  have listed : ((graph.candidates ident).map (·.2))[index]? = some place := by
    rw [List.getElem?_map, inside]
    rfl
  refine ⟨best.least index place listed, fun level => ?_⟩
  have late : position ≤ index := by
    by_contra early
    have apart := best.first index place listed (Nat.lt_of_not_le early)
    rw [level] at apart
    cases apart
  rcases Nat.eq_or_lt_of_le late with rfl | behind
  · rw [candidate] at inside
    cases inside
    exact le_rfl
  · obtain ⟨low, first⟩ := List.getElem?_eq_some_iff.mp candidate
    obtain ⟨high, second⟩ := List.getElem?_eq_some_iff.mp inside
    have sorted := List.pairwise_iff_getElem.mp (candidates_sorted exactIndex ident)
      position index low high behind
    rw [first, second] at sorted
    exact sorted.le

/-! ### What a graph says of itself -/

/-- The lists of the graph fit together, the index is exact, and so is every look-up by name. -/
structure Faithful (graph : Graph α) : Prop where
  /-- There is a list of edges for each waypoint. -/
  outgoing_size : graph.outgoing.size = graph.size
  target_lt : ∀ (node : Nat) (edges : Array (Edge α)), graph.outgoing[node]? = some edges →
    ∀ edge ∈ edges, edge.target < graph.size
  /-- The index lists the nodes that carry a name, all of them and no others. -/
  listed : ∀ (ident : String) (node : Nat), node ∈ graph.allByIdent ident ↔
    ∃ own, graph.waypoints[node]? = some own ∧ own.ident = ident
  sorted : ∀ ident, (graph.allByIdent ident).toList.Pairwise (· < ·)
  /-- No name is listed without a node. -/
  entry : ∀ (ident : String) (nodes : Array Nat), graph.positions[ident]? = some nodes → nodes ≠ #[]
  exact_isSome : ∀ waypoint,
    (graph.byWaypoint? waypoint).isSome ↔ ∃ node, node ∈ graph.agreeing waypoint
  exact_isLeast : ∀ waypoint node,
    graph.byWaypoint? waypoint = some node ↔ IsLeast (graph.agreeing waypoint) node
  closest_isSome : ∀ ident reference, (graph.closestByIdent? ident reference).isSome ↔
    ∃ (node : Nat) (own : Waypoint), graph.waypoints[node]? = some own ∧ own.ident = ident
  /-- Where lengths are in order the closest node of a name is at minimal distance, and of several the
  first. -/
  closest_first : ∀ ident reference node,
    Distance.Ranked (graph.lengthsFrom ident reference) →
    graph.closestByIdent? ident reference = some node →
    ∃ own, graph.waypoints[node]? = some own ∧ own.ident = ident ∧
      ∀ (other : Nat) (place : Waypoint), graph.waypoints[other]? = some place →
        place.ident = ident →
        Distance.le (Distance.between own reference : α) (Distance.between place reference) = true ∧
        (Distance.le (Distance.between place reference : α) (Distance.between own reference) = true →
          node ≤ other)

/-- **A well-formed graph is faithful.** -/
theorem WellFormed.faithful (wellFormed : graph.WellFormed) : graph.Faithful where
  outgoing_size := wellFormed.outgoing_size
  target_lt node edges leaving edge member := wellFormed.target_lt node edges edge leaving member
  listed ident node := by
    rw [← Array.mem_toList_iff, wellFormed.exactIndex, mem_bearers]
  sorted ident := wellFormed.exactIndex ident ▸ graph.bearers_sorted ident
  entry ident nodes known := by
    rw [wellFormed.indexed] at known
    split at known
    · cases known
    · rename_i within
      cases known
      simpa using within
  exact_isSome _ := byWaypoint?_isSome_iff wellFormed
  exact_isLeast _ _ := byWaypoint?_isLeast wellFormed
  closest_isSome _ _ := closestByIdent?_isSome_iff wellFormed.exactIndex
  closest_first _ _ _ := closestByIdent?_first wellFormed.exactIndex

end Graph

/-! ### All that can be done to a graph -/

/-- A graph that is on its own, or one that a scope holds. -/
inductive Phase (α : Type) where
  | settled (graph : Graph α)
  | held (scope : Scope α)

namespace Phase

/-- The graph that is there. -/
def graph : Phase α → Graph α
  | settled graph => graph
  | held scope => scope.graph

variable [Distance α]

/-- One thing that is done. While a scope is open it alone decides what is taken in. -/
inductive Step : Phase α → Phase α → Prop
  | addWaypoint (graph : Graph α) (waypoint : Waypoint) :
      Step (settled graph) (settled (graph.addWaypoint waypoint))
  | addEdge (graph : Graph α) (source target : Nat) (airway : String) (distance : Option α) :
      source < graph.size → target < graph.size →
      Step (settled graph) (settled (graph.addEdge source target airway distance))
  | addTwoWayEdge (graph : Graph α) (a b : Nat) (airway : String) (distance : Option α) :
      a < graph.size → b < graph.size →
      Step (settled graph) (settled (graph.addTwoWayEdge a b airway distance))
  | openScope (graph : Graph α) : Step (settled graph) (held graph.openScope)
  | inject (scope : Scope α) (waypoint : Waypoint) (links : Nat) :
      Step (held scope) (held (scope.inject waypoint links))
  | close (scope : Scope α) : Step (held scope) (settled scope.close)

/-- What comes about from nothing. -/
def Reachable (phase : Phase α) : Prop := Relation.ReflTransGen Step (settled .empty) phase

omit [Distance α] in
/-- A graph on its own is well formed, and so is the one behind a scope, which it gives back. -/
def Sound : Phase α → Prop
  | settled graph => graph.WellFormed
  | held scope => ∃ graph : Graph α, graph.WellFormed ∧ scope.Over graph

variable {phase next : Phase α}

/-- **One step** keeps the graph sound. -/
theorem Step.sound (step : Step phase next) (sound : phase.Sound) : next.Sound := by
  cases step with
  | addWaypoint graph waypoint => exact Graph.addWaypoint_wellFormed sound waypoint
  | addEdge graph source target airway distance _ _ =>
    exact Graph.addEdge_wellFormed sound source target airway distance
  | addTwoWayEdge graph a b airway distance _ _ =>
    exact Graph.addEdge_wellFormed (Graph.addEdge_wellFormed sound a b airway distance)
      b a airway distance
  | openScope graph => exact ⟨graph, sound, Scope.openScope_over sound⟩
  | inject scope waypoint links =>
    obtain ⟨graph, wellFormed, grown⟩ := sound
    exact ⟨graph, wellFormed, Scope.inject_over wellFormed grown waypoint links⟩
  | close scope =>
    obtain ⟨graph, wellFormed, grown⟩ := sound
    exact Scope.close_eq wellFormed grown ▸ wellFormed

/-- **Whatever is done**, the graph is sound. -/
theorem Reachable.sound (reachable : phase.Reachable) : phase.Sound := by
  induction reachable with
  | refl => exact Graph.empty_wellFormed
  | tail _ step ih => exact step.sound ih

omit [Distance α] in
theorem Sound.wellFormed (sound : phase.Sound) : phase.graph.WellFormed := by
  cases phase with
  | settled graph => exact sound
  | held scope =>
    obtain ⟨_, _, grown⟩ := sound
    exact grown.wellFormed

/-- **Every graph that can come about is faithful**, also while a scope holds more waypoints than there
were, and after they have been taken out again. -/
theorem reachable_faithful (reachable : phase.Reachable) : phase.graph.Faithful :=
  reachable.sound.wellFormed.faithful

/-- The crossing comes about waypoint by waypoint and edge by edge. -/
theorem crossing_reachable : Reachable (settled crossing) := by
  have row : Reachable (settled (((Graph.empty.addWaypoint ⟨"A", 0, 1⟩).addWaypoint
      ⟨"B", 0, 2⟩).addWaypoint ⟨"C", 0, 3⟩ : Graph ℚ)) :=
    ((Relation.ReflTransGen.refl.tail (.addWaypoint _ _)).tail (.addWaypoint _ _)).tail
      (.addWaypoint _ _)
  exact ((row.tail (.addEdge _ 0 1 "Y" none (by decide) (by decide))).tail
    (.addEdge _ 1 2 "Y" none (by decide) (by decide))).tail
      (.addEdge _ 0 2 "Z" (some 5) (by decide) (by decide))

/-- A second waypoint of one name, while it is there and when it is gone. -/
theorem reachable_faithful_crossing :
    let scope := crossing.openScope.inject ⟨"B", 0, 5⟩ 2
    Reachable (held scope) ∧ scope.graph.Faithful ∧
      (∀ ident reference, Distance.Ranked (scope.graph.lengthsFrom ident reference)) ∧
      Reachable (settled scope.close) ∧ scope.close.Faithful := by
  intro scope
  have within : Reachable (held scope) :=
    (crossing_reachable.tail (.openScope _)).tail (.inject _ _ _)
  have behind : Reachable (settled scope.close) := within.tail (.close _)
  exact ⟨within, reachable_faithful within, fun _ _ => Distance.ranked_of_exact _, behind,
    reachable_faithful behind⟩

end Phase

end FlightRoute
