/-
**The nodes closest to a reference.**

Every node is measured from the reference, and the nodes are put in order by distance and then by
number. No two nodes are level in that order, so that there is only one way to put them: whatever is
sorted is what `nearest` reads its nodes from.

* `mem_nearest`: what is nearest is a node of the graph;
* `nearest_eq_of_sorted`: the nearest nodes are the first ones of any sorted arrangement;
* `arranged_old`: waypoints behind the nodes of a graph do not change the order of those;
* `nearest_closestFirst`: the nearest nodes come in order, and before all others (`ClosestFirst`).
-/

import Mathlib.Data.List.Perm.Basic
import FlightRoute.Graph.Lookup
import FlightRoute.Proofs.Distance.Ordered

namespace FlightRoute.Graph

variable {α : Type} [Distance α] {graph : Graph α} {reference : Waypoint} {count node : Nat}

/-- The nodes of the graph, each with its distance from a reference, by number. -/
def measured (graph : Graph α) (reference : Waypoint) : List (α × Nat) :=
  graph.waypoints.toList.zipIdx.map fun entry => (Distance.between entry.1 reference, entry.2)

/-- The measured nodes in order. -/
def arranged (graph : Graph α) (reference : Waypoint) : List (α × Nat) :=
  (graph.measured reference).mergeSort byDistance

theorem arranged_perm (graph : Graph α) (reference : Waypoint) :
    (graph.arranged reference).Perm (graph.measured reference) :=
  List.mergeSort_perm _ _

theorem nearest_eq (graph : Graph α) (reference : Waypoint) (count : Nat) :
    graph.nearest reference count = ((graph.arranged reference).take count).map (·.2) := rfl

theorem mem_measured {distance : α} :
    (distance, node) ∈ graph.measured reference ↔
      ∃ own, graph.waypoints[node]? = some own ∧ distance = Distance.between own reference := by
  unfold measured
  rw [List.mem_map]
  constructor
  · rintro ⟨⟨own, other⟩, member, same⟩
    cases same
    refine ⟨own, ?_, rfl⟩
    rw [← Array.getElem?_toList]
    exact List.mem_zipIdx_iff_getElem?.mp member
  · rintro ⟨own, found, rfl⟩
    rw [← Array.getElem?_toList] at found
    exact ⟨(own, node), List.mem_zipIdx_iff_getElem?.mpr found, rfl⟩

/-- **What is nearest is a node of the graph.** -/
theorem mem_nearest (member : node ∈ graph.nearest reference count) :
    ∃ own, graph.waypoints[node]? = some own := by
  rw [nearest_eq] at member
  obtain ⟨⟨distance, other⟩, taken, rfl⟩ := List.mem_map.mp member
  have arranged := List.mem_of_mem_take taken
  obtain ⟨own, found, _⟩ := mem_measured.mp ((graph.arranged_perm reference).mem_iff.mp arranged)
  exact ⟨own, found⟩

theorem lt_of_mem_nearest (member : node ∈ graph.nearest reference count) : node < graph.size := by
  obtain ⟨own, found⟩ := mem_nearest member
  exact (Array.getElem?_eq_some_iff.mp found).1

theorem length_nearest_le (graph : Graph α) (reference : Waypoint) (count : Nat) :
    (graph.nearest reference count).length ≤ count := by
  rw [nearest_eq, List.length_map]
  exact List.length_take_le _ _

/-- A node is measured once. -/
theorem measured_inj {a b : α × Nat} (first : a ∈ graph.measured reference)
    (second : b ∈ graph.measured reference) (same : a.2 = b.2) : a = b := by
  obtain ⟨own, found, length⟩ := mem_measured.mp first
  obtain ⟨other, place, distance⟩ := mem_measured.mp second
  rw [← same, found] at place
  cases place
  exact Prod.ext (length.trans distance.symm) same

/-- How two measured nodes compare: by distance, and then by number. -/
def compareMeasured (a b : α × Nat) : Ordering :=
  (Distance.order a.1 b.1).then (compare a.2 b.2)

section Ordered

variable [Distance.Ordered α]

instance instTransCmpMeasured : Std.TransCmp (compareMeasured (α := α)) := by
  have := Distance.Ordered.transCmp (α := α)
  have : Std.TransCmp fun a b : α × Nat => Distance.order a.1 b.1 :=
    { eq_swap := Std.OrientedCmp.eq_swap, isLE_trans := Std.TransCmp.isLE_trans }
  exact inferInstanceAs (Std.TransCmp
    (compareLex (fun a b : α × Nat => Distance.order a.1 b.1) (compareOn (·.2))))

theorem byDistance_trans (a b c : α × Nat) (first : byDistance a b = true)
    (second : byDistance b c = true) : byDistance a c = true :=
  instTransCmpMeasured.isLE_trans first second

theorem byDistance_total (a b : α × Nat) : (byDistance a b || byDistance b a) = true := by
  show ((compareMeasured a b).isLE || (compareMeasured b a).isLE) = true
  have swapped : compareMeasured a b = (compareMeasured b a).swap := Std.OrientedCmp.eq_swap
  rw [swapped]
  cases compareMeasured b a <;> rfl

/-- Nodes that are level are one node. -/
theorem byDistance_antisymm {a b : α × Nat} (first : byDistance a b = true)
    (second : byDistance b a = true) : a.2 = b.2 := by
  have level : compareMeasured a b = .eq := Std.OrientedCmp.isLE_antisymm first second
  exact Nat.compare_eq_eq.mp (Ordering.then_eq_eq.mp level).2

theorem arranged_ordered (graph : Graph α) (reference : Waypoint) :
    (graph.arranged reference).Pairwise fun a b => byDistance a b = true :=
  List.pairwise_mergeSort byDistance_trans byDistance_total _

/-- **There is one way to put the measured nodes in order.** -/
theorem arranged_eq {sorted : List (α × Nat)} (perm : sorted.Perm (graph.measured reference))
    (ordered : sorted.Pairwise fun a b => byDistance a b = true) :
    graph.arranged reference = sorted := by
  have arranged := graph.arranged_perm reference
  refine List.Perm.eq_of_pairwise ?_ (graph.arranged_ordered reference) ordered
    (arranged.trans perm.symm)
  intro a b left right before after
  exact measured_inj (arranged.mem_iff.mp left) (perm.mem_iff.mp right)
    (byDistance_antisymm before after)

/-- **The nearest nodes** are the first ones of any sorted arrangement. -/
theorem nearest_eq_of_sorted {sorted : List (α × Nat)}
    (perm : sorted.Perm (graph.measured reference))
    (ordered : sorted.Pairwise fun a b => byDistance a b = true) :
    graph.nearest reference count = (sorted.take count).map (·.2) := by
  rw [nearest_eq, arranged_eq perm ordered]

end Ordered

/-! ### Waypoints behind the others -/

section Grown

variable {grown : Graph α} {more : List Waypoint}

/-- The nodes that were there before are measured as before. -/
theorem measured_old (behind : grown.waypoints.toList = graph.waypoints.toList ++ more)
    (reference : Waypoint) :
    (grown.measured reference).filter (fun entry => decide (entry.2 < graph.size)) =
      graph.measured reference := by
  unfold measured
  have size : graph.waypoints.toList.length = graph.size := rfl
  rw [behind, List.zipIdx_append, List.map_append, List.filter_append, size]
  have kept : ∀ entry ∈ graph.waypoints.toList.zipIdx.map fun entry =>
      ((Distance.between entry.1 reference : α), entry.2), entry.2 < graph.size := by
    intro entry member
    obtain ⟨⟨own, index⟩, listed, rfl⟩ := List.mem_map.mp member
    exact size ▸ List.snd_lt_of_mem_zipIdx listed
  have dropped : ∀ entry ∈ (more.zipIdx (0 + graph.size)).map fun entry =>
      ((Distance.between entry.1 reference : α), entry.2), ¬entry.2 < graph.size := by
    intro entry member
    obtain ⟨⟨own, index⟩, listed, rfl⟩ := List.mem_map.mp member
    have low := List.le_snd_of_mem_zipIdx listed
    simpa using low
  rw [List.filter_eq_self.mpr fun entry member => decide_eq_true (kept entry member),
    List.filter_eq_nil_iff.mpr fun entry member => by simpa using dropped entry member,
    List.append_nil]

/-- All nodes by distance, without those behind, are the old nodes by distance. -/
theorem arranged_old [Distance.Ordered α]
    (behind : grown.waypoints.toList = graph.waypoints.toList ++ more) (reference : Waypoint) :
    (grown.arranged reference).filter (fun entry => decide (entry.2 < graph.size)) =
      graph.arranged reference := by
  symm
  refine arranged_eq ?_ ((grown.arranged_ordered reference).filter _)
  rw [← measured_old behind]
  exact (grown.arranged_perm reference).filter _

end Grown

/-! ### What comes first -/

/-- A node comes before another by the distance of its waypoint, and at the same distance by its number. -/
def Closer (graph : Graph α) (reference : Waypoint) (node other : Nat) : Prop :=
  ∃ own place, graph.waypoints[node]? = some own ∧ graph.waypoints[other]? = some place ∧
    (Distance.order (Distance.between own reference : α) (Distance.between place reference)).then
      (compare node other) = .lt

/-- Nodes in order, that come before all others. -/
structure ClosestFirst (graph : Graph α) (reference : Waypoint) (nodes : List Nat) : Prop where
  inside : ∀ node ∈ nodes, node < graph.size
  ordered : nodes.Pairwise (graph.Closer reference)
  before : ∀ node ∈ nodes, ∀ other < graph.size, other ∉ nodes → graph.Closer reference node other

/-- Every node is arranged once. -/
theorem arranged_nodes (graph : Graph α) (reference : Waypoint) :
    ((graph.arranged reference).map (·.2)).Perm (List.range graph.size) := by
  refine ((graph.arranged_perm reference).map _).trans (List.Perm.of_eq ?_)
  unfold measured
  rw [List.map_map, List.range_eq_range']
  exact List.zipIdx_map_snd 0 _

theorem length_arranged (graph : Graph α) (reference : Waypoint) :
    (graph.arranged reference).length = graph.size := by
  simpa using (graph.arranged_nodes reference).length_eq

theorem length_nearest (graph : Graph α) (reference : Waypoint) (count : Nat) :
    (graph.nearest reference count).length = min count graph.size := by
  rw [nearest_eq, List.length_map, List.length_take, length_arranged]

/-- There are nearest nodes unless none are asked for or none are there. -/
theorem nearest_eq_nil_iff : graph.nearest reference count = [] ↔ count = 0 ∨ graph.size = 0 := by
  rw [← List.length_eq_zero_iff, length_nearest]
  omega

theorem nodup_nearest (graph : Graph α) (reference : Waypoint) (count : Nat) :
    (graph.nearest reference count).Nodup := by
  have once : ((graph.arranged reference).map (·.2)).Nodup :=
    (graph.arranged_nodes reference).nodup_iff.mpr List.nodup_range
  rw [nearest_eq, List.map_take]
  exact once.sublist (List.take_sublist _ _)

variable [Distance.Ordered α]

/-- Of two nodes in order the first one comes before the second. -/
theorem arranged_closer (graph : Graph α) (reference : Waypoint) :
    ((graph.arranged reference).map (·.2)).Pairwise (graph.Closer reference) := by
  have once : ((graph.arranged reference).map (·.2)).Nodup :=
    (graph.arranged_nodes reference).nodup_iff.mpr List.nodup_range
  rw [List.pairwise_map]
  refine ((graph.arranged_ordered reference).and (List.pairwise_map.mp once)).imp_of_mem ?_
  rintro ⟨length, node⟩ ⟨distance, other⟩ first second ⟨before, apart⟩
  obtain ⟨own, here, rfl⟩ := mem_measured.mp ((graph.arranged_perm reference).mem_iff.mp first)
  obtain ⟨place, there, rfl⟩ := mem_measured.mp ((graph.arranged_perm reference).mem_iff.mp second)
  refine ⟨own, place, here, there, ?_⟩
  have order := Ordering.isLE_iff_eq_lt_or_eq_eq.mp before
  refine order.resolve_right fun level => apart ?_
  exact Nat.compare_eq_eq.mp (Ordering.then_eq_eq.mp level).2

/-- **The nearest nodes** come in order, and before all others. -/
theorem nearest_closestFirst (graph : Graph α) (reference : Waypoint) (count : Nat) :
    graph.ClosestFirst reference (graph.nearest reference count) := by
  have ordered := graph.arranged_closer reference
  have all := graph.arranged_nodes reference
  have front := graph.nearest_eq reference count
  rw [List.map_take] at front
  rw [← List.take_append_drop count ((graph.arranged reference).map (·.2)), List.pairwise_append,
    ← front] at ordered
  refine ⟨fun node => lt_of_mem_nearest, ordered.1, fun node member other inside apart => ?_⟩
  refine ordered.2.2 node member other ?_
  have listed := all.mem_iff.mpr (List.mem_range.mpr inside)
  rw [← List.take_append_drop count ((graph.arranged reference).map (·.2)), ← front] at listed
  exact (List.mem_append.mp listed).resolve_left apart

end FlightRoute.Graph
