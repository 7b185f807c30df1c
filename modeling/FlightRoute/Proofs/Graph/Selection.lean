/-
**The nearest nodes are the front of all nodes in order.**

Distance first and number second put the nodes of a graph in a strict order (`Closer`). Whoever asks for a number
of nodes gets that many, or all there are: different ones, in order, and before all that are left out. Nothing
else is of this kind, so that asking for more nodes only adds some behind.

* `Closer.asymm`: no two nodes come before each other;
* `ClosestFirst.eq_of_length`: so many nodes in order before all others are always the same;
* `nearest_append`: more nodes stand behind the ones that are nearest;
* `nearest_selects`: all of it.
-/

import Mathlib.Data.List.Perm.Subperm
import FlightRoute.Proofs.Distance.Planar
import FlightRoute.Proofs.Graph.Nearest

namespace FlightRoute.Graph

variable {α : Type} [Distance α] {graph : Graph α} {reference : Waypoint} {node other : Nat}
  {nodes others : List Nat}

/-! ### The order of the nodes -/

section Ordered

variable [Distance.Ordered α]

/-- No two nodes come before each other. -/
theorem Closer.asymm (before : graph.Closer reference node other) :
    ¬graph.Closer reference other node := by
  rintro ⟨place, own, there, here, after⟩
  obtain ⟨first, second, found, known, order⟩ := before
  obtain rfl : first = own := Option.some.inj (found.symm.trans here)
  obtain rfl : second = place := Option.some.inj (known.symm.trans there)
  have ahead : compareMeasured ((Distance.between first reference : α), node)
      (Distance.between second reference, other) = .lt := order
  have behind : compareMeasured ((Distance.between second reference : α), other)
      (Distance.between first reference, node) = .lt := after
  rw [Std.OrientedCmp.gt_of_lt ahead] at behind
  cases behind

/-- Nodes in order are different ones. -/
theorem ClosestFirst.nodup (closest : graph.ClosestFirst reference nodes) : nodes.Nodup :=
  closest.ordered.imp fun before same => (same ▸ before).asymm (same ▸ before)

/-- Of as many nodes none is left out by either. -/
theorem ClosestFirst.subset (closest : graph.ClosestFirst reference nodes)
    (also : graph.ClosestFirst reference others) (length : nodes.length = others.length) :
    nodes ⊆ others := by
  intro node member
  by_contra missing
  -- What stands in place of the node is left out on the other side, so each comes before the other.
  obtain ⟨other, listed, spare⟩ : ∃ other ∈ others, other ∉ nodes := by
    by_contra none
    push Not at none
    have perm := (List.subperm_of_subset also.nodup none).perm_of_length_le length.le
    exact missing (perm.mem_iff.mpr member)
  have before := closest.before node member other (also.inside other listed) spare
  exact before.asymm (also.before other listed node (closest.inside node member) missing)

/-- **So many nodes in order before all others** are always the same. -/
theorem ClosestFirst.eq_of_length (closest : graph.ClosestFirst reference nodes)
    (also : graph.ClosestFirst reference others) (length : nodes.length = others.length) :
    nodes = others := by
  have perm : nodes.Perm others :=
    (List.subperm_of_subset closest.nodup (closest.subset also length)).perm_of_length_le length.ge
  refine perm.eq_of_pairwise ?_ closest.ordered also.ordered
  intro node other _ _ before after
  exact absurd after before.asymm

end Ordered

/-! ### More nodes -/

/-- **More nodes** stand behind the ones that are nearest. -/
theorem nearest_append (graph : Graph α) (reference : Waypoint) (count more : Nat) :
    graph.nearest reference count <+: graph.nearest reference (count + more) := by
  rw [nearest_eq, nearest_eq]
  exact (List.take_prefix_take_left (Nat.le_add_right _ _)).map _

variable [Distance.Ordered α]

/-- **The nearest nodes are selected in order.** They are as many as are asked for, or all there are, they are
different, each comes before the next by its distance and at the same distance by its number, and all of them
come before every node that is left out. They are the only nodes of which this is true, and they are the first
ones of those that are nearest when more are asked for. -/
theorem nearest_selects (graph : Graph α) (reference : Waypoint) (count : Nat) :
    (graph.nearest reference count).length = min count graph.size ∧
    (graph.nearest reference count).Nodup ∧
    graph.ClosestFirst reference (graph.nearest reference count) ∧
    (∀ nodes, nodes.length = min count graph.size → graph.ClosestFirst reference nodes →
      nodes = graph.nearest reference count) ∧
    ∀ more, graph.nearest reference count <+: graph.nearest reference (count + more) := by
  have length := graph.length_nearest reference count
  have closest := graph.nearest_closestFirst reference count
  refine ⟨length, graph.nodup_nearest reference count, closest, fun nodes same also => ?_,
    graph.nearest_append reference count⟩
  exact also.eq_of_length closest (same.trans length.symm)

/-- Seen from the middle of the crossing the other two waypoints are as far, and the lower number comes first. -/
theorem nearest_selects_crossing : Distance.Ordered ℚ ∧ crossing.nearest ⟨"M", 0, 2⟩ 2 = [1, 0] ∧
    crossing.ClosestFirst ⟨"M", 0, 2⟩ [1, 0] ∧ [1, 0] <+: crossing.nearest ⟨"M", 0, 2⟩ 3 := by
  have sorted : [(0, 1), (1, 0), (1, 2)].Perm (crossing.measured ⟨"M", 0, 2⟩) := by decide +kernel
  have nearest : crossing.nearest ⟨"M", 0, 2⟩ 2 = [1, 0] :=
    nearest_eq_of_sorted sorted (by decide +kernel)
  obtain ⟨_, _, closest, _, front⟩ := nearest_selects crossing ⟨"M", 0, 2⟩ 2
  rw [nearest] at closest front
  exact ⟨inferInstance, nearest, closest, front 1⟩

end FlightRoute.Graph
