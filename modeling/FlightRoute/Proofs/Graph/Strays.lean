/-
**Waypoints that are taken in without links.**

Such waypoints stand behind the nodes of the graph, and no edge leads to them or from them
(`Graph.Strays`). They may be near, though: what is nearest to a reference is what was nearest before
exactly as long as no stray is among it, and that is so when enough of the old waypoints are no further
away than any stray.

* `withLiterals_strays`: waypoints that are taken in without links are strays;
* `nearest_eq_iff`, `nearest_eq_iff_countWithin`: when the nearest nodes are those without the strays.
-/

import Mathlib.Data.List.Count
import FlightRoute.Proofs.Graph.Nearest
import FlightRoute.Proofs.Resolve.Rollback

namespace FlightRoute

variable {α : Type}

namespace Graph

/-- The grown graph is the old one with waypoints behind it that no edge leads to or from. -/
structure Strays (grown graph : Graph α) (strays : List Waypoint) : Prop where
  old : graph.WellFormed
  wellFormed : grown.WellFormed
  waypoints : grown.waypoints.toList = graph.waypoints.toList ++ strays
  outgoing : ∀ node < graph.size, grown.outgoing[node]? = graph.outgoing[node]?
  isolated : ∀ (node : Nat) (edges : Array (Edge α)), graph.size ≤ node →
    grown.outgoing[node]? = some edges → edges = #[]

variable {grown graph : Graph α} {strays : List Waypoint} {node : Nat}

theorem Strays.none (wellFormed : graph.WellFormed) : graph.Strays graph [] where
  old := wellFormed
  wellFormed := wellFormed
  waypoints := (List.append_nil _).symm
  outgoing _ _ := rfl
  isolated node edges behind leaving := by
    have inside := (Array.getElem?_eq_some_iff.mp leaving).1
    rw [wellFormed.outgoing_size] at inside
    omega

theorem Strays.size (behind : grown.Strays graph strays) :
    grown.size = graph.size + strays.length := by
  have lengths := congrArg List.length behind.waypoints
  simpa [Graph.size] using lengths

/-- One stray more. -/
theorem Strays.addWaypoint (behind : grown.Strays graph strays) (waypoint : Waypoint) :
    (grown.addWaypoint waypoint).Strays graph (strays ++ [waypoint]) where
  old := behind.old
  wellFormed := addWaypoint_wellFormed behind.wellFormed waypoint
  waypoints := by
    show (grown.waypoints.push waypoint).toList = _
    rw [Array.toList_push, behind.waypoints, List.append_assoc]
  outgoing node inside := by
    have before : node < grown.outgoing.size := by
      rw [behind.wellFormed.outgoing_size, behind.size]
      omega
    show (grown.outgoing.push #[])[node]? = _
    rw [Array.getElem?_push, if_neg (Nat.ne_of_lt before), behind.outgoing node inside]
  isolated node edges late leaving := by
    change (grown.outgoing.push #[])[node]? = some edges at leaving
    rw [Array.getElem?_push] at leaving
    split at leaving
    · exact (Option.some.inj leaving).symm
    · exact behind.isolated node edges late leaving

theorem Strays.waypoint_eq (behind : grown.Strays graph strays) (inside : node < graph.size) :
    grown.waypoints[node]? = graph.waypoints[node]? := by
  rw [← Array.getElem?_toList, ← Array.getElem?_toList, behind.waypoints,
    List.getElem?_append_left (by simpa [Graph.size] using inside)]

/-- The strays are the waypoints behind the old nodes. -/
theorem Strays.mem_iff {stray : Waypoint} (behind : grown.Strays graph strays) :
    stray ∈ strays ↔ ∃ node : Nat, graph.size ≤ node ∧ grown.waypoints[node]? = some stray := by
  have place : ∀ node : Nat, grown.waypoints[node]? = (graph.waypoints.toList ++ strays)[node]? := by
    intro node
    rw [← behind.waypoints, Array.getElem?_toList]
  have size : graph.waypoints.toList.length = graph.size := rfl
  constructor
  · intro member
    obtain ⟨index, here⟩ := List.mem_iff_getElem?.mp member
    refine ⟨graph.size + index, Nat.le_add_right _ _, ?_⟩
    rw [place, ← size, List.getElem?_append_right (Nat.le_add_right _ _), Nat.add_sub_cancel_left,
      here]
  · rintro ⟨node, late, found⟩
    rw [place, List.getElem?_append_right (size ▸ late)] at found
    exact List.mem_of_getElem? found

end Graph

/-! ### Taking waypoints in -/

section Injection

variable [Distance α]

theorem Scope.inject_unlinked (scope : Scope α) (waypoint : Waypoint) :
    (scope.inject waypoint 0).graph = scope.graph.addWaypoint waypoint := by
  unfold inject linkTargets
  rw [List.take_zero]
  rfl

theorem Scope.injectAll_strays {graph : Graph α} {scope : Scope α} {strays : List Waypoint}
    (behind : scope.graph.Strays graph strays) (waypoints : List Waypoint) :
    (scope.injectAll (waypoints.map fun waypoint => (waypoint, 0))).graph.Strays graph
      (strays ++ waypoints) := by
  induction waypoints generalizing scope strays with
  | nil =>
    rw [List.append_nil]
    exact behind
  | cons waypoint rest ih =>
    have further : (scope.inject waypoint 0).graph.Strays graph (strays ++ [waypoint]) := by
      rw [inject_unlinked]
      exact behind.addWaypoint waypoint
    rw [List.append_cons]
    exact ih further

/-- The graph with literals that were taken in without links. -/
def Graph.withLiterals (graph : Graph α) (literals : List Waypoint) : Graph α :=
  (graph.openScope.injectAll (literals.map fun literal => (literal, 0))).graph

/-- **Literals that are taken in without links** are strays. -/
theorem Graph.withLiterals_strays {graph : Graph α} (wellFormed : graph.WellFormed)
    (literals : List Waypoint) : (graph.withLiterals literals).Strays graph literals := by
  have behind : graph.openScope.graph.Strays graph [] := .none wellFormed
  exact Scope.injectAll_strays behind literals

end Injection

namespace Graph

variable {grown graph : Graph α} {strays : List Waypoint} {node : Nat} {waypoint : Waypoint}

/-! ### The nearest nodes -/

section Nearest

variable [Distance α] {reference : Waypoint} {count : Nat}

/-- What is kept of the first items when all of them are. -/
theorem take_filter {β : Type} {keep : β → Bool} {items : List β}
    (kept : ∀ item ∈ items.take count, keep item = true) :
    (items.filter keep).take count = items.take count := by
  induction items generalizing count with
  | nil => rfl
  | cons first rest ih =>
    cases count with
    | zero => rfl
    | succ count =>
      rw [List.filter_cons_of_pos (kept first List.mem_cons_self), List.take_succ_cons,
        List.take_succ_cons, ih fun item member => kept item (List.mem_cons_of_mem _ member)]

/-- How many waypoints of the graph are no further from a reference than another waypoint. -/
def countWithin (graph : Graph α) (reference waypoint : Waypoint) : Nat :=
  graph.waypoints.toList.countP fun own =>
    (Distance.order (Distance.between own reference : α) (Distance.between waypoint reference)).isLE

/-- Of nodes at the same distance the one of lower number comes first. -/
theorem byDistance_of_lt {a b : α × Nat} (less : a.2 < b.2) :
    byDistance a b = (Distance.order a.1 b.1).isLE := by
  unfold byDistance
  rw [Nat.compare_eq_lt.mpr less]
  cases Distance.order a.1 b.1 <;> rfl

variable [Distance.Ordered α]

/-- **The nearest nodes** are those without the strays unless a stray is among them. -/
theorem nearest_eq_iff (behind : grown.Strays graph strays) :
    grown.nearest reference count = graph.nearest reference count ↔
      ∀ node ∈ grown.nearest reference count, node < graph.size := by
  constructor
  · intro same node member
    exact lt_of_mem_nearest (same ▸ member)
  · intro inside
    rw [nearest_eq] at inside ⊢
    rw [nearest_eq, ← arranged_old behind.waypoints, take_filter]
    exact fun entry member => decide_eq_true (inside entry.2 (List.mem_map_of_mem member))

/-! ### How many waypoints keep a stray away -/

/-- The waypoints no further than a stray are the old nodes that come before it. -/
theorem countWithin_eq (behind : grown.Strays graph strays) {stray : α × Nat}
    (late : graph.size ≤ stray.2) (distance : stray.1 = Distance.between waypoint reference) :
    graph.countWithin reference waypoint =
      (grown.arranged reference).countP fun entry =>
        byDistance entry stray && decide (entry.2 < graph.size) := by
  have nodes : graph.waypoints.toList.zipIdx.map Prod.fst = graph.waypoints.toList :=
    List.zipIdx_map_fst 0 _
  calc graph.countWithin reference waypoint
      = (graph.measured reference).countP fun entry =>
          (Distance.order entry.1 stray.1).isLE := by
        rw [countWithin, measured, List.countP_map, distance]
        conv_lhs => rw [← nodes]
        rw [List.countP_map]
        rfl
    _ = (graph.arranged reference).countP fun entry =>
          (Distance.order entry.1 stray.1).isLE :=
        ((graph.arranged_perm reference).countP_eq _).symm
    _ = _ := by
        rw [← arranged_old behind.waypoints, List.countP_filter]
        refine List.countP_congr fun entry _ => ?_
        by_cases inside : entry.2 < graph.size
        · rw [byDistance_of_lt (Nat.lt_of_lt_of_le inside late)]
        · simp [inside]

/-- A node either is among the first ones by distance, or all of those come before it. -/
theorem first_before {stray entry : α × Nat}
    (first : entry ∈ (grown.arranged reference).take count)
    (later : stray ∈ (grown.arranged reference).drop count) :
    byDistance entry stray = true := by
  have ordered := grown.arranged_ordered reference
  rw [← List.take_append_drop count (grown.arranged reference),
    List.pairwise_append] at ordered
  exact ordered.2.2 entry first stray later

/-- A stray among the first nodes has fewer old ones before it. -/
theorem countWithin_lt (behind : grown.Strays graph strays) {stray : α × Nat}
    (late : graph.size ≤ stray.2) (distance : stray.1 = Distance.between waypoint reference)
    (first : stray ∈ (grown.arranged reference).take count) :
    graph.countWithin reference waypoint < count := by
  rw [countWithin_eq behind late distance,
    ← List.take_append_drop count (grown.arranged reference),
    List.countP_append]
  have after : ((grown.arranged reference).drop count).countP
      (fun entry => byDistance entry stray && decide (entry.2 < graph.size)) = 0 := by
    refine List.countP_eq_zero.mpr fun entry later old => ?_
    rw [Bool.and_eq_true, decide_eq_true_iff] at old
    have level := byDistance_antisymm (first_before first later) old.1
    omega
  have fewer : ((grown.arranged reference).take count).countP
        (fun entry => byDistance entry stray && decide (entry.2 < graph.size)) <
      ((grown.arranged reference).take count).length := by
    refine List.countP_lt_length_iff.mpr ⟨stray, first, ?_⟩
    rw [decide_eq_false (Nat.not_lt.mpr late), Bool.and_false]
  have most := List.length_take_le count (grown.arranged reference)
  omega

/-- A stray behind the first nodes has all of them before it. -/
theorem le_countWithin (behind : grown.Strays graph strays) {stray : α × Nat}
    (late : graph.size ≤ stray.2) (distance : stray.1 = Distance.between waypoint reference)
    (inside : ∀ entry ∈ (grown.arranged reference).take count,
      entry.2 < graph.size)
    (later : stray ∈ (grown.arranged reference).drop count) :
    count ≤ graph.countWithin reference waypoint := by
  rw [countWithin_eq behind late distance]
  have all : ((grown.arranged reference).take count).countP
        (fun entry => byDistance entry stray && decide (entry.2 < graph.size)) =
      ((grown.arranged reference).take count).length := by
    refine List.countP_eq_length.mpr fun entry first => ?_
    rw [first_before first later, decide_eq_true (inside entry first), Bool.and_self]
  have enough : count ≤ (grown.arranged reference).length := by
    have left := List.length_pos_of_mem later
    rw [List.length_drop] at left
    omega
  have part := (List.take_sublist count (grown.arranged reference)).countP_le
    (p := fun entry => byDistance entry stray && decide (entry.2 < graph.size))
  rw [all, List.length_take, Nat.min_eq_left enough] at part
  exact part

/-- **The nearest nodes are those without the strays** exactly when for every stray there are waypoints
enough that are no further away. -/
theorem nearest_eq_iff_countWithin (behind : grown.Strays graph strays) :
    grown.nearest reference count = graph.nearest reference count ↔
      ∀ stray ∈ strays, count ≤ graph.countWithin reference stray := by
  rw [nearest_eq_iff behind, nearest_eq]
  constructor
  · intro inside stray member
    obtain ⟨node, late, found⟩ := behind.mem_iff.mp member
    have inside : ∀ entry ∈ (grown.arranged reference).take count,
        entry.2 < graph.size := fun entry first => inside entry.2 (List.mem_map_of_mem first)
    have listed : (Distance.between stray reference, node) ∈
        grown.arranged reference :=
      (grown.arranged_perm reference).mem_iff.mpr (mem_measured.mpr ⟨stray, found, rfl⟩)
    rw [← List.take_append_drop count (grown.arranged reference)] at listed
    rcases List.mem_append.mp listed with first | later
    · exact absurd (inside _ first) (Nat.not_lt.mpr late)
    · exact le_countWithin behind late rfl inside later
  · intro enough node member
    obtain ⟨⟨distance, node⟩, first, rfl⟩ := List.mem_map.mp member
    by_contra late
    rw [Nat.not_lt] at late
    have listed := (grown.arranged_perm reference).mem_iff.mp (List.mem_of_mem_take first)
    obtain ⟨own, found, length⟩ := mem_measured.mp listed
    have few := countWithin_lt behind late length first
    have many := enough own (behind.mem_iff.mpr ⟨node, late, found⟩)
    omega

end Nearest

end Graph

end FlightRoute
