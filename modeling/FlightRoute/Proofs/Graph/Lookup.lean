/-
**What a look-up finds.**

* `byWaypoint?_eq_some`: the node of an exact waypoint carries a waypoint that agrees with it;
* `byWaypoint?_isSome`: with an exact index a waypoint that agrees with one of the graph is found;
* `closestByIdent?_eq_some`: with an exact index the closest node of an identifier carries it;
* `sameFix?_eq_some`: with an exact index the copy of a fix carries its name and is close to it;
* `byWaypoint?_of_unique`, `closestByIdent?_of_unique`, `sameFix?_of_unique`: what is found for a name that one
  node carries.
-/

import FlightRoute.Graph.Lookup
import FlightRoute.Proofs.Graph.Built
import FlightRoute.Proofs.Waypoint

namespace FlightRoute.Graph

variable {α : Type} {graph : Graph α} {node : Nat} {waypoint own : Waypoint}

theorem mem_candidates {ident : String} :
    (node, own) ∈ graph.candidates ident ↔
      node ∈ (graph.allByIdent ident).toList ∧ graph.waypoints[node]? = some own := by
  unfold candidates
  rw [List.mem_filterMap]
  constructor
  · rintro ⟨other, listed, here⟩
    obtain ⟨_, found, same⟩ := Option.map_eq_some_iff.mp here
    cases same
    exact ⟨listed, found⟩
  · rintro ⟨listed, found⟩
    exact ⟨node, listed, by rw [found]; rfl⟩

/-- With an exact index the candidates are the nodes that carry the identifier. -/
theorem candidates_eq (exactIndex : graph.ExactIndex) {ident : String} {nodes : List Nat}
    (bearers : graph.bearers ident = nodes) :
    graph.candidates ident = nodes.filterMap fun node =>
      graph.waypoints[node]?.map fun waypoint => (node, waypoint) := by
  rw [candidates, exactIndex, bearers]

/-- **A node that is found by its waypoint** carries a waypoint that agrees. -/
theorem byWaypoint?_eq_some (found : graph.byWaypoint? waypoint = some node) :
    ∃ own, graph.waypoints[node]? = some own ∧ (own == waypoint) = true := by
  unfold byWaypoint? at found
  obtain ⟨⟨other, own⟩, first, rfl⟩ := Option.map_eq_some_iff.mp found
  have member : (other, own) ∈ graph.candidates waypoint.ident := List.mem_of_find?_eq_some first
  have agrees := List.find?_some first
  exact ⟨own, (mem_candidates.mp member).2, agrees⟩

/-- The graph has this waypoint, or one that agrees with it. -/
def Holds (graph : Graph α) (waypoint : Waypoint) : Prop :=
  ∃ (node : Nat) (own : Waypoint), graph.waypoints[node]? = some own ∧ own.Same waypoint

/-- Every waypoint agrees with itself: all coordinates are numbers. -/
def Comparable (graph : Graph α) : Prop := ∀ waypoint ∈ graph.waypoints, (waypoint == waypoint) = true

theorem Comparable.beq (comparable : graph.Comparable) (found : graph.waypoints[node]? = some own)
    (same : own.Same waypoint) : (own == waypoint) = true := by
  rcases same with rfl | agrees
  · exact comparable own (Array.mem_of_getElem? found)
  · exact agrees

/-- A waypoint that such a graph has agrees with every one that is the same. -/
theorem Comparable.holds_beq {other : Waypoint} (comparable : graph.Comparable)
    (holds : graph.Holds waypoint) (same : waypoint.Same other) : (waypoint == other) = true := by
  obtain ⟨node, own, found, agrees⟩ := holds
  exact BEq.trans (BEq.symm (comparable.beq found agrees)) (comparable.beq found (agrees.trans same))

/-- A waypoint that agrees with one of the graph is found. -/
theorem byWaypoint?_isSome (exactIndex : graph.ExactIndex) (found : graph.waypoints[node]? = some own)
    (agrees : (own == waypoint) = true) : (graph.byWaypoint? waypoint).isSome := by
  have listed : node ∈ (graph.allByIdent waypoint.ident).toList := by
    rw [exactIndex]
    exact mem_bearers.mpr ⟨own, found, Waypoint.ident_eq_of_beq agrees⟩
  have candidate : (node, own) ∈ graph.candidates waypoint.ident := mem_candidates.mpr ⟨listed, found⟩
  unfold byWaypoint?
  rw [Option.isSome_map, List.find?_isSome]
  exact ⟨(node, own), candidate, agrees⟩

/-- The candidate for a name that one node carries. -/
theorem candidates_of_unique (exactIndex : graph.ExactIndex) {ident : String}
    (bearers : graph.bearers ident = [node]) (found : graph.waypoints[node]? = some own) :
    graph.candidates ident = [(node, own)] := by
  rw [candidates_eq exactIndex bearers, List.filterMap_cons, found]
  rfl

/-- If one node carries the name, it is found by a waypoint that agrees with its own. -/
theorem byWaypoint?_of_unique (exactIndex : graph.ExactIndex)
    (bearers : graph.bearers waypoint.ident = [node]) (found : graph.waypoints[node]? = some own)
    (agrees : (own == waypoint) = true) : graph.byWaypoint? waypoint = some node := by
  rw [byWaypoint?, candidates_of_unique exactIndex bearers found, List.find?_cons, agrees]
  rfl

variable [Distance α]

/-- If one node carries the name, it is the closest one to every reference. -/
theorem closestByIdent?_of_unique (exactIndex : graph.ExactIndex) {ident : String}
    (bearers : graph.bearers ident = [node]) (reference : Waypoint) :
    graph.closestByIdent? ident reference = some node := by
  have carries : node ∈ graph.bearers ident := bearers ▸ List.mem_singleton_self node
  obtain ⟨own, found, _⟩ := mem_bearers.mp carries
  rw [closestByIdent?, candidates_of_unique exactIndex bearers found]
  rfl

/-- If one node carries the name of a fix and is close to it, it is the copy of the fix. -/
theorem sameFix?_of_unique (exactIndex : graph.ExactIndex) {fix : Waypoint}
    (bearers : graph.bearers fix.ident = [node]) (found : graph.waypoints[node]? = some own)
    (near : Distance.le (Distance.between own fix) (Distance.sameFix : α) = true) :
    graph.sameFix? fix = some node := by
  rw [sameFix?, closestByIdent?_of_unique exactIndex bearers]
  exact Option.filter_eq_some_iff.mpr ⟨rfl, by rw [found, Option.any_some, near]⟩

/-- A fix whose name no node carries has no copy. -/
theorem sameFix?_of_unnamed (exactIndex : graph.ExactIndex) {fix : Waypoint}
    (bearers : graph.bearers fix.ident = []) : graph.sameFix? fix = none := by
  rw [sameFix?, closestByIdent?, candidates_eq exactIndex bearers]
  rfl

/-- **The closest node of an identifier** carries that identifier. -/
theorem closestByIdent?_eq_some (exactIndex : graph.ExactIndex) {ident : String}
    (found : graph.closestByIdent? ident waypoint = some node) :
    ∃ own, graph.waypoints[node]? = some own ∧ own.ident = ident := by
  unfold closestByIdent? at found
  obtain ⟨position, _, found⟩ := Option.bind_eq_some_iff.mp found
  obtain ⟨⟨other, own⟩, here, rfl⟩ := Option.map_eq_some_iff.mp found
  obtain ⟨listed, place⟩ := mem_candidates.mp (List.mem_of_getElem? here)
  rw [exactIndex] at listed
  obtain ⟨same, found, carries⟩ := mem_bearers.mp listed
  exact ⟨same, found, carries⟩

/-- A waypoint of the graph by the name of a fix, close enough to be the same fix. -/
def Copies (graph : Graph α) (fix waypoint : Waypoint) : Prop :=
  ∃ (node : Nat) (own : Waypoint), graph.waypoints[node]? = some own ∧ own.ident = fix.ident ∧
    Distance.le (Distance.between own fix) (Distance.sameFix : α) = true ∧ own.Same waypoint

theorem Copies.named {fix : Waypoint} (copies : graph.Copies fix waypoint) :
    waypoint.ident = fix.ident := by
  obtain ⟨_, own, _, named, _, same⟩ := copies
  exact same.ident_eq.symm.trans named

theorem Copies.holds {fix : Waypoint} (copies : graph.Copies fix waypoint) :
    graph.Holds waypoint := by
  obtain ⟨node, own, place, _, _, same⟩ := copies
  exact ⟨node, own, place, same⟩

theorem Copies.same {fix other : Waypoint} (copies : graph.Copies fix waypoint)
    (same : waypoint.Same other) : graph.Copies fix other := by
  obtain ⟨node, own, place, named, near, agrees⟩ := copies
  exact ⟨node, own, place, named, near, agrees.trans same⟩

/-- **The graph's copy of a fix** carries its name and is close to it. -/
theorem sameFix?_eq_some (exactIndex : graph.ExactIndex) {fix : Waypoint}
    (found : graph.sameFix? fix = some node) :
    ∃ own, graph.waypoints[node]? = some own ∧ graph.Copies fix own := by
  unfold sameFix? at found
  obtain ⟨closest, near⟩ := Option.filter_eq_some_iff.mp found
  obtain ⟨own, place, named⟩ := closestByIdent?_eq_some exactIndex closest
  rw [place, Option.any_some] at near
  exact ⟨own, place, node, own, place, named, near, .refl own⟩

end FlightRoute.Graph
