/-
**The graph of a snapshot.**

The graph is built from nothing: first a node for each waypoint, by its position in the list, then the
edges of the airways. Its waypoints are therefore those of the snapshot, and where no airway is given a
negative length no edge has one.

* `graph_built`: the graph was built, over the waypoints of the snapshot;
* `graph_nonnegative`: none of its edges is of negative length.
-/

import FlightRoute.Proofs.Graph.Built
import FlightRoute.Proofs.ShortestRoute.Connection
import FlightRoute.Snapshot

namespace FlightRoute.Snapshot

variable {α : Type} [Distance α] {snapshot : Snapshot α} {graph grown : Graph α}

/-! ### Waypoints -/

/-- A graph that was built over a list of waypoints. -/
structure Over (graph : Graph α) (waypoints : List Waypoint) : Prop where
  built : graph.Built
  waypoints : graph.waypoints.toList = waypoints

theorem foldl_addWaypoint (waypoints older : List Waypoint) (based : Over graph older) :
    Over (waypoints.foldl Graph.addWaypoint graph) (older ++ waypoints) := by
  induction waypoints generalizing graph older with
  | nil => simpa using based
  | cons waypoint rest ih =>
    have more : Over (graph.addWaypoint waypoint) (older ++ [waypoint]) := by
      refine ⟨.addWaypoint waypoint based.built, ?_⟩
      rw [← based.waypoints]
      exact Array.toList_push
    have whole := ih (older ++ [waypoint]) more
    rwa [List.append_assoc] at whole

/-- An airway adds edges, and no waypoints. -/
theorem addAirway_over {waypoints : List Waypoint} {entry : AirwayRecord α × Nat}
    (based : Over graph waypoints) (added : addAirway graph entry = .ok grown) :
    Over grown waypoints := by
  have edge : ∀ {graph : Graph α} source target airway distance, Over graph waypoints →
      Over (graph.addEdge source target airway distance) waypoints := by
    intro graph source target airway distance based
    exact ⟨.addEdge source target airway distance based.built,
      (congrArg _ (Graph.waypoints_addEdge ..)).trans based.waypoints⟩
  unfold addAirway at added
  dsimp only at added
  split at added
  · split at added
    · cases added
      exact edge _ _ _ _ based
    · cases added
      exact edge _ _ _ _ (edge _ _ _ _ based)
  · cases added

/-- **The graph of a snapshot** was built over its waypoints. -/
theorem graph_built (made : snapshot.graph = .ok graph) : Over graph snapshot.waypoints := by
  have start : Over (snapshot.waypoints.foldl Graph.addWaypoint Graph.empty : Graph α)
      ([] ++ snapshot.waypoints) := foldl_addWaypoint _ [] ⟨.empty, rfl⟩
  exact foldlM_invariant (P := fun graph => Over graph snapshot.waypoints)
    (fun _ _ _ _ based added => addAirway_over based added) made start

/-! ### Lengths -/

variable [Zero α] [LE α]

omit [Distance α] in
/-- No airway is given a negative length. -/
def Nonnegative (snapshot : Snapshot α) : Prop :=
  ∀ record ∈ snapshot.airways, ∀ length ∈ record.distance, 0 ≤ length

omit [Distance α] in
instance instDecidableNonnegative [DecidableLE α] (snapshot : Snapshot α) :
    Decidable snapshot.Nonnegative :=
  inferInstanceAs (Decidable (∀ record ∈ snapshot.airways, ∀ length ∈ record.distance, 0 ≤ length))

/-- An edge of a length that is not negative leaves the others as they are. -/
theorem addEdge_nonnegative [Distance.Nonnegative α] (nonnegative : graph.Nonnegative)
    (source target : Nat) (airway : String) {distance : Option α}
    (given : ∀ length ∈ distance, 0 ≤ length) :
    (graph.addEdge source target airway distance).Nonnegative := by
  rcases Graph.outgoing_addEdge graph source target airway distance with
    same | ⟨start, finish, _, _, more⟩
  · unfold Graph.Nonnegative
    rwa [same]
  · intro edges member edge inside
    rw [more] at member
    obtain ⟨node, found⟩ := Array.mem_iff_getElem?.mp member
    rw [Array.getElem?_modify] at found
    split at found
    · obtain ⟨older, before, rfl⟩ := Option.map_eq_some_iff.mp found
      rcases Array.mem_push.mp inside with old | rfl
      · exact nonnegative older (Array.mem_of_getElem? before) edge old
      · cases distance with
        | none => exact Distance.between_nonneg start finish
        | some length => exact given length rfl
    · exact nonnegative edges (Array.mem_of_getElem? found) edge inside

omit [Distance α] in
theorem foldl_addWaypoint_nonnegative (waypoints : List Waypoint) (nonnegative : graph.Nonnegative) :
    (waypoints.foldl Graph.addWaypoint graph).Nonnegative := by
  induction waypoints generalizing graph with
  | nil => exact nonnegative
  | cons waypoint rest ih =>
    refine ih fun edges member edge inside => ?_
    rcases Array.mem_push.mp member with old | rfl
    · exact nonnegative edges old edge inside
    · simp at inside

/-- **No edge of the graph is of negative length** when no airway is given one. -/
theorem graph_nonnegative [Distance.Nonnegative α] (given : snapshot.Nonnegative)
    (made : snapshot.graph = .ok graph) : graph.Nonnegative := by
  have start : (Graph.empty : Graph α).Nonnegative := by simp [Graph.Nonnegative, Graph.empty]
  refine foldlM_invariant (P := Graph.Nonnegative) (fun graph entry grown member holds added => ?_)
    made (foldl_addWaypoint_nonnegative snapshot.waypoints start)
  have lengths := given entry.1 (List.mem_of_getElem? (List.mem_zipIdx_iff_getElem?.mp member))
  unfold addAirway at added
  dsimp only at added
  split at added
  · split at added
    · cases added
      exact addEdge_nonnegative holds _ _ _ lengths
    · cases added
      exact addEdge_nonnegative (addEdge_nonnegative holds _ _ _ lengths) _ _ _ lengths
  · cases added

end FlightRoute.Snapshot
