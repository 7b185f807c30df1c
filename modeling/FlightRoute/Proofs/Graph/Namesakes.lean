/-
**Look-ups by name past strays.**

A stray may carry the name of an old waypoint, but it comes behind all old ones of that name. An exact
waypoint that the graph has is therefore found as before; the closest waypoint of a name is the one before
or a stray, and so is the graph's copy of a fix, as long as the strays hide none (`Recalls`). On exact
lengths they hide none: what takes the place of a copy is closer than the copy.

* `byWaypoint?_strays`: the node of an exact waypoint;
* `closestByIdent?_strays`, `sameFix?_strays`: the closest node of a name, and the copy of a fix;
* `recalls`: on exact lengths no copy is hidden.
-/

import FlightRoute.Proofs.Distance.Closest
import FlightRoute.Proofs.Graph.Lookup
import FlightRoute.Proofs.Graph.Strays

namespace FlightRoute

variable {α : Type}

namespace Graph

variable {grown graph : Graph α} {strays : List Waypoint} {ident : String}
  {waypoint reference fix : Waypoint} {node : Nat}

/-- A stray comes behind all old nodes of its name. -/
theorem Strays.bearers (behind : grown.Strays graph strays) (ident : String) :
    ∃ late, grown.bearers ident = graph.bearers ident ++ late ∧ ∀ node ∈ late, graph.size ≤ node := by
  unfold Graph.bearers
  rw [behind.size, List.range_add, List.filter_append]
  refine ⟨_, congrArg (· ++ _) (List.filter_congr fun node member => ?_), fun node member => ?_⟩
  · rw [behind.waypoint_eq (List.mem_range.mp member)]
  · obtain ⟨index, _, rfl⟩ := List.mem_map.mp (List.mem_of_mem_filter member)
    exact Nat.le_add_right _ _

theorem Strays.candidates (behind : grown.Strays graph strays) (ident : String) :
    ∃ late, grown.candidates ident = graph.candidates ident ++ late ∧
      ∀ candidate ∈ late, graph.size ≤ candidate.1 := by
  obtain ⟨late, split, high⟩ := behind.bearers ident
  rw [candidates_eq behind.wellFormed.exactIndex split,
    candidates_eq behind.old.exactIndex rfl, List.filterMap_append]
  refine ⟨_, congrArg (· ++ _) (List.filterMap_congr fun node member => ?_), fun entry member => ?_⟩
  · obtain ⟨own, found, _⟩ := mem_bearers.mp member
    rw [behind.waypoint_eq (Array.getElem?_eq_some_iff.mp found).1]
  · obtain ⟨node, listed, here⟩ := List.mem_filterMap.mp member
    obtain ⟨own, _, rfl⟩ := Option.map_eq_some_iff.mp here
    exact high node listed

/-! ### Exact waypoints -/

/-- **A waypoint that the graph has** is found as before, any other at a stray if at all. -/
theorem byWaypoint?_strays (behind : grown.Strays graph strays) (waypoint : Waypoint) :
    ∃ stray : Option Nat, grown.byWaypoint? waypoint = (graph.byWaypoint? waypoint).or stray ∧
      ∀ node, stray = some node → graph.size ≤ node := by
  obtain ⟨late, split, high⟩ := behind.candidates waypoint.ident
  refine ⟨(late.find? fun candidate => candidate.2 == waypoint).map (·.1), ?_, fun node found => ?_⟩
  · rw [byWaypoint?, split, List.find?_append, Option.map_or]
    rfl
  · obtain ⟨candidate, first, rfl⟩ := Option.map_eq_some_iff.mp found
    exact high candidate (List.mem_of_find?_eq_some first)

theorem byWaypoint?_of_known (behind : grown.Strays graph strays)
    (known : graph.byWaypoint? waypoint = some node) : grown.byWaypoint? waypoint = some node := by
  obtain ⟨stray, split, _⟩ := byWaypoint?_strays behind waypoint
  rw [split, known, Option.some_or]

/-! ### Names -/

variable [Distance α]

/-- **The closest node of a name** is the one before, or a stray. -/
theorem closestByIdent?_strays (behind : grown.Strays graph strays) (ident : String)
    (reference : Waypoint) :
    grown.closestByIdent? ident reference = graph.closestByIdent? ident reference ∨
      ∃ node, graph.size ≤ node ∧ grown.closestByIdent? ident reference = some node := by
  obtain ⟨late, split, high⟩ := behind.candidates ident
  unfold closestByIdent?
  dsimp only
  rw [split, List.map_append]
  rcases closestTo_append (α := α) ((graph.candidates ident).map (·.2)) (late.map (·.2)) reference with
    same | ⟨position, far, found⟩
  · rw [same]
    refine Or.inl (Option.bind_congr fun position here => ?_)
    have inside := closestTo_lt here
    rw [List.length_map] at inside
    rw [List.getElem?_append_left inside]
  · have inside := closestTo_lt found
    rw [← List.map_append, List.length_map] at inside
    rw [List.length_map] at far
    have here := List.getElem?_eq_getElem inside
    rw [found, Option.bind_some, here, Option.map_some]
    refine Or.inr ⟨_, high _ ?_, rfl⟩
    rw [List.getElem?_append_right far] at here
    exact List.mem_of_getElem? here

/-- Every fix that the graph has a copy of has one in the grown graph. -/
def Recalls (grown graph : Graph α) : Prop :=
  ∀ fix, (graph.sameFix? fix).isSome → (grown.sameFix? fix).isSome

/-- **The copy of a fix** is the one before, or a stray. -/
theorem sameFix?_strays (behind : grown.Strays graph strays) (recalls : grown.Recalls graph)
    (fix : Waypoint) :
    grown.sameFix? fix = graph.sameFix? fix ∨
      ∃ node, graph.size ≤ node ∧ grown.sameFix? fix = some node := by
  rcases closestByIdent?_strays behind fix.ident fix with same | ⟨node, far, found⟩
  · left
    unfold sameFix?
    rw [same]
    cases closest : graph.closestByIdent? fix.ident fix with
    | none => rfl
    | some node =>
      obtain ⟨own, place, _⟩ := closestByIdent?_eq_some behind.old.exactIndex closest
      rw [Option.filter_some, Option.filter_some,
        behind.waypoint_eq (Array.getElem?_eq_some_iff.mp place).1]
  · cases copy : grown.sameFix? fix with
    | none =>
      have lost := recalls fix
      rw [copy] at lost
      refine Or.inl ?_
      cases before : graph.sameFix? fix with
      | none => rfl
      | some node => simp [before] at lost
    | some other =>
      have closest := copy
      unfold sameFix? at closest
      rw [found, Option.filter_eq_some_iff] at closest
      obtain ⟨same, _⟩ := closest
      cases same
      exact Or.inr ⟨node, far, rfl⟩

/-! ### Exact lengths -/

/-- What the search for the closest candidate ends with is the closest node of a name. -/
theorem closestByIdent?_of_closest {position : Nat} {length : α}
    (taken : ((graph.candidates ident).map (·.2)).zipIdx.foldl (keepClosest α reference) none =
      some (position, length)) :
    ∃ node own, graph.closestByIdent? ident reference = some node ∧
      graph.waypoints[node]? = some own ∧ length = Distance.between own reference := by
  obtain ⟨own, here, rfl⟩ := closest_spec taken
  rw [List.getElem?_map] at here
  obtain ⟨⟨node, same⟩, listed, rfl⟩ := Option.map_eq_some_iff.mp here
  refine ⟨node, same, ?_, (mem_candidates.mp (List.mem_of_getElem? listed)).2, rfl⟩
  rw [closestByIdent?, closestTo, taken, Option.map_some, Option.bind_some, listed]
  rfl

variable [AddCommMonoid α] [LinearOrder α] [Distance.Exact α]

/-- On exact lengths the closest so far only gets closer. -/
theorem foldl_keepClosest_le (reference : Waypoint) (position : Nat) (length : α)
    (candidates : List (Waypoint × Nat)) :
    ∃ place less, candidates.foldl (keepClosest α reference) (some (position, length)) =
      some (place, less) ∧ less ≤ length := by
  induction candidates generalizing position length with
  | nil => exact ⟨position, length, rfl, le_rfl⟩
  | cons first rest ih =>
    rw [List.foldl_cons, keepClosest]
    by_cases near : length ≤ Distance.between first.1 reference
    · rw [Distance.le_eq, decide_eq_true near, if_pos rfl]
      exact ih position length
    · rw [Distance.le_eq, decide_eq_false near, if_neg Bool.false_ne_true]
      obtain ⟨place, less, found, low⟩ := ih first.2 (Distance.between first.1 reference)
      exact ⟨place, less, found, low.trans (not_le.mp near).le⟩

/-- **On exact lengths no copy is hidden**: what takes its place is closer. -/
theorem recalls (behind : grown.Strays graph strays) : grown.Recalls graph := by
  intro fix known
  obtain ⟨node, copy⟩ := Option.isSome_iff_exists.mp known
  unfold sameFix? at copy
  obtain ⟨closest, near⟩ := Option.filter_eq_some_iff.mp copy
  obtain ⟨late, split, _⟩ := behind.candidates fix.ident
  cases taken : ((graph.candidates fix.ident).map (·.2)).zipIdx.foldl (keepClosest α fix) none with
  | none =>
    rw [closestByIdent?, closestTo, taken] at closest
    cases closest
  | some best =>
    obtain ⟨position, length⟩ := best
    obtain ⟨same, own, found, place, rfl⟩ := closestByIdent?_of_closest taken
    rw [closest] at found
    cases found
    rw [place, Option.any_some, Distance.le_eq, decide_eq_true_iff] at near
    obtain ⟨further, less, ahead, low⟩ := foldl_keepClosest_le fix position
      (Distance.between own fix : α) ((late.map (·.2)).zipIdx (0 + (graph.candidates fix.ident).length))
    have whole : ((grown.candidates fix.ident).map (·.2)).zipIdx.foldl (keepClosest α fix) none =
        some (further, less) := by
      rw [split, List.map_append, List.zipIdx_append, List.foldl_append, taken, List.length_map, ahead]
    obtain ⟨other, stray, found, there, rfl⟩ := closestByIdent?_of_closest whole
    unfold sameFix?
    rw [found, Option.filter_some, there, Option.any_some, Distance.le_eq,
      decide_eq_true (low.trans near), if_pos rfl]
    rfl

end Graph

end FlightRoute
