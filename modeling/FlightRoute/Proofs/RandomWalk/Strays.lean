/-
**Random routes past strays.**

A walk from an old node is offered the edges of old nodes and stays on them. A stray can only come in where
a waypoint is snapped to it: when no waypoint of the graph agrees with it, and the stray does or is the
nearest. Where neither end is, the same draws give the same route.

* `snap?_eq_iff`: when a waypoint is snapped to the node to which it was snapped before;
* `firstWalk_strays`: the walks are the same;
* `find_strays`: the same random route.
-/

import FlightRoute.Proofs.Graph.Namesakes
import FlightRoute.Proofs.RandomWalk.Genuine
import FlightRoute.Proofs.ShortestRoute.Strays

namespace FlightRoute.RandomWalk

variable {σ α : Type} [Distance α] {grown graph : Graph α} {strays : List Waypoint}
  {start finish waypoint : Waypoint} {node origin target steps attempts : Nat}

/-! ### Snapping -/

theorem snap?_strays_of_known (behind : grown.Strays graph strays)
    (known : graph.byWaypoint? waypoint = some node) :
    snap? grown waypoint = some node ∧ snap? graph waypoint = some node :=
  ⟨snap?_of_known (Graph.byWaypoint?_of_known behind known), snap?_of_known known⟩

/-- **A waypoint is snapped as before** unless it is snapped to a stray. -/
theorem snap?_eq_iff [Distance.Ordered α] (behind : grown.Strays graph strays)
    (waypoint : Waypoint) :
    snap? grown waypoint = snap? graph waypoint ↔
      ∀ node, snap? grown waypoint = some node → node < graph.size := by
  constructor
  · intro same node snapped
    exact snap?_lt (same ▸ snapped)
  · intro inside
    obtain ⟨stray, split, high⟩ := Graph.byWaypoint?_strays behind waypoint
    cases known : graph.byWaypoint? waypoint with
    | some node =>
      obtain ⟨after, before⟩ := snap?_strays_of_known behind known
      rw [after, before]
    | none =>
      rw [known, Option.none_or] at split
      cases stray with
      | some node =>
        have far := high node rfl
        have near := inside node (snap?_of_known split)
        omega
      | none =>
        unfold snap? at inside ⊢
        rw [split, Option.none_or] at inside ⊢
        rw [known, Option.none_or]
        have same : grown.nearest waypoint 1 = graph.nearest waypoint 1 := by
          refine (Graph.nearest_eq_iff behind).mpr fun node member => inside node ?_
          have few := grown.length_nearest_le waypoint 1
          cases closest : grown.nearest waypoint 1 with
          | nil => simp [closest] at member
          | cons first rest =>
            have alone : rest = [] := by
              rw [closest] at few
              exact List.eq_nil_of_length_eq_zero (by simpa using few)
            rw [closest, alone] at member
            rw [List.head?_cons, List.mem_singleton.mp member]
        rw [same]

/-! ### Walks -/

variable {chooser : Chooser σ α} {progress : Progress} {cancel : Option CancelFlag} {draws : σ}

theorem choices_strays (behind : grown.Strays graph strays) (inside : progress.node < graph.size) :
    choices grown progress finish = choices graph progress finish := by
  unfold choices
  rw [Graph.edgesFrom_strays behind inside]
  cases leaving : graph.edgesFrom progress.node with
  | error failure => rfl
  | ok edges =>
    rw [ok_bind, ok_bind]
    refine mapM_congr fun (edge, label) member => ?_
    have listed := List.mem_iff_getElem?.mpr ⟨_, List.mem_zipIdx_iff_getElem?.mp
      (List.mem_of_mem_filter member)⟩
    have leads := behind.old.target_lt progress.node edges edge (Graph.edgesFrom_eq_ok.mp leaving)
      (Array.mem_toList_iff.mp listed)
    dsimp only
    rw [Graph.waypoint_strays behind leads]

/-- **A walk on old nodes** is the same. -/
theorem walkOn_strays (behind : grown.Strays graph strays) (inside : progress.node < graph.size)
    (draws : σ) :
    walkOn chooser grown target finish cancel steps progress draws =
      walkOn chooser graph target finish cancel steps progress draws := by
  induction steps generalizing progress draws with
  | zero => rfl
  | succ steps ih =>
    rw [walkOn, walkOn, Graph.waypoint_strays behind inside, choices_strays behind inside]
    refine bind_congr fun _ => ?_
    split
    · rfl
    · refine bind_congr fun waypoint => ?_
      cases found : choices graph progress finish with
      | error failure => rfl
      | ok offered =>
        rw [ok_bind, ok_bind]
        cases offered with
        | nil => rfl
        | cons first others =>
          have member := List.get_mem (first :: others)
            (chooser.pick (Distance.between waypoint finish) first others draws).1
          obtain ⟨along, _⟩ := mem_choices found member
          exact ih (behind.old.edge_lt along) _

theorem firstWalk_strays (behind : grown.Strays graph strays) (begins : origin < graph.size)
    (ends : target < graph.size) (draws : σ) :
    firstWalk chooser grown origin target steps cancel attempts draws =
      firstWalk chooser graph origin target steps cancel attempts draws := by
  have once : ∀ draws, walk chooser grown origin target steps cancel draws =
      walk chooser graph origin target steps cancel draws := by
    intro draws
    rw [walk, walk, Graph.waypoint_strays behind ends]
    exact bind_congr fun finish => walkOn_strays behind begins draws
  induction attempts generalizing draws with
  | zero => rfl
  | succ attempts ih =>
    rw [firstWalk, firstWalk, once]
    refine bind_congr fun tried => ?_
    obtain ⟨walked, left⟩ := tried
    cases walked with
    | some progress => rfl
    | none => exact ih left

/-- **Between old nodes** the same draws give the same route. -/
theorem routeBetween_strays (behind : grown.Strays graph strays) {settings : SearchSettings}
    (begins : origin < graph.size) (ends : target < graph.size) (draws : σ) :
    routeBetween chooser grown settings cancel origin target draws =
      routeBetween chooser graph settings cancel origin target draws := by
  unfold routeBetween
  dsimp only
  rw [firstWalk_strays behind begins ends]
  cases walked : firstWalk chooser graph origin target settings.randomSteps cancel
      settings.randomAttempts draws with
  | error failure => rfl
  | ok tried =>
    obtain ⟨progress, left⟩ := tried
    rw [ok_bind, ok_bind]
    cases progress with
    | some progress =>
      obtain ⟨edges, traces, _⟩ := firstWalk_traces behind.old begins walked
      dsimp only
      rw [Graph.routeAlong_strays behind traces.follows]
    | none =>
      have before : (Endpoint.node origin : Endpoint α).Within graph.size := begins
      have after : (Endpoint.node target : Endpoint α).Within graph.size := ends
      have same : ShortestRoute.findBetween grown origin target cancel =
          ShortestRoute.findBetween graph origin target cancel :=
        ShortestRoute.find_strays behind before after cancel
      dsimp only
      rw [same]

/-- **Between waypoints that are snapped as before** the same draws give the same random route. -/
theorem find_strays (behind : grown.Strays graph strays) {settings : SearchSettings}
    (before : snap? grown start = snap? graph start) (after : snap? grown finish = snap? graph finish)
    (draws : σ) :
    find chooser grown settings cancel start finish draws =
      find chooser graph settings cancel start finish draws := by
  unfold find
  rw [before, after]
  by_cases same : (start == finish) = true
  · rw [if_pos same, if_pos same]
  · rw [if_neg same, if_neg same]
    cases first : snap? graph start with
    | none => rfl
    | some origin =>
      cases last : snap? graph finish with
      | none => rfl
      | some target =>
        dsimp only
        rw [routeBetween_strays behind (snap?_lt first) (snap?_lt last)]

end FlightRoute.RandomWalk
