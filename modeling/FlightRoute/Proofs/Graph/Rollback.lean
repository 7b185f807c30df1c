/-
**Closing a scope undoes what was done in it.**

Whatever was taken in since a scope was opened on a graph, the graph of the scope is the old one with
something behind it (`Scope.Over`): new nodes behind the old ones, and new edges only behind the edges
of old nodes that are noted with the number of edges they had. Every waypoint that is taken in keeps
that, and closing the scope cuts all of it off again.

* `joined_invariant`: what holds at every step of taking in a waypoint;
* `joined_over`, `inject_over`: taking in a waypoint keeps the invariant, link by link;
* `close_eq`: closing the scope gives the old graph back.
-/

import Mathlib.Data.List.Basic
import FlightRoute.Graph.Scope
import FlightRoute.Proofs.Graph.Built

namespace FlightRoute.Scope

variable {α : Type}

/-- A scope whose graph is an old one with new nodes and noted new edges behind it. -/
structure Over (scope : Scope α) (graph : Graph α) : Prop where
  wellFormed : scope.graph.WellFormed
  base : scope.baseSize = graph.size
  waypoints : ∀ node < graph.size, scope.graph.waypoints[node]? = graph.waypoints[node]?
  edges : ∀ (node : Nat) (old : Array (Edge α)), graph.outgoing[node]? = some old →
    ∃ more, scope.graph.outgoing[node]? = some (old ++ more) ∧
      (more = #[] ∨ (node, old.size) ∈ scope.touched)
  touched : ∀ entry ∈ scope.touched, ∃ old, graph.outgoing[entry.1]? = some old ∧
    old.size = entry.2

variable {scope : Scope α} {graph : Graph α}

theorem openScope_over (wellFormed : graph.WellFormed) : graph.openScope.Over graph where
  wellFormed := wellFormed
  base := rfl
  waypoints _ _ := rfl
  edges node old found := ⟨#[], by simpa [Graph.openScope] using found, Or.inl rfl⟩
  touched entry member := absurd member List.not_mem_nil

/-- No node is lost. -/
theorem Over.size_le (grown : scope.Over graph) : graph.size ≤ scope.graph.size := by
  by_contra smaller
  have inside : scope.graph.size < graph.size := Nat.lt_of_not_le smaller
  have found : graph.waypoints[scope.graph.size]? = some _ := Array.getElem?_eq_getElem inside
  rw [← grown.waypoints _ inside] at found
  exact absurd (Array.getElem?_eq_some_iff.mp found).1 (Nat.lt_irrefl _)

/-! ### Taking in a waypoint -/

/-- The old node is noted with the number of edges that it had. -/
theorem touch_over (grown : scope.Over graph) {node : Nat} {old : Array (Edge α)}
    (found : graph.outgoing[node]? = some old) :
    (scope.touch node).Over graph ∧ (node, old.size) ∈ (scope.touch node).touched := by
  obtain ⟨more, now, noted⟩ := grown.edges node old found
  unfold touch
  by_cases known : scope.touched.any (fun entry => entry.1 == node) = true
  · rw [if_pos known]
    obtain ⟨⟨other, count⟩, member, same⟩ := List.any_eq_true.mp known
    obtain rfl : other = node := beq_iff_eq.mp same
    obtain ⟨before, here, size⟩ := grown.touched _ member
    rw [found] at here
    cases here
    exact ⟨grown, size ▸ member⟩
  · rw [if_neg known]
    have fresh : more = #[] := by
      rcases noted with fresh | member
      · exact fresh
      · have again : scope.touched.any (fun entry => entry.1 == node) = true :=
          List.any_eq_true.mpr ⟨_, member, beq_self_eq_true node⟩
        exact absurd again known
    have count : (scope.graph.outgoing[node]?.getD #[]).size = old.size := by
      rw [now, fresh]
      simp
    refine ⟨⟨grown.wellFormed, grown.base, grown.waypoints, fun other before here => ?_,
      fun entry member => ?_⟩, ?_⟩
    · obtain ⟨extra, there, noted⟩ := grown.edges other before here
      exact ⟨extra, there, noted.imp_right fun member => List.mem_append_left _ member⟩
    · rcases List.mem_append.mp member with earlier | new
      · exact grown.touched entry earlier
      · rw [List.mem_singleton.mp new]
        exact ⟨old, found, count.symm⟩
    · rw [count]
      exact List.mem_append_right _ List.mem_cons_self

/-- One more waypoint stands behind all old nodes. -/
theorem addWaypoint_over (grown : scope.Over graph) (waypoint : Waypoint) :
    ({ scope with graph := scope.graph.addWaypoint waypoint } : Scope α).Over graph where
  wellFormed := Graph.addWaypoint_wellFormed grown.wellFormed waypoint
  base := grown.base
  waypoints node inside := by
    have old : node < scope.graph.size := Nat.lt_of_lt_of_le inside grown.size_le
    rw [Graph.getElem?_addWaypoint, if_neg (Nat.ne_of_lt old)]
    exact grown.waypoints node inside
  edges node old found := by
    obtain ⟨more, now, noted⟩ := grown.edges node old found
    have inside : node < scope.graph.outgoing.size := (Array.getElem?_eq_some_iff.mp now).1
    refine ⟨more, ?_, noted⟩
    show (scope.graph.outgoing.push #[])[node]? = _
    rw [Array.getElem?_push, if_neg (Nat.ne_of_lt inside)]
    exact now
  touched := grown.touched

variable [Distance α]

/-- One more edge from a new node, or from an old one that is noted, stands behind all old edges. -/
theorem addEdge_over (grown : scope.Over graph) (source target : Nat) (airway : String)
    (distance : Option α)
    (noted : ∀ old, graph.outgoing[source]? = some old → (source, old.size) ∈ scope.touched) :
    ({ scope with graph := scope.graph.addEdge source target airway distance } :
      Scope α).Over graph where
  wellFormed := Graph.addEdge_wellFormed grown.wellFormed source target airway distance
  base := grown.base
  waypoints node inside := by
    rw [Graph.waypoints_addEdge]
    exact grown.waypoints node inside
  edges node old found := by
    obtain ⟨more, now, before⟩ := grown.edges node old found
    rcases Graph.outgoing_addEdge scope.graph source target airway distance with
      same | ⟨_, _, _, _, added⟩
    · rw [same]
      exact ⟨more, now, before⟩
    · rw [added, Array.getElem?_modify]
      by_cases here : source = node
      · subst here
        rw [if_pos rfl, now]
        exact ⟨more.push _, by rw [Option.map_some, Array.push_append], Or.inr (noted old found)⟩
      · rw [if_neg here]
        exact ⟨more, now, before⟩
  touched := grown.touched

theorem link_over (wellFormed : graph.WellFormed) (grown : scope.Over graph) {newNode oldNode : Nat}
    (new : graph.size ≤ newNode) (old : oldNode < graph.size) :
    (scope.link newNode oldNode).Over graph := by
  obtain ⟨edges, found⟩ := wellFormed.outgoing_of_lt old
  obtain ⟨touched, noted⟩ := touch_over grown found
  have there : ({ scope.touch oldNode with
      graph := (scope.touch oldNode).graph.addEdge newNode oldNode direct none } :
      Scope α).Over graph := by
    refine addEdge_over touched newNode oldNode direct none fun before here => ?_
    exact absurd (wellFormed.lt_of_outgoing here) (Nat.not_lt.mpr new)
  refine addEdge_over there oldNode newNode direct none fun before here => ?_
  rw [found] at here
  cases here
  exact noted

/-- The scope once a waypoint has been taken in, and joined to the first `count` of the nodes that it is
linked to. -/
def joined (scope : Scope α) (waypoint : Waypoint) (links count : Nat) : Scope α :=
  ((scope.linkTargets waypoint links).take count).foldl (link scope.graph.size)
    { scope with graph := scope.graph.addWaypoint waypoint }

/-- With all links the waypoint is taken in. -/
theorem joined_all (scope : Scope α) (waypoint : Waypoint) (links : Nat) :
    scope.joined waypoint links links = scope.inject waypoint links := by
  have few : (scope.linkTargets waypoint links).length ≤ links := List.length_take_le _ _
  rw [joined, List.take_of_length_le few]
  rfl

/-- A waypoint is linked to old nodes. -/
theorem linkTargets_lt {waypoint : Waypoint} {links node : Nat}
    (linked : node ∈ scope.linkTargets waypoint links) : node < scope.baseSize := by
  have kept := (List.mem_filter.mp (List.mem_of_mem_take linked)).2
  simpa using kept

/-- **What holds of the new node and is kept by every link** holds at every step of taking in a
waypoint. -/
theorem joined_invariant {P : Scope α → Prop} {waypoint : Waypoint} {links : Nat}
    (start : P { scope with graph := scope.graph.addWaypoint waypoint })
    (step : ∀ current node, node < scope.baseSize → P current →
      P (current.link scope.graph.size node)) (count : Nat) :
    P (scope.joined waypoint links count) :=
  List.foldlRecOn _ _ start fun current holds node member =>
    step current node (linkTargets_lt (List.mem_of_mem_take member)) holds

/-- **Taking in a waypoint, link by link**, keeps the old graph in front. -/
theorem joined_over (wellFormed : graph.WellFormed) (grown : scope.Over graph) (waypoint : Waypoint)
    (links count : Nat) : (scope.joined waypoint links count).Over graph := by
  refine joined_invariant (P := fun current => current.Over graph) ?_ (fun current node old holds => ?_) count
  · exact addWaypoint_over grown waypoint
  · exact link_over wellFormed holds grown.size_le (grown.base ▸ old)

theorem inject_over (wellFormed : graph.WellFormed) (grown : scope.Over graph) (waypoint : Waypoint)
    (links : Nat) : (scope.inject waypoint links).Over graph :=
  joined_all scope waypoint links ▸ joined_over wellFormed grown waypoint links links

omit [Distance α] in
theorem touch_graph (scope : Scope α) (node : Nat) : (scope.touch node).graph = scope.graph := by
  unfold touch
  split <;> rfl

/-- From the first link on, the waypoint stands behind all others. -/
theorem waypoints_joined (scope : Scope α) (waypoint : Waypoint) (links count : Nat) :
    (scope.joined waypoint links count).graph.waypoints = scope.graph.waypoints.push waypoint := by
  refine joined_invariant (P := fun current : Scope α => current.graph.waypoints = _) rfl
    (fun current node _ holds => ?_) count
  unfold link Graph.addTwoWayEdge
  dsimp only
  rw [Graph.waypoints_addEdge, Graph.waypoints_addEdge, touch_graph, holds]

theorem waypoints_inject (scope : Scope α) (waypoint : Waypoint) (links : Nat) :
    (scope.inject waypoint links).graph.waypoints = scope.graph.waypoints.push waypoint :=
  joined_all scope waypoint links ▸ waypoints_joined scope waypoint links links

/-! ### Closing the scope -/

omit [Distance α] in
/-- Cutting the noted nodes leaves each noted node with the number of edges that is noted. -/
theorem getElem?_cut {touched : List (Nat × Nat)} {outgoing : Array (Array (Edge α))} {node : Nat}
    (count : Nat) (agree : ∀ entry ∈ touched, entry.1 = node → entry.2 = count) :
    (touched.foldl (fun outgoing entry => outgoing.modify entry.1 (·.take entry.2)) outgoing)[node]? =
      if touched.any (fun entry => entry.1 == node) then outgoing[node]?.map (·.take count)
      else outgoing[node]? := by
  induction touched generalizing outgoing with
  | nil => rfl
  | cons entry rest ih =>
    rw [List.foldl_cons, ih fun other member => agree other (List.mem_cons_of_mem _ member),
      List.any_cons, Array.getElem?_modify]
    by_cases here : entry.1 = node
    · rw [if_pos here, agree entry List.mem_cons_self here, beq_iff_eq.mpr here, Bool.true_or,
        if_pos rfl]
      split
      · rw [Option.map_map]
        congr 1
        funext edges
        simp
      · rfl
    · rw [if_neg here, beq_eq_false_iff_ne.mpr here, Bool.false_or]

omit [Distance α] in
/-- The first items of an array that begins with another one are that other one. -/
theorem take_eq_of_getElem? {β : Type} {whole front : Array β}
    (same : ∀ position < front.size, whole[position]? = front[position]?) :
    whole.take front.size = front := by
  refine Array.ext_getElem? fun position => ?_
  show (whole.extract 0 front.size)[position]? = _
  rw [Array.getElem?_extract]
  by_cases inside : position < front.size
  · have found := same position inside
    have within : position < whole.size := by
      rw [Array.getElem?_eq_getElem inside] at found
      exact (Array.getElem?_eq_some_iff.mp found).1
    rw [if_pos (by omega), Nat.zero_add, found]
  · rw [if_neg (by omega), Array.getElem?_eq_none (by omega)]

omit [Distance α] in
/-- The nodes of an identifier that were there before are those in the old graph. -/
theorem filter_bearers (grown : scope.Over graph) (ident : String) :
    (scope.graph.bearers ident).filter (fun node => node < scope.baseSize) =
      graph.bearers ident := by
  obtain ⟨extra, size⟩ := Nat.exists_eq_add_of_le grown.size_le
  unfold Graph.bearers
  rw [size, grown.base, List.range_add, List.filter_append, List.filter_append]
  have older : ((List.range graph.size).filter fun node =>
        scope.graph.waypoints[node]?.any (·.ident == ident)).filter (fun node => node < graph.size) =
      (List.range graph.size).filter fun node => graph.waypoints[node]?.any (·.ident == ident) := by
    rw [List.filter_filter]
    refine List.filter_congr fun node member => ?_
    have inside : node < graph.size := List.mem_range.mp member
    rw [grown.waypoints node inside, decide_eq_true inside, Bool.true_and]
  have newer : (((List.range extra).map (graph.size + ·)).filter fun node =>
        scope.graph.waypoints[node]?.any (·.ident == ident)).filter (fun node => node < graph.size) =
      [] := by
    refine List.filter_eq_nil_iff.mpr fun node member => ?_
    obtain ⟨_, _, rfl⟩ := List.mem_map.mp (List.mem_filter.mp member).1
    simp
  rw [older, newer, List.append_nil]

omit [Distance α] in
/-- **Closing a scope gives the old graph back.** -/
theorem close_eq (wellFormed : graph.WellFormed) (grown : scope.Over graph) : scope.close = graph := by
  have waypoints : scope.close.waypoints = graph.waypoints := by
    unfold close
    rw [grown.base]
    exact take_eq_of_getElem? grown.waypoints
  have outgoing : scope.close.outgoing = graph.outgoing := by
    unfold close
    dsimp only
    rw [grown.base, ← wellFormed.outgoing_size]
    refine take_eq_of_getElem? fun node inside => ?_
    have found : graph.outgoing[node]? = some graph.outgoing[node] := Array.getElem?_eq_getElem inside
    obtain ⟨more, now, noted⟩ := grown.edges node _ found
    rw [found, getElem?_cut graph.outgoing[node].size, now]
    · split
      · simp
      · rename_i unknown
        rcases noted with none | member
        · rw [none, Array.append_empty]
        · exact absurd (List.any_eq_true.mpr ⟨_, member, beq_self_eq_true node⟩) unknown
    · rintro entry member rfl
      obtain ⟨old, here, size⟩ := grown.touched entry member
      rw [found] at here
      cases here
      exact size.symm
  have positions : scope.close.positions = graph.positions := by
    unfold close
    dsimp only
    refine Std.ExtHashMap.ext_getElem? fun ident => ?_
    rw [Std.ExtHashMap.getElem?_filterMap', grown.wellFormed.indexed, wellFormed.indexed,
      ← filter_bearers grown ident]
    by_cases unnamed : scope.graph.bearers ident = []
    · rw [if_pos unnamed, unnamed]
      rfl
    · rw [if_neg unnamed, Option.bind_some, keepOld, List.filter_toArray]
      simp
  show (⟨scope.close.waypoints, scope.close.outgoing, scope.close.positions⟩ : Graph α) = graph
  rw [waypoints, outgoing, positions]

end FlightRoute.Scope
