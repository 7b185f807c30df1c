/-
**A waypoint that is taken in is linked to the nearest old waypoints, and to nothing else.**

Of the waypoints around, only those that were there before the scope was opened count. More are fetched than are
asked for, one for each waypoint that was taken in earlier, and what was taken in is left out: this loses none of
the old ones and keeps their order, since no more can be left out than were fetched on top (`linkTargets_eq`).
The links are then added one after the other. Each is a direct edge and a direct edge back, behind the edges that
are there, and touches no other node (`Joins`).

* `take_filter_take`: enough items are fetched;
* `addTwoWayEdge_joins`, `foldl_link_joins`: one link, and all of them;
* `inject_joins`: taking in a waypoint;
* `injectAll_apart`: waypoints that were taken in are not linked to one another;
* `inject_takesIn`: all of it, after whatever was taken in before.
-/

import FlightRoute.Proofs.Graph.Injected
import FlightRoute.Proofs.Graph.Nearest
import FlightRoute.Proofs.Resolve.Rollback

namespace FlightRoute

variable {α : Type}

/-! ### Which nodes are linked -/

/-- **Enough items are fetched**: as many more as there are that are not kept. -/
theorem take_filter_take {β : Type} {keep : β → Bool} {items : List β} {count extra : Nat}
    (few : items.countP (fun item => !keep item) ≤ extra) :
    ((items.take (count + extra)).filter keep).take count = (items.filter keep).take count := by
  conv_rhs => rw [← List.take_append_drop (count + extra) items, List.filter_append]
  by_cases all : items.length ≤ count + extra
  · rw [List.drop_eq_nil_of_le all]
    simp
  · have dropped := (List.take_sublist (count + extra) items).countP_le (p := fun item => !keep item)
    have parts := List.length_eq_countP_add_countP keep (l := items.take (count + extra))
    rw [List.length_take, List.countP_eq_length_filter] at parts
    simp only [Bool.not_eq_true, Bool.decide_eq_false] at parts
    rw [List.take_append_of_le_length]
    omega

namespace Scope

variable {scope : Scope α} {graph : Graph α}

/-- What was taken in stands behind the old waypoints. -/
theorem Over.exists_more (grown : scope.Over graph) :
    ∃ more, scope.graph.waypoints.toList = graph.waypoints.toList ++ more := by
  have front : scope.graph.waypoints.toList.take graph.size = graph.waypoints.toList := by
    refine List.ext_getElem? fun node => ?_
    rw [List.getElem?_take]
    by_cases inside : node < graph.size
    · rw [if_pos inside, Array.getElem?_toList, Array.getElem?_toList, grown.waypoints node inside]
    · rw [if_neg inside, Array.getElem?_toList, Array.getElem?_eq_none (Nat.le_of_not_lt inside)]
  refine ⟨scope.graph.waypoints.toList.drop graph.size, ?_⟩
  rw [← front, List.take_append_drop]

variable [Distance α]

/-- **A waypoint is linked to the nearest old waypoints**, whatever was taken in before it. -/
theorem linkTargets_eq [Distance.Ordered α] (grown : scope.Over graph) (waypoint : Waypoint)
    (links : Nat) : scope.linkTargets waypoint links = graph.nearest waypoint links := by
  obtain ⟨more, behind⟩ := grown.exists_more
  have kept := Graph.arranged_old behind waypoint
  have parts := List.length_eq_countP_add_countP (fun entry : α × Nat => decide (entry.2 < graph.size))
    (l := scope.graph.arranged waypoint)
  rw [List.countP_eq_length_filter, kept, Graph.length_arranged, Graph.length_arranged] at parts
  have few : (scope.graph.arranged waypoint).countP (fun entry => !decide (entry.2 < graph.size)) ≤
      scope.injectedCount := by
    simp only [Bool.not_eq_true, Bool.decide_eq_false] at parts
    rw [injectedCount, grown.base]
    omega
  rw [linkTargets, Graph.nearest_eq, Graph.nearest_eq, List.filter_map, ← List.map_take, grown.base]
  show ((((scope.graph.arranged waypoint).take _).filter
    fun entry => decide (entry.2 < graph.size)).take links).map _ = _
  rw [take_filter_take few, kept]

end Scope

/-! ### Adding links -/

namespace Graph

variable [Distance α] {after middle before : Graph α} {new node : Nat} {nodes : List Nat}

/-- A link is one as long as the waypoints are the same. -/
theorem IsLink.congr {edge : Edge α} (link : before.IsLink node edge)
    (same : after.waypoints = before.waypoints) : after.IsLink node edge := by
  obtain ⟨airway, source, target, place, there, distance⟩ := link
  exact ⟨airway, source, target, same ▸ place, same ▸ there, distance⟩

/-- Links between a new node and others were added to a graph, in this order. -/
structure Joins (after before : Graph α) (new : Nat) (nodes : List Nat) : Prop where
  waypoints : after.waypoints = before.waypoints
  own : ∀ edges, before.outgoing[new]? = some edges → ∃ links : List (Edge α),
    after.outgoing[new]? = some (edges ++ links.toArray) ∧ links.map (·.target) = nodes ∧
      ∀ link ∈ links, before.IsLink new link
  back : ∀ node ∈ nodes, ∀ edges, before.outgoing[node]? = some edges → ∃ link,
    after.outgoing[node]? = some (edges.push link) ∧ link.target = new ∧ before.IsLink node link
  others : ∀ node, node ≠ new → node ∉ nodes → after.outgoing[node]? = before.outgoing[node]?

theorem Joins.refl (graph : Graph α) (new : Nat) : graph.Joins graph new [] where
  waypoints := rfl
  own edges leaving := ⟨[], by simpa using leaving, rfl, fun _ member => absurd member List.not_mem_nil⟩
  back _ member := absurd member List.not_mem_nil
  others _ _ _ := rfl

/-- One more link in front. -/
theorem Joins.cons (first : middle.Joins before new [node]) (rest : after.Joins middle new nodes)
    (fresh : node ∉ nodes) (apart : node ≠ new) (unlisted : new ∉ nodes) :
    after.Joins before new (node :: nodes) where
  waypoints := rest.waypoints.trans first.waypoints
  own edges leaving := by
    obtain ⟨one, now, targets, links⟩ := first.own edges leaving
    obtain ⟨more, behind, others, also⟩ := rest.own _ now
    refine ⟨one ++ more, ?_, ?_, fun link member => ?_⟩
    · simp [behind]
    · rw [List.map_append, targets, others]
      rfl
    · rcases List.mem_append.mp member with here | there
      · exact links link here
      · exact (also link there).congr first.waypoints.symm
  back other member edges leaving := by
    rcases List.mem_cons.mp member with rfl | there
    · obtain ⟨link, now, target, measured⟩ := first.back other List.mem_cons_self edges leaving
      exact ⟨link, (rest.others other apart fresh).trans now, target, measured⟩
    · have differs : other ≠ node := fun same => fresh (same ▸ there)
      have different : other ≠ new := fun same => unlisted (same ▸ there)
      rw [← first.others other different (by simpa using differs)] at leaving
      obtain ⟨link, now, target, measured⟩ := rest.back other there edges leaving
      exact ⟨link, now, target, measured.congr first.waypoints.symm⟩
  others other differs unlisted := by
    obtain ⟨here, there⟩ := List.ne_and_not_mem_of_not_mem_cons unlisted
    rw [rest.others other differs there, first.others other differs (by simpa using here)]

/-- **One link** is an edge of the new node and an edge back. -/
theorem addTwoWayEdge_joins {start finish : Waypoint} (place : before.waypoints[new]? = some start)
    (there : before.waypoints[node]? = some finish) (apart : node ≠ new) :
    (before.addTwoWayEdge new node direct none).Joins before new [node] := by
  have waypoints := waypoints_addEdge before new node direct none
  have outgoing : (before.addTwoWayEdge new node direct none).outgoing =
      (before.outgoing.modify new (·.push ⟨node, direct, Distance.between start finish⟩)).modify node
        (·.push ⟨new, direct, Distance.between finish start⟩) := by
    unfold addTwoWayEdge
    rw [outgoing_addEdge_of (waypoints ▸ there) (waypoints ▸ place), outgoing_addEdge_of place there]
    rfl
  refine ⟨?_, fun edges leaving => ?_, fun other member edges leaving => ?_, fun other differs unlisted => ?_⟩
  · unfold addTwoWayEdge
    rw [waypoints_addEdge, waypoints]
  · refine ⟨[⟨node, direct, Distance.between start finish⟩], ?_, rfl, ?_⟩
    · simp [outgoing, Array.getElem?_modify, apart, leaving]
    · rintro link member
      rw [List.mem_singleton.mp member]
      exact ⟨rfl, start, finish, place, there, rfl⟩
  · obtain rfl : other = node := List.mem_singleton.mp member
    refine ⟨⟨new, direct, Distance.between finish start⟩, ?_, rfl, rfl, finish, start, there, place, rfl⟩
    simp [outgoing, Array.getElem?_modify, apart.symm, leaving]
  · have different : node ≠ other := fun same => unlisted (by simp [same])
    simp [outgoing, Array.getElem?_modify, different, differs.symm]

end Graph

namespace Scope

variable [Distance α] {scope : Scope α} {graph : Graph α} {new : Nat} {nodes : List Nat}

theorem graph_link (scope : Scope α) (new node : Nat) :
    (scope.link new node).graph = scope.graph.addTwoWayEdge new node direct none := by
  unfold link
  dsimp only
  rw [touch_graph]

/-- **All links**, one after the other. -/
theorem foldl_link_joins (inside : new < scope.graph.size) (once : nodes.Nodup)
    (older : ∀ node ∈ nodes, node < new) :
    (nodes.foldl (link new) scope).graph.Joins scope.graph new nodes := by
  -- The links of the first node come first; the others do not touch it, as no node is listed twice.
  induction nodes generalizing scope with
  | nil => exact .refl scope.graph new
  | cons node rest ih =>
    obtain ⟨fresh, others⟩ := List.nodup_cons.mp once
    have lower : node < new := older node List.mem_cons_self
    have first : (scope.link new node).graph.Joins scope.graph new [node] := by
      rw [graph_link]
      exact Graph.addTwoWayEdge_joins (Array.getElem?_eq_getElem inside)
        (Array.getElem?_eq_getElem (lower.trans inside)) lower.ne
    have still : new < (scope.link new node).graph.size := by
      rw [Graph.size, first.waypoints]
      exact inside
    have behind := ih still others fun other member => older other (List.mem_cons_of_mem _ member)
    exact first.cons behind fresh lower.ne fun member =>
      absurd (older new (List.mem_cons_of_mem _ member)) (Nat.lt_irrefl _)

variable [Distance.Ordered α]

/-- **Taking in a waypoint** adds its node, and its links to the nearest old waypoints. -/
theorem inject_joins (grown : scope.Over graph) (waypoint : Waypoint) (links : Nat) :
    (scope.inject waypoint links).graph.Joins (scope.graph.addWaypoint waypoint) scope.graph.size
      (graph.nearest waypoint links) := by
  unfold inject
  dsimp only
  rw [linkTargets_eq grown]
  refine foldl_link_joins ?_ (graph.nodup_nearest waypoint links) fun node member => ?_
  · show scope.graph.size < (scope.graph.addWaypoint waypoint).size
    rw [Graph.size_addWaypoint]
    exact Nat.lt_succ_self _
  · exact Nat.lt_of_lt_of_le (Graph.lt_of_mem_nearest member) grown.size_le

end Scope

/-! ### One waypoint after the other -/

namespace Graph

variable {after before old : Graph α} {waypoint : Waypoint} {links : Nat} {nodes : List Nat}

/-- A new node has no edges. -/
theorem outgoing_addWaypoint (wellFormed : before.WellFormed) (waypoint : Waypoint) (node : Nat) :
    (before.addWaypoint waypoint).outgoing[node]? =
      if node = before.size then some #[] else before.outgoing[node]? := by
  show (before.outgoing.push #[])[node]? = _
  rw [Array.getElem?_push, wellFormed.outgoing_size]

/-- The nodes behind the first ones lead to the first ones alone. -/
def Apart (graph : Graph α) (size : Nat) : Prop :=
  ∀ (node : Nat) (edges : Array (Edge α)), size ≤ node → graph.outgoing[node]? = some edges →
    ∀ edge ∈ edges, edge.target < size

/-- A graph without nodes behind the first ones. -/
theorem WellFormed.apart (wellFormed : old.WellFormed) : old.Apart old.size :=
  fun _ _ outside leaving => absurd (wellFormed.lt_of_outgoing leaving) (Nat.not_lt.mpr outside)

variable [Distance α]

/-- A graph is another one with a waypoint behind the others, which is linked to as many nodes of an old graph
as are asked for and as there are: those that are closest to it, in order. -/
structure TakesIn (after before old : Graph α) (waypoint : Waypoint) (links : Nat) (nodes : List Nat) :
    Prop where
  waypoints : after.waypoints = before.waypoints.push waypoint
  count : nodes.length = min links old.size
  closest : old.ClosestFirst waypoint nodes
  own : ∃ edges : List (Edge α), after.outgoing[before.size]? = some edges.toArray ∧
    edges.map (·.target) = nodes ∧ ∀ edge ∈ edges, after.IsLink before.size edge
  back : ∀ node ∈ nodes, ∃ edges link, before.outgoing[node]? = some edges ∧
    after.outgoing[node]? = some (edges.push link) ∧ link.target = before.size ∧ after.IsLink node link
  others : ∀ node, node ≠ before.size → node ∉ nodes → after.outgoing[node]? = before.outgoing[node]?
  apart : after.Apart old.size

/-- Links to nodes of the old graph keep what is behind it apart. -/
theorem Joins.apart (joins : after.Joins (before.addWaypoint waypoint) before.size nodes)
    (wellFormed : before.WellFormed) (inside : ∀ node ∈ nodes, node < old.size)
    (apart : before.Apart old.size) : after.Apart old.size := by
  intro node edges outside leaving edge member
  by_cases here : node = before.size
  · subst here
    obtain ⟨own, now, targets, _⟩ := joins.own #[]
      (by rw [outgoing_addWaypoint wellFormed, if_pos rfl])
    rw [now] at leaving
    cases leaving
    have listed : edge ∈ own := by simpa using member
    exact inside edge.target (targets ▸ List.mem_map_of_mem listed)
  · have unlisted : node ∉ nodes := fun listed => absurd (inside node listed) (Nat.not_lt.mpr outside)
    rw [joins.others node here unlisted, outgoing_addWaypoint wellFormed, if_neg here] at leaving
    exact apart node edges outside leaving edge member

end Graph

namespace Scope

variable [Distance α] [Distance.Ordered α] {scope : Scope α} {graph : Graph α}

/-- One more waypoint is not linked to those that were taken in. -/
theorem inject_apart (grown : scope.Over graph) (apart : scope.graph.Apart graph.size)
    (waypoint : Waypoint) (links : Nat) : (scope.inject waypoint links).graph.Apart graph.size :=
  (inject_joins grown waypoint links).apart grown.wellFormed (fun _ => Graph.lt_of_mem_nearest) apart

/-- **Waypoints that were taken in are not linked to one another.** -/
theorem injectAll_apart (wellFormed : graph.WellFormed) (grown : scope.Over graph)
    (apart : scope.graph.Apart graph.size) (injections : List (Waypoint × Nat)) :
    (scope.injectAll injections).graph.Apart graph.size := by
  unfold injectAll
  induction injections generalizing scope with
  | nil => exact apart
  | cons injection rest ih =>
    exact ih (inject_over wellFormed grown injection.1 injection.2)
      (inject_apart grown apart injection.1 injection.2)

/-- **A waypoint is taken in with links to the nearest old waypoints alone**, whatever was taken in before. -/
theorem inject_takesIn (wellFormed : graph.WellFormed) (injections : List (Waypoint × Nat))
    (waypoint : Waypoint) (links : Nat) : ∃ nodes,
      ((graph.openScope.injectAll injections).inject waypoint links).graph.TakesIn
        (graph.openScope.injectAll injections).graph graph waypoint links nodes := by
  have opened := openScope_over wellFormed
  have grown : (graph.openScope.injectAll injections).Over graph :=
    Resolver.injectAll_over wellFormed opened injections
  have apart := injectAll_apart wellFormed opened wellFormed.apart injections
  generalize graph.openScope.injectAll injections = scope at grown apart
  have joins := inject_joins grown waypoint links
  have isolated : (scope.graph.addWaypoint waypoint).outgoing[scope.graph.size]? = some #[] := by
    rw [Graph.outgoing_addWaypoint grown.wellFormed, if_pos rfl]
  have kept : ∀ node, node ≠ scope.graph.size →
      (scope.graph.addWaypoint waypoint).outgoing[node]? = scope.graph.outgoing[node]? := by
    intro node other
    rw [Graph.outgoing_addWaypoint grown.wellFormed, if_neg other]
  refine ⟨graph.nearest waypoint links, ?_⟩
  constructor
  case waypoints => exact waypoints_inject scope waypoint links
  case count => exact graph.length_nearest waypoint links
  case closest => exact graph.nearest_closestFirst waypoint links
  case own =>
    obtain ⟨edges, leaving, targets, measured⟩ := joins.own #[] isolated
    refine ⟨edges, by simpa using leaving, targets, fun edge member => ?_⟩
    exact (measured edge member).congr joins.waypoints
  case back =>
    intro node member
    have inside : node < scope.graph.size :=
      Nat.lt_of_lt_of_le (Graph.lt_of_mem_nearest member) grown.size_le
    obtain ⟨edges, leaving⟩ := grown.wellFormed.outgoing_of_lt inside
    obtain ⟨link, now, target, measured⟩ :=
      joins.back node member edges ((kept node inside.ne).trans leaving)
    exact ⟨edges, link, leaving, now, target, measured.congr joins.waypoints⟩
  case others =>
    intro node other unlisted
    rw [joins.others node other unlisted, kept node other]
  case apart => exact inject_apart grown apart waypoint links

/-- With a waypoint beside it, which is the closest of all, a second one is linked to the two old ones that are
closest. -/
theorem inject_takesIn_crossing : crossing.WellFormed ∧ ∃ nodes,
    ((crossing.openScope.injectAll [(⟨"0004E", 0, 4⟩, 2)]).inject ⟨"0005E", 0, 5⟩ 2).graph.TakesIn
      (crossing.openScope.injectAll [(⟨"0004E", 0, 4⟩, 2)]).graph crossing ⟨"0005E", 0, 5⟩ 2 nodes :=
  ⟨crossing_built.wellFormed, inject_takesIn crossing_built.wellFormed _ _ _⟩

end Scope

end FlightRoute
