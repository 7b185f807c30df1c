/-
**Edges of waypoints that are taken in.**

A graph that took waypoints in for a while has the edges it had before, and links: direct edges as long
as their waypoints are apart (`Graph.Linked`). What follows an edge of such a graph is therefore a direct
leg, or it follows an edge of the old graph.

* `inject_linked`: taking in a waypoint adds nothing but links;
* `Span.Along.isDirect_or_along`: an edge in a scope is a direct leg or an old edge.
-/

import FlightRoute.Proofs.Graph.Rollback
import FlightRoute.Proofs.Graph.Walk

namespace FlightRoute

variable {α : Type} [Distance α]

namespace Graph

/-- A direct edge as long as its waypoints are apart. -/
structure IsLink (graph : Graph α) (node : Nat) (edge : Edge α) : Prop where
  airway : edge.airway = direct
  measured : ∃ source target, graph.waypoints[node]? = some source ∧
    graph.waypoints[edge.target]? = some target ∧ edge.distance = Distance.between source target

/-- Every edge of the grown graph is an edge of the old one, or a link. -/
def Linked (grown graph : Graph α) : Prop :=
  ∀ (node : Nat) (edges : Array (Edge α)) (edge : Edge α), grown.outgoing[node]? = some edges →
    edge ∈ edges → (∃ old, graph.outgoing[node]? = some old ∧ edge ∈ old) ∨ grown.IsLink node edge

variable {grown graph : Graph α}

theorem Linked.refl (graph : Graph α) : graph.Linked graph :=
  fun _ edges _ leaving member => Or.inl ⟨edges, leaving, member⟩

/-- A link stays one when a waypoint is added behind the others. -/
theorem IsLink.addWaypoint {node : Nat} {edge : Edge α} (link : graph.IsLink node edge)
    (waypoint : Waypoint) : (graph.addWaypoint waypoint).IsLink node edge := by
  have kept : ∀ {other : Nat} {own : Waypoint}, graph.waypoints[other]? = some own →
      (graph.addWaypoint waypoint).waypoints[other]? = some own := by
    intro other own place
    have inside : other < graph.size := (Array.getElem?_eq_some_iff.mp place).1
    rw [getElem?_addWaypoint, if_neg (Nat.ne_of_lt inside), place]
  obtain ⟨source, target, place, there, distance⟩ := link.measured
  exact ⟨link.airway, source, target, kept place, kept there, distance⟩

theorem Linked.addWaypoint (linked : grown.Linked graph) (waypoint : Waypoint) :
    (grown.addWaypoint waypoint).Linked graph := by
  intro node edges edge leaving member
  change (grown.outgoing.push #[])[node]? = some edges at leaving
  rw [Array.getElem?_push] at leaving
  split at leaving
  · cases leaving
    simp at member
  · exact (linked node edges edge leaving member).imp_right fun link => link.addWaypoint waypoint

/-- A direct edge whose length is not given is a link. -/
theorem Linked.addEdge (linked : grown.Linked graph) (source target : Nat) :
    (grown.addEdge source target direct none).Linked graph := by
  have waypoints := waypoints_addEdge grown source target direct none
  have kept : ∀ {node : Nat} {edge : Edge α}, grown.IsLink node edge →
      (grown.addEdge source target direct none).IsLink node edge := by
    rintro node edge ⟨airway, start, finish, place, there, distance⟩
    exact ⟨airway, start, finish, waypoints ▸ place, waypoints ▸ there, distance⟩
  intro node edges edge leaving member
  rcases outgoing_addEdge grown source target direct none with
    same | ⟨start, finish, place, there, added⟩
  · rw [same] at leaving
    exact (linked node edges edge leaving member).imp_right kept
  · rw [added, Array.getElem?_modify] at leaving
    split at leaving
    · rename_i here
      subst here
      obtain ⟨older, before, rfl⟩ := Option.map_eq_some_iff.mp leaving
      rcases Array.mem_push.mp member with old | rfl
      · exact (linked source older edge before old).imp_right kept
      · exact Or.inr ⟨rfl, start, finish, waypoints ▸ place, waypoints ▸ there, rfl⟩
    · exact (linked node edges edge leaving member).imp_right kept

end Graph

namespace Scope

variable {scope : Scope α} {graph : Graph α}

theorem link_linked (linked : scope.graph.Linked graph) (newNode oldNode : Nat) :
    (scope.link newNode oldNode).graph.Linked graph := by
  have touched : (scope.touch oldNode).graph.Linked graph := touch_graph scope oldNode ▸ linked
  exact (touched.addEdge newNode oldNode).addEdge oldNode newNode

/-- **Taking in a waypoint adds nothing but links.** -/
theorem inject_linked (linked : scope.graph.Linked graph) (waypoint : Waypoint) (links : Nat) :
    (scope.inject waypoint links).graph.Linked graph := by
  rw [← joined_all]
  refine joined_invariant (P := fun current => current.graph.Linked graph) ?_ ?_ links
  · exact linked.addWaypoint waypoint
  · exact fun current node _ holds => link_linked holds scope.graph.size node

end Scope

/-- **An edge in a scope is a direct leg or an old edge.** -/
theorem Span.Along.isDirect_or_along {scope : Scope α} {graph : Graph α} {span : Span α}
    {edge : Edge α} (along : span.Along scope.graph edge) (wellFormed : graph.WellFormed)
    (grown : scope.Over graph) (linked : scope.graph.Linked graph) :
    span.IsDirect ∨ span.Along graph edge := by
  obtain ⟨node, edges, source, target, leaving, member, place, there, start, finish, leg⟩ := along
  rcases linked node edges edge leaving member with ⟨old, before, inside⟩ | link
  · have here : node < graph.size := wellFormed.lt_of_outgoing before
    have leads : edge.target < graph.size := wellFormed.target_lt node old edge before inside
    rw [grown.waypoints node here] at place
    rw [grown.waypoints edge.target leads] at there
    exact Or.inr ⟨node, old, source, target, before, inside, place, there, start, finish, leg⟩
  · obtain ⟨own, other, same, also, distance⟩ := link.measured
    rw [place] at same
    rw [there] at also
    cases same
    cases also
    exact Or.inl ⟨leg ▸ link.airway, leg ▸ rfl, source, target, start, finish, leg ▸ distance⟩

end FlightRoute
