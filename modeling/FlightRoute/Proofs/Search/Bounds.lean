/-
**A search keeps to the vertices of its network.**

A search has a mark for each vertex, and an entry of its agenda is worth nothing without one. Only vertices
that have a mark are entered, and marks are never lost; so whatever comes up has one (`State.InBounds`).

* `offer_inBounds`: an offer that succeeds was made to a vertex of the network;
* `Network.Reached.inBounds`: every state that a search comes to keeps to its bounds.
-/

import FlightRoute.Proofs.Search.Agenda
import FlightRoute.Proofs.Search.Exhaustion

namespace FlightRoute.Search

variable {α : Type}

/-- There is a mark for each vertex below a number, and only such vertices are on the agenda. -/
structure State.InBounds (state : State α) (size : Nat) : Prop where
  marks : state.marks.size = size
  agenda : ∀ entry ∈ state.agenda, entry.vertex < size

variable [Distance α] {network : Network α} {seeds : List (Nat × α)} {state next : State α}
  {size : Nat}

/-- **An offer that succeeds** was made to a vertex that has a mark. -/
theorem offer_inBounds {vertex : Nat} {cost : α} {trail : Trail} (inBounds : state.InBounds size)
    (offered : state.offer vertex cost trail = .ok next) : next.InBounds size := by
  have marks : next.marks.size = size := (offer_size offered).1.trans inBounds.marks
  refine ⟨marks, fun entry member => ?_⟩
  rcases offer_cases offered with improved | ⟨rfl, _⟩
  · rw [improved.agenda] at member
    rcases mem_enter.mp member with rfl | older
    · have best : next.best? vertex = some (cost, trail) := by rw [improved.best, if_pos rfl]
      exact marks ▸ State.lt_of_best? best
    · exact inBounds.agenda entry older
  · exact inBounds.agenda entry member

theorem round_inBounds (inBounds : state.InBounds size) (round : Round network state next) :
    next.InBounds size := by
  obtain ⟨entry, rest, cost, trail, arcs, up, _, offered⟩ := round
  refine foldlM_invariant (P := fun current : State α => current.InBounds size)
    (fun before arc after _ holds relaxed => offer_inBounds holds relaxed) offered ⟨?_, ?_⟩
  · exact Array.size_modify.trans inBounds.marks
  · exact fun other member => inBounds.agenda other (up.suffix.subset (List.mem_cons_of_mem _ member))

/-- **Every state that a search comes to** keeps to its bounds. -/
theorem Network.Reached.inBounds (reached : network.Reached seeds state) :
    state.InBounds network.size := by
  refine reached.invariant (fun start sown => ?_) fun _ _ => round_inBounds
  exact foldlM_invariant (P := fun current : State α => current.InBounds network.size)
    (fun before seed after _ holds offered => offer_inBounds holds offered) sown
    ⟨Array.size_replicate, fun _ => nofun⟩

end FlightRoute.Search
