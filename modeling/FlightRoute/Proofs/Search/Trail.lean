/-
**A trail that is found leads somewhere.**

Whatever the costs are, also where they are rounded, negative or do not compare: every trail that a
search keeps begins with one of its seeds, follows arcs of the network one after the other, and comes
to its vertex at the cost that stands beside it (`Network.Leads`). An offer keeps that (`offer_traced`),
so a round does (`round_traced`), so the whole search does.

* `shortest_leads`: the trail that a search returns leads from a seed to the goal.
-/

import FlightRoute.Proofs.Search.Round

namespace FlightRoute.Search

variable {α : Type} [Distance α]

/-- A trail that leads from a seed along arcs to a vertex, at the cost of both together. -/
inductive Network.Leads (network : Network α) (seeds : List (Nat × α)) : Trail → Nat → α → Prop
  | seed {index vertex : Nat} {cost : α} : seeds[index]? = some (vertex, cost) →
      Leads network seeds ⟨index, vertex, []⟩ vertex cost
  | arc {trail : Trail} {vertex : Nat} {cost : α} {arcs : List (Arc α)} {arc : Arc α} :
      Leads network seeds trail vertex cost → network.arcs vertex = .ok arcs → arc ∈ arcs →
      Leads network seeds { trail with hops := ⟨vertex, arc.label⟩ :: trail.hops } arc.target
        (Distance.add cost arc.cost)

/-- Every trail that is kept leads to its vertex at its cost. -/
def Traced (network : Network α) (seeds : List (Nat × α)) (state : State α) : Prop :=
  ∀ vertex cost trail, state.best? vertex = some (cost, trail) →
    network.Leads seeds trail vertex cost

variable {network : Network α} {seeds : List (Nat × α)} {state next : State α}

/-- An offered trail that leads to its vertex keeps all trails that are kept so. -/
theorem offer_traced {vertex : Nat} {cost : α} {trail : Trail} (traced : Traced network seeds state)
    (leads : network.Leads seeds trail vertex cost)
    (offered : state.offer vertex cost trail = .ok next) : Traced network seeds next := by
  rcases offer_cases offered with improved | ⟨rfl, _⟩
  · intro other known way best
    rw [improved.best] at best
    split at best
    · rename_i same
      cases best
      exact same ▸ leads
    · exact traced other known way best
  · exact traced

theorem round_traced (traced : Traced network seeds state) (round : Round network state next) :
    Traced network seeds next := by
  obtain ⟨entry, rest, cost, trail, arcs, up, leaving, offered⟩ := round
  have here : network.Leads seeds trail entry.vertex cost := traced _ _ _ up.best
  refine foldlM_invariant (P := Traced network seeds) (fun before arc after member holds relaxed => ?_)
    offered fun vertex known way best => ?_
  · exact offer_traced holds (.arc here leaving member) relaxed
  · rw [best?_settle] at best
    exact traced vertex known way best

theorem traced_unknown (size : Nat) : Traced network seeds (.unknown size) := by
  intro vertex cost trail best
  rw [best?_unknown] at best
  cases best

/-- The seeds that are sown lead to their own vertices. -/
theorem sown_traced {size : Nat}
    (sown : seeds.zipIdx.foldlM State.sow (.unknown size) = .ok state) :
    Traced network seeds state := by
  refine foldlM_invariant (P := Traced network seeds)
    (fun before seed after member holds offered => ?_) sown (traced_unknown size)
  have place : seeds[seed.2]? = some (seed.1.1, seed.1.2) := List.mem_zipIdx_iff_getElem?.mp member
  exact offer_traced holds (.seed place) offered

theorem Network.Reached.traced (reached : network.Reached seeds state) :
    Traced network seeds state :=
  reached.invariant (fun _ sown => sown_traced sown) fun _ _ => round_traced

/-- **The trail that a search returns leads from a seed to the goal.** -/
theorem shortest_leads {goal : Nat} {cancel : Option CancelFlag} {trail : Trail}
    (found : shortest network seeds goal cancel = .ok (some trail)) :
    ∃ cost, network.Leads seeds trail goal cost := by
  obtain ⟨final, entry, rest, cost, reached, up, rfl⟩ := shortest_found found
  exact ⟨cost, reached.traced _ _ _ up.best⟩

end FlightRoute.Search
