/-
**A trail that is found passes no vertex twice.**

Whatever the costs are, a trail is made longer only when a vertex is settled, and only towards vertices
that are not. The arcs of every trail that is kept therefore leave settled vertices, each of them once,
and none of them leaves the vertex to which the trail leads (`Threaded`). A vertex that is settled keeps
its trail, so that this is true of the goal in the end.

* `round_threaded`: a round keeps it;
* `shortest_simple`: the trail that a search returns leaves every vertex at most once, and not the goal.
-/

import FlightRoute.Proofs.Search.Round

namespace FlightRoute.Search

variable {α : Type} {network : Network α} {state next : State α} {entry : Entry α}
  {rest : List (Entry α)} {cost : α} {trail : Trail}

/-- The vertices that a trail leaves, the latest first. -/
def Trail.vertices (trail : Trail) : List Nat := trail.hops.map (·.vertex)

/-- Every trail that is kept leaves settled vertices, each of them once, and not its own vertex. -/
structure Threaded (state : State α) : Prop where
  settled : ∀ vertex cost trail, state.best? vertex = some (cost, trail) →
    ∀ other ∈ trail.vertices, state.isSettled other = true
  nodup : ∀ vertex cost trail, state.best? vertex = some (cost, trail) →
    (vertex :: trail.vertices).Nodup

theorem threaded_unknown (size : Nat) : Threaded (State.unknown size : State α) := by
  constructor <;> simp

variable [Distance α]

/-- **An offer keeps the trails threaded** when its own trail leaves settled vertices, each once. -/
theorem offer_threaded {vertex : Nat} (offered : state.offer vertex cost trail = .ok next)
    (threaded : Threaded state) (settled : ∀ other ∈ trail.vertices, state.isSettled other = true)
    (nodup : trail.vertices.Nodup) :
    Threaded next ∧ ∀ other, next.isSettled other = state.isSettled other := by
  rcases offer_cases offered with improved | ⟨rfl, _⟩
  · refine ⟨⟨fun other known way best => ?_, fun other known way best => ?_⟩, improved.settled⟩
    · rw [improved.best] at best
      intro passed member
      rw [improved.settled]
      split at best
      · cases best
        exact settled passed member
      · exact threaded.settled other known way best passed member
    · rw [improved.best] at best
      split at best
      · rename_i same
        cases best
        -- The vertex of an offer that counts is open, the vertices of its trail are not.
        refine List.nodup_cons.mpr ⟨fun member => ?_, nodup⟩
        have passed := settled other member
        rw [same, improved.fresh] at passed
        cases passed
      · exact threaded.nodup other known way best
  · exact ⟨threaded, fun _ => rfl⟩

/-- Settling the vertex that comes up next keeps the trails threaded, and the arcs that leave it may
then be offered. -/
theorem Threaded.settle (threaded : Threaded state) (up : state.Next entry rest cost trail) :
    Threaded (State.settle { state with agenda := rest } entry.vertex) ∧
      ∀ other ∈ entry.vertex :: trail.vertices,
        (State.settle { state with agenda := rest } entry.vertex).isSettled other = true := by
  have kept : ∀ other, state.isSettled other = true →
      (State.settle { state with agenda := rest } entry.vertex).isSettled other = true := by
    intro other known
    rw [up.isSettled_settle, known, Bool.or_true]
  refine ⟨⟨fun vertex known way reached other member => ?_, fun vertex known way reached => ?_⟩, ?_⟩
  · rw [best?_settle] at reached
    exact kept other (threaded.settled vertex known way reached other member)
  · rw [best?_settle] at reached
    exact threaded.nodup vertex known way reached
  · intro other member
    rcases List.mem_cons.mp member with rfl | member
    · rw [up.isSettled_settle, decide_eq_true rfl, Bool.true_or]
    · exact kept other (threaded.settled _ _ _ up.best other member)

/-- **A round keeps the trails threaded.** -/
theorem round_threaded (threaded : Threaded state) (round : Round network state next) :
    Threaded next := by
  obtain ⟨entry, rest, cost, trail, arcs, up, leaving, offered⟩ := round
  obtain ⟨settledThreaded, passed⟩ := threaded.settle up
  have nodup : (entry.vertex :: trail.vertices).Nodup := threaded.nodup _ _ _ up.best
  have whole : Threaded next ∧ ∀ other ∈ entry.vertex :: trail.vertices, next.isSettled other = true := by
    refine foldlM_invariant
      (P := fun s => Threaded s ∧ ∀ other ∈ entry.vertex :: trail.vertices, s.isSettled other = true)
      (fun before arc after _ holds relaxed => ?_) offered ⟨settledThreaded, passed⟩
    have made : before.offer arc.target (Distance.add cost arc.cost)
      { trail with hops := ⟨entry.vertex, arc.label⟩ :: trail.hops } = .ok after := relaxed
    obtain ⟨kept, same⟩ := offer_threaded made holds.1 holds.2 nodup
    exact ⟨kept, fun other member => (same other).trans (holds.2 other member)⟩
  exact whole.1

/-- The seeds that are sown have trails that leave no vertex. -/
theorem sown_threaded {seeds : List (Nat × α)} {size : Nat}
    (sown : seeds.zipIdx.foldlM State.sow (.unknown size) = .ok state) : Threaded state := by
  refine foldlM_invariant (P := Threaded) (fun before seed after _ holds offered => ?_) sown
    (threaded_unknown size)
  have made : before.offer seed.1.1 seed.1.2 ⟨seed.2, seed.1.1, []⟩ = .ok after := offered
  exact (offer_threaded made holds (fun _ member => absurd member List.not_mem_nil) List.nodup_nil).1

theorem Network.Reached.threaded {seeds : List (Nat × α)} (reached : network.Reached seeds state) :
    Threaded state :=
  reached.invariant (fun _ sown => sown_threaded sown) fun _ _ => round_threaded

/-- **The trail that a search returns leaves every vertex at most once, and never the goal.** -/
theorem shortest_simple {seeds : List (Nat × α)} {goal : Nat} {cancel : Option CancelFlag}
    (found : shortest network seeds goal cancel = .ok (some trail)) :
    (goal :: trail.vertices).Nodup := by
  obtain ⟨final, entry, rest, cost, reached, up, rfl⟩ := shortest_found found
  exact reached.threaded.nodup _ _ _ up.best

end FlightRoute.Search
