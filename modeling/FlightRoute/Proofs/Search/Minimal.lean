/-
**A trail that is found is a cheapest one.**

On exact costs, none of them negative, a search finds a cheapest trail. Besides the order of its agenda
the invariant is that no arc of a settled vertex and no seed was left out (`Explored`). A trail that
leads somewhere then has either come to settled vertices only, none of them worse than by the trail, or
it has met an open vertex on the way, and was no cheaper there (`Explored.leads`).

* `offers_ordered`: offers are made in order, and each vertex is known at the cost it was offered;
* `round_explored`: a round keeps the invariant;
* `shortest_isLeast`: the trail that a search returns is a cheapest one from the seeds to the goal.
-/

import FlightRoute.Proofs.Search.Frontier
import FlightRoute.Proofs.Search.Trail

namespace FlightRoute.Search

variable {α : Type} [AddCommMonoid α] [LinearOrder α]

/-- Arcs without negative costs. -/
def Network.Nonnegative (network : Network α) : Prop :=
  ∀ vertex arcs arc, network.arcs vertex = .ok arcs → arc ∈ arcs → 0 ≤ arc.cost

/-- Every arc of a settled vertex has been offered. -/
def Relaxed (network : Network α) (state : State α) : Prop :=
  ∀ vertex cost trail arcs arc, state.isSettled vertex = true →
    state.best? vertex = some (cost, trail) → network.arcs vertex = .ok arcs → arc ∈ arcs →
    state.Covered arc.target (cost + arc.cost)

/-- What holds in every state of a search. -/
structure Explored (network : Network α) (seeds : List (Nat × α)) (state : State α) : Prop where
  ordered : Ordered state
  relaxed : Relaxed network state
  sown : ∀ seed ∈ seeds, state.Covered seed.1 seed.2

/-- An open vertex is known within a cost. -/
def State.OpenWithin (state : State α) (cost : α) : Prop :=
  ∃ vertex, state.isSettled vertex = false ∧ state.Covered vertex cost

variable [IsOrderedAddMonoid α] [Distance α] [Distance.Exact α]
variable {network : Network α} {seeds : List (Nat × α)} {state next : State α}

/-! ### Rounds -/

omit [IsOrderedAddMonoid α] in
/-- **Offers one after the other**, at costs that no settled vertex is above, are all made in order. -/
theorem offers_ordered {β : Type} {items : List β} {target : β → Nat} {price : β → α}
    {way : β → Trail} {offer : State α → β → Except RouteError (State α)}
    (offers : ∀ s item, offer s item = s.offer (target item) (price item) (way item))
    (ordered : Ordered state) (within : ∀ item ∈ items, state.SettledWithin (price item))
    (offered : items.foldlM offer state = .ok next) :
    Ordered next ∧ Onward state next ∧ ∀ item ∈ items, next.Covered (target item) (price item) := by
  rw [← and_assoc]
  refine foldlM_each (P := fun s => Ordered s ∧ Onward state s)
    (Q := fun item s => s.Covered (target item) (price item))
    (fun before item after member holds made => ?_)
    (fun before item after other _ _ made covered => ?_) offered ⟨ordered, .refl state⟩
  · rw [offers] at made
    obtain ⟨inOrder, onward⟩ := holds
    have low := onward.settledWithin (within item member)
    exact ⟨⟨offer_ordered inOrder low made, onward.trans (offer_onward made)⟩,
      offer_covered low made⟩
  · rw [offers] at made
    exact (offer_onward made).covered _ _ covered

/-- **A round keeps the invariant.** -/
theorem round_explored (nonnegative : network.Nonnegative) (explored : Explored network seeds state)
    (round : Round network state next) : Explored network seeds next := by
  obtain ⟨entry, rest, cost, trail, arcs, up, leaving, offered⟩ := round
  obtain ⟨settledOrdered, within⟩ := explored.ordered.settle up
  have above : ∀ arc ∈ arcs, (State.settle { state with agenda := rest } entry.vertex).SettledWithin
      (Distance.add cost arc.cost) := by
    intro arc member
    rw [Distance.add_eq]
    exact within.mono (le_add_of_nonneg_right (nonnegative _ _ arc leaving member))
  obtain ⟨ordered, onward, covered⟩ := offers_ordered (fun _ _ => rfl) settledOrdered above offered
  have kept : ∀ {vertex bound}, state.Covered vertex bound → next.Covered vertex bound := by
    intro vertex bound known
    refine onward.covered vertex bound ?_
    unfold State.Covered
    rw [best?_settle]
    exact known
  refine ⟨ordered, fun vertex known way leavings arc settled reached leave member => ?_,
    fun seed member => kept (explored.sown seed member)⟩
  rw [onward.settled] at settled
  rw [onward.best vertex settled, best?_settle] at reached
  rw [up.isSettled_settle, Bool.or_eq_true, decide_eq_true_iff] at settled
  rcases settled with rfl | settled
  · rw [up.best] at reached
    rw [leaving] at leave
    cases reached
    cases leave
    rw [← Distance.add_eq]
    exact covered arc member
  · exact kept (explored.relaxed vertex known way leavings arc settled reached leave member)

omit [IsOrderedAddMonoid α] in
/-- Nothing is settled before the first round, and every seed is known. -/
theorem sown_explored {size : Nat}
    (sown : seeds.zipIdx.foldlM State.sow (.unknown size) = .ok state) :
    Explored network seeds state := by
  have start : Ordered (State.unknown size : State α) := by
    refine ⟨.nil, fun vertex cost trail best => ?_, fun entry inside => ?_, fun entry inside => ?_⟩
    · rw [best?_unknown] at best
      cases best
    · exact absurd inside List.not_mem_nil
    · exact absurd inside List.not_mem_nil
  have within : ∀ seed ∈ seeds.zipIdx, (State.unknown size : State α).SettledWithin seed.1.2 := by
    intro seed _ vertex settled
    rw [isSettled_unknown] at settled
    cases settled
  obtain ⟨ordered, onward, covered⟩ := offers_ordered (fun _ _ => rfl) start within sown
  refine ⟨ordered, fun vertex cost trail arcs arc settled => ?_, fun seed member => ?_⟩
  · rw [onward.settled, isSettled_unknown] at settled
    cases settled
  · obtain ⟨index, bound, rfl⟩ := List.mem_iff_getElem.mp member
    exact covered (seeds[index], index) (List.mk_mem_zipIdx_iff_getElem?.mpr (by simp))

theorem Network.Reached.explored (nonnegative : network.Nonnegative)
    (reached : network.Reached seeds state) : Explored network seeds state :=
  reached.invariant (fun _ sown => sown_explored sown) fun _ _ => round_explored nonnegative

/-! ### The goal -/

/-- **Where a trail has come to**: to a settled vertex that is known at least as cheaply, or past an
open vertex that is. -/
theorem Explored.leads (nonnegative : network.Nonnegative) (explored : Explored network seeds state)
    {trail : Trail} {vertex : Nat} {cost : α} (leads : network.Leads seeds trail vertex cost) :
    state.isSettled vertex = true ∧ state.Covered vertex cost ∨ state.OpenWithin cost := by
  have reached : ∀ {vertex cost}, state.Covered vertex cost →
      state.isSettled vertex = true ∧ state.Covered vertex cost ∨ state.OpenWithin cost := by
    intro vertex cost covered
    cases settled : state.isSettled vertex with
    | true => exact Or.inl ⟨rfl, covered⟩
    | false => exact Or.inr ⟨vertex, settled, covered⟩
  induction leads with
  | seed place => exact reached (explored.sown _ (List.mem_of_getElem? place))
  | arc _ leaving member ih =>
    rename_i arcs arc _
    rw [Distance.add_eq]
    rcases ih with ⟨settled, known, way, best, low⟩ | ⟨other, fresh, covered⟩
    · refine reached ((explored.relaxed _ _ _ _ arc settled best leaving member).mono ?_)
      exact add_le_add_left low arc.cost
    · refine Or.inr ⟨other, fresh, covered.mono ?_⟩
      exact le_add_of_nonneg_right (nonnegative _ _ arc leaving member)

/-- **The trail that a search returns is a cheapest one from the seeds to the goal.** -/
theorem shortest_isLeast (nonnegative : network.Nonnegative) {goal : Nat}
    {cancel : Option CancelFlag} {trail : Trail}
    (found : shortest network seeds goal cancel = .ok (some trail)) :
    ∃ cost, network.Leads seeds trail goal cost ∧
      ∀ other bound, network.Leads seeds other goal bound → cost ≤ bound := by
  obtain ⟨final, entry, rest, cost, reached, up, rfl⟩ := shortest_found found
  have invariant := reached.explored nonnegative
  refine ⟨cost, reached.traced _ _ _ up.best, fun other bound leads => ?_⟩
  rcases invariant.leads nonnegative leads with ⟨settled, _⟩ | ⟨vertex, fresh, known, way, best, low⟩
  · rw [up.fresh] at settled
    cases settled
  · exact (invariant.ordered.least up best fresh).trans low

end FlightRoute.Search
