/-
**A trail can be retraced.**

A search need not keep whole trails. It is enough to keep for each vertex by which arc or from which seed it
was reached (`State.cameFrom?`) and to go back from arc to arc in the end. The way back gives the trail: an
arc is kept only when the vertex that it leaves is settled, and what is settled keeps its own arc
(`Chained`). It therefore ends, at a seed, whatever the costs are.

* `offer_firm`: an offer leaves settled vertices as they are;
* `round_chained`: a round keeps the chain;
* `Chained.retraces`, `State.Retraces.unique`: the way back is there, and gives the trail.
-/

import FlightRoute.Proofs.Search.Round

namespace FlightRoute.Search

variable {α : Type}

/-- How a vertex was reached: from a seed, or along an arc. -/
inductive Origin
  | seed (index : Nat)
  | arc (hop : Hop)

/-- The last step of a trail. -/
def Trail.origin (trail : Trail) : Origin :=
  match trail.hops with
  | [] => .seed trail.seed
  | hop :: _ => .arc hop

/-- How a vertex was reached at the least cost so far. -/
def State.cameFrom? (state : State α) (vertex : Nat) : Option Origin :=
  (state.best? vertex).map (·.2.origin)

/-- The way back from a vertex, arc by arc, gives a trail. -/
inductive State.Retraces (state : State α) : Nat → Trail → Prop
  | seed {vertex index : Nat} : state.cameFrom? vertex = some (.seed index) →
      Retraces state vertex ⟨index, vertex, []⟩
  | arc {vertex : Nat} {hop : Hop} {trail : Trail} : state.cameFrom? vertex = some (.arc hop) →
      Retraces state hop.vertex trail → Retraces state vertex { trail with hops := hop :: trail.hops }

/-- There is only one way back. -/
theorem State.Retraces.unique {state : State α} {vertex : Nat} {trail other : Trail}
    (back : state.Retraces vertex trail) (again : state.Retraces vertex other) : trail = other := by
  induction back generalizing other with
  | seed origin =>
    cases again with
    | seed same =>
      rw [origin] at same
      cases same
      rfl
    | arc same _ =>
      rw [origin] at same
      cases same
  | arc origin _ ih =>
    cases again with
    | seed same =>
      rw [origin] at same
      cases same
    | arc same further =>
      rw [origin] at same
      cases same
      rw [ih further]

/-- A trail is that of a seed at its vertex, or an arc behind the trail of a settled vertex. -/
def State.Continues (state : State α) (vertex : Nat) (trail : Trail) : Prop :=
  (trail.hops = [] ∧ trail.start = vertex) ∨
    ∃ hop earlier cost, trail.hops = hop :: earlier ∧ state.isSettled hop.vertex = true ∧
      state.best? hop.vertex = some (cost, { trail with hops := earlier })

/-- Every trail that is kept continues another that is kept, or begins with a seed. -/
def Chained (state : State α) : Prop :=
  ∀ vertex cost trail, state.best? vertex = some (cost, trail) → state.Continues vertex trail

/-- **The way back is there** and gives the trail that is kept. -/
theorem Chained.retraces {state : State α} (chained : Chained state) {vertex : Nat} {cost : α}
    {trail : Trail} (best : state.best? vertex = some (cost, trail)) :
    state.Retraces vertex trail := by
  obtain ⟨index, start, hops⟩ := trail
  induction hops generalizing vertex cost with
  | nil =>
    rcases chained vertex cost _ best with ⟨_, rfl⟩ | ⟨hop, earlier, known, more, _⟩
    · exact .seed (by rw [State.cameFrom?, best]; rfl)
    · cases more
  | cons hop rest ih =>
    rcases chained vertex cost _ best with ⟨missing, _⟩ | ⟨_, _, known, same, _, before⟩
    · cases missing
    · cases same
      exact .arc (by rw [State.cameFrom?, best]; rfl) (ih before)

/-- What is settled stays as it is. -/
def Firm (state next : State α) : Prop :=
  ∀ vertex, state.isSettled vertex = true →
    next.isSettled vertex = true ∧ next.best? vertex = state.best? vertex

theorem State.Continues.firm {state next : State α} {vertex : Nat} {trail : Trail}
    (continues : state.Continues vertex trail) (firm : Firm state next) :
    next.Continues vertex trail := by
  refine continues.imp_right fun ⟨hop, earlier, cost, hops, settled, best⟩ => ?_
  obtain ⟨still, same⟩ := firm hop.vertex settled
  exact ⟨hop, earlier, cost, hops, still, same.trans best⟩

variable [Distance α] {network : Network α} {state next : State α} {vertex : Nat} {cost : α}
  {trail : Trail} {entry : Entry α} {rest : List (Entry α)}

/-- **An offer leaves settled vertices as they are.** -/
theorem offer_firm (offered : state.offer vertex cost trail = .ok next) : Firm state next := by
  rcases offer_cases offered with improved | ⟨rfl, _⟩
  · intro other settled
    have different : other ≠ vertex := by
      rintro rfl
      rw [improved.fresh] at settled
      cases settled
    rw [improved.settled, improved.best, if_neg different]
    exact ⟨settled, rfl⟩
  · exact fun _ settled => ⟨settled, rfl⟩

theorem State.Next.firm (up : state.Next entry rest cost trail) :
    Firm state (State.settle { state with agenda := rest } entry.vertex) := by
  intro other settled
  rw [up.isSettled_settle, settled, best?_settle, Bool.or_true]
  exact ⟨rfl, rfl⟩

theorem offer_chained (offered : state.offer vertex cost trail = .ok next) (chained : Chained state)
    (continues : state.Continues vertex trail) : Chained next := by
  have firm : Firm state next := offer_firm offered
  rcases offer_cases offered with improved | ⟨rfl, _⟩
  · intro other known way best
    rw [improved.best] at best
    split at best
    · rename_i same
      cases best
      exact same ▸ continues.firm firm
    · exact (chained other known way best).firm firm
  · exact chained

/-- **A round keeps the chain.** -/
theorem round_chained (chained : Chained state) (round : Round network state next) :
    Chained next := by
  obtain ⟨entry, rest, cost, trail, arcs, up, leaving, offered⟩ := round
  have start : Chained (State.settle { state with agenda := rest } entry.vertex) ∧
      (State.settle { state with agenda := rest } entry.vertex).isSettled entry.vertex = true ∧
      (State.settle { state with agenda := rest } entry.vertex).best? entry.vertex =
        some (cost, trail) := by
    refine ⟨fun other known way best => ?_, ?_, ?_⟩
    · rw [best?_settle] at best
      exact (chained other known way best).firm up.firm
    · rw [up.isSettled_settle, decide_eq_true rfl, Bool.true_or]
    · rw [best?_settle]
      exact up.best
  have whole := foldlM_invariant
    (P := fun s : State α => Chained s ∧ s.isSettled entry.vertex = true ∧
      s.best? entry.vertex = some (cost, trail))
    (fun before arc after _ holds relaxed => ?_) offered start
  · exact whole.1
  · obtain ⟨chained, settled, best⟩ := holds
    obtain ⟨still, same⟩ := offer_firm relaxed entry.vertex settled
    refine ⟨offer_chained relaxed chained (Or.inr ?_), still, same.trans best⟩
    exact ⟨⟨entry.vertex, arc.label⟩, trail.hops, cost, rfl, settled, best⟩

theorem sown_chained {seeds : List (Nat × α)} {size : Nat}
    (sown : seeds.zipIdx.foldlM State.sow (.unknown size) = .ok state) : Chained state := by
  refine foldlM_invariant (P := Chained) (fun before seed after _ holds offered => ?_) sown ?_
  · exact offer_chained offered holds (Or.inl ⟨rfl, rfl⟩)
  · intro vertex cost trail best
    rw [best?_unknown] at best
    cases best

theorem Network.Reached.chained {seeds : List (Nat × α)} (reached : network.Reached seeds state) :
    Chained state :=
  reached.invariant (fun _ sown => sown_chained sown) fun _ _ => round_chained

end FlightRoute.Search
