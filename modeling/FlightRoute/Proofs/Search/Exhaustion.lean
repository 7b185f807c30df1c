/-
**A search has rounds enough.**

Every round settles a vertex that was open, so that a search that has as many rounds as there are open
vertices never stops for want of them: with more rounds it ends the same way. What comes up next always
has a way to it, so that a round either finds the agenda used up or settles a vertex.

* `idle_or_next`, `explore_idle`, `explore_next`: how a round begins;
* `relax_openVertices`: a round settles one open vertex;
* `round_wellFounded`: there is no endless sequence of rounds;
* `explore_stable`: more rounds than open vertices change nothing.
-/

import Mathlib.Data.Finset.Card
import FlightRoute.Proofs.Search.Round

namespace FlightRoute.Search

variable {α : Type} [Distance α] {network : Network α} {goal : Nat} {cancel : Option CancelFlag}
  {state next : State α} {entry : Entry α} {rest : List (Entry α)} {cost : α} {trail : Trail}

/-! ### How a round begins -/

/-- The agenda is used up, or a vertex comes up next. -/
theorem State.idle_or_next (state : State α) :
    state.agenda.dropWhile state.overtaken = [] ∨
      ∃ entry rest cost trail, state.Next entry rest cost trail := by
  cases agenda : state.agenda.dropWhile state.overtaken with
  | nil => exact Or.inl rfl
  | cons entry rest =>
    have alive : state.overtaken entry = false := by
      have head := List.head?_dropWhile_not state.overtaken state.agenda
      rw [agenda] at head
      simpa using head
    unfold State.overtaken at alive
    split at alive
    · rename_i cost trail settled here
      exact Or.inr ⟨entry, rest, cost, trail, agenda, by simp [State.best?, here]⟩
    · cases alive

theorem explore_idle (idle : state.agenda.dropWhile state.overtaken = []) (rounds : Nat) :
    explore network goal cancel rounds state = .ok none := by
  cases rounds with
  | zero => rfl
  | succ rounds => rw [explore, idle]

theorem explore_next (up : state.Next entry rest cost trail) (rounds : Nat) :
    explore network goal cancel (rounds + 1) state = (do
      checkCancel cancel
      if entry.vertex = goal then return some trail
      let arcs ← network.arcs entry.vertex
      let next ← arcs.foldlM (State.relax entry.vertex cost trail)
        (State.settle { state with agenda := rest } entry.vertex)
      explore network goal cancel rounds next) := by
  have best : state.marks[entry.vertex]?.bind (·.best) = some (cost, trail) := up.best
  rw [explore, up.first]
  dsimp only
  rw [best]

/-! ### Open vertices -/

omit [Distance α] in
/-- The vertices that are not settled. -/
def State.openVertices (state : State α) : Finset Nat :=
  (Finset.range state.marks.size).filter fun vertex => state.isSettled vertex = false

omit [Distance α] in
theorem State.mem_openVertices {vertex : Nat} :
    vertex ∈ state.openVertices ↔ vertex < state.marks.size ∧ state.isSettled vertex = false := by
  unfold openVertices
  rw [Finset.mem_filter, Finset.mem_range]

omit [Distance α] in
theorem State.openVertices_card_le (state : State α) :
    state.openVertices.card ≤ state.marks.size :=
  (Finset.card_filter_le _ _).trans (Finset.card_range _).le

omit [Distance α] in
theorem State.lt_of_best? {vertex : Nat} (best : state.best? vertex = some (cost, trail)) :
    vertex < state.marks.size := by
  obtain ⟨mark, here, _⟩ := Option.bind_eq_some_iff.mp best
  exact (Array.getElem?_eq_some_iff.mp here).1

/-- The vertex that comes up next is open. -/
theorem State.Next.mem_openVertices (up : state.Next entry rest cost trail) :
    entry.vertex ∈ state.openVertices :=
  State.mem_openVertices.mpr ⟨State.lt_of_best? up.best, up.fresh⟩

/-- An offer changes neither how many vertices there are nor which of them are settled. -/
theorem offer_size {vertex : Nat} (offered : state.offer vertex cost trail = .ok next) :
    next.marks.size = state.marks.size ∧ ∀ other, next.isSettled other = state.isSettled other := by
  refine ⟨?_, ?_⟩
  · unfold State.offer at offered
    split at offered
    · cases offered
    · split at offered
      · cases offered
        exact Array.size_setIfInBounds ..
      · cases offered
        rfl
  · rcases offer_cases offered with improved | ⟨rfl, _⟩
    · exact improved.settled
    · exact fun _ => rfl

/-- **A round settles one open vertex.** -/
theorem relax_openVertices (up : state.Next entry rest cost trail) {arcs : List (Arc α)}
    (offered : arcs.foldlM (State.relax entry.vertex cost trail)
      (State.settle { state with agenda := rest } entry.vertex) = .ok next) :
    next.marks.size = state.marks.size ∧
      next.openVertices = state.openVertices.erase entry.vertex := by
  have size : (State.settle { state with agenda := rest } entry.vertex).marks.size =
      state.marks.size := Array.size_modify
  have kept : next.marks.size = state.marks.size ∧ ∀ other, next.isSettled other =
      (State.settle { state with agenda := rest } entry.vertex).isSettled other := by
    refine foldlM_invariant
      (P := fun s => s.marks.size = state.marks.size ∧ ∀ other, s.isSettled other =
        (State.settle { state with agenda := rest } entry.vertex).isSettled other)
      (fun before arc after _ holds relaxed => ?_) offered ⟨size, fun _ => rfl⟩
    obtain ⟨same, settled⟩ := offer_size relaxed
    exact ⟨same.trans holds.1, fun other => (settled other).trans (holds.2 other)⟩
  refine ⟨kept.1, Finset.ext fun vertex => ?_⟩
  rw [Finset.mem_erase, State.mem_openVertices, State.mem_openVertices, kept.1, kept.2,
    up.isSettled_settle, Bool.or_eq_false_iff, decide_eq_false_iff_not]
  exact and_left_comm

theorem relax_card (up : state.Next entry rest cost trail) {arcs : List (Arc α)}
    (offered : arcs.foldlM (State.relax entry.vertex cost trail)
      (State.settle { state with agenda := rest } entry.vertex) = .ok next) :
    next.openVertices.card + 1 = state.openVertices.card := by
  rw [(relax_openVertices up offered).2]
  exact Finset.card_erase_add_one up.mem_openVertices

/-- **No search goes on for ever**: there are fewer open vertices after every round. -/
theorem round_wellFounded (network : Network α) :
    WellFounded fun next state => Round network state next := by
  refine Subrelation.wf (fun round => ?_) (measure fun state : State α => state.openVertices.card).wf
  obtain ⟨entry, rest, cost, trail, arcs, up, _, offered⟩ := round
  have fewer := relax_card up offered
  show Finset.card _ < Finset.card _
  omega

/-! ### Rounds enough -/

/-- **More rounds than open vertices change nothing.** -/
theorem explore_stable {rounds : Nat} (enough : state.openVertices.card ≤ rounds) (more : Nat) :
    explore network goal cancel (rounds + more) state =
      explore network goal cancel rounds state := by
  induction rounds generalizing state with
  | zero =>
    rcases state.idle_or_next with idle | ⟨entry, rest, cost, trail, up⟩
    · rw [explore_idle idle, explore_idle idle]
    · have closed : state.openVertices = ∅ := Finset.card_eq_zero.mp (Nat.le_zero.mp enough)
      exact absurd up.mem_openVertices (closed ▸ Finset.notMem_empty _)
  | succ rounds ih =>
    rcases state.idle_or_next with idle | ⟨entry, rest, cost, trail, up⟩
    · rw [explore_idle idle, explore_idle idle]
    · rw [Nat.add_right_comm, explore_next up, explore_next up]
      refine bind_congr fun _ => ?_
      split
      · rfl
      · refine bind_congr fun arcs => ?_
        cases offered : arcs.foldlM (State.relax entry.vertex cost trail)
            (State.settle { state with agenda := rest } entry.vertex) with
        | error failure => rfl
        | ok next =>
          have fewer := relax_card up offered
          exact ih (by omega)

/-- **More rounds than vertices change nothing.** -/
theorem shortest_stable (network : Network α) (seeds : List (Nat × α)) (goal : Nat)
    (cancel : Option CancelFlag) (more : Nat) :
    (do let state ← seeds.zipIdx.foldlM State.sow (.unknown network.size)
        explore network goal cancel (network.size + more) state) =
      shortest network seeds goal cancel := by
  unfold shortest
  cases sown : seeds.zipIdx.foldlM State.sow (.unknown network.size) with
  | error failure => rfl
  | ok state =>
    have size : state.marks.size = network.size :=
      foldlM_invariant (P := fun s : State α => s.marks.size = network.size)
        (fun before seed after _ same offered => (offer_size offered).1.trans same) sown
        Array.size_replicate
    exact explore_stable (size ▸ state.openVertices_card_le) more

end FlightRoute.Search
