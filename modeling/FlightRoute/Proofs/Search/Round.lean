/-
**The rounds of a search.**

What a search does is said here once, for every kind of length: what an offer may change
(`State.Improved`), what comes up next (`State.Next`), and what one round does (`Round`). Everything
else about a search is an invariant of its rounds.

* `offer_cases`: an offer improves the vertex it is made to, and only that one, or changes nothing;
* `still_waiting`: an open vertex on the agenda is not passed over;
* `Network.Reached.invariant`: what every round keeps;
* `explore_found`, `shortest_found`: a search that finds a trail went through rounds until the goal came
  up with it.
-/

import Mathlib.Logic.Relation
import FlightRoute.Proofs.Distance.Exact
import FlightRoute.Proofs.Except
import FlightRoute.Search.Shortest

namespace FlightRoute.Search

variable {α : Type}

/-! ### What is known of a vertex -/

/-- The least cost at which a vertex was reached, and how. -/
def State.best? (state : State α) (vertex : Nat) : Option (α × Trail) :=
  state.marks[vertex]?.bind (·.best)

/-- Whether a vertex is settled. -/
def State.isSettled (state : State α) (vertex : Nat) : Bool :=
  state.marks[vertex]?.any (·.settled)

/-- What is known of a vertex does not depend on the agenda, nor on what is settled. -/
theorem best?_settle (state : State α) (rest : List (Entry α)) (vertex other : Nat) :
    (State.settle { state with agenda := rest } vertex).best? other = state.best? other := by
  unfold State.settle State.best?
  rw [Array.getElem?_modify]
  split
  · cases state.marks[other]? <;> rfl
  · rfl

theorem isSettled_settle (state : State α) {vertex : Nat} (known : (state.best? vertex).isSome)
    (other : Nat) :
    (state.settle vertex).isSettled other = (decide (other = vertex) || state.isSettled other) := by
  unfold State.settle State.isSettled
  rw [Array.getElem?_modify]
  by_cases same : vertex = other
  · subst same
    unfold State.best? at known
    cases mark : state.marks[vertex]? with
    | none => simp [mark] at known
    | some mark => simp
  · simp [same, Ne.symm same]

@[simp]
theorem best?_unknown (size vertex : Nat) : (State.unknown size : State α).best? vertex = none := by
  unfold State.best? State.unknown
  rw [Array.getElem?_replicate]
  split <;> rfl

@[simp]
theorem isSettled_unknown (size vertex : Nat) :
    (State.unknown size : State α).isSettled vertex = false := by
  unfold State.isSettled State.unknown
  rw [Array.getElem?_replicate]
  split <;> rfl

variable [Distance α]

/-! ### Offers -/

/-- The state with a better way to a vertex that is still open. -/
structure State.Improved (state : State α) (vertex : Nat) (cost : α) (trail : Trail)
    (next : State α) : Prop where
  fresh : state.isSettled vertex = false
  better : improves cost (state.best? vertex) = true
  best : ∀ other, next.best? other = if other = vertex then some (cost, trail) else state.best? other
  settled : ∀ other, next.isSettled other = state.isSettled other
  agenda : next.agenda = enter ⟨cost, vertex⟩ state.agenda

/-- **What an offer does**: it improves its vertex, or the vertex is settled or no worse off. -/
theorem offer_cases {state next : State α} {vertex : Nat} {cost : α} {trail : Trail}
    (offered : state.offer vertex cost trail = .ok next) :
    state.Improved vertex cost trail next ∨
      next = state ∧
        (state.isSettled vertex = true ∨ improves cost (state.best? vertex) = false) := by
  unfold State.offer at offered
  cases found : state.marks[vertex]? with
  | none =>
    rw [found] at offered
    cases offered
  | some mark =>
    have best : state.best? vertex = mark.best := by simp [State.best?, found]
    have settled : state.isSettled vertex = mark.settled := by simp [State.isSettled, found]
    have inside : vertex < state.marks.size := (Array.getElem?_eq_some_iff.mp found).1
    rw [found] at offered
    dsimp only at offered
    rw [best, settled]
    by_cases open_ : mark.settled = false
    · by_cases better : improves cost mark.best = true
      · rw [open_, better] at offered
        cases offered
        refine Or.inl ⟨settled.trans open_, best ▸ better, fun other => ?_, fun other => ?_, rfl⟩
        · unfold State.best?
          rw [Array.getElem?_setIfInBounds]
          by_cases same : vertex = other
          · subst same
            simp [inside]
          · simp [same, Ne.symm same]
        · unfold State.isSettled
          rw [Array.getElem?_setIfInBounds]
          by_cases same : vertex = other
          · subst same
            rw [if_pos rfl, if_pos inside, found]
            exact open_.symm
          · rw [if_neg same]
      · rw [Bool.not_eq_true] at better
        rw [open_, better] at offered
        cases offered
        exact Or.inr ⟨rfl, Or.inr better⟩
    · rw [Bool.not_eq_false] at open_
      rw [open_] at offered
      cases offered
      exact Or.inr ⟨rfl, Or.inl open_⟩

/-! ### What comes up next -/

/-- The vertex of `entry` comes up next, at a cost and by a trail. -/
structure State.Next (state : State α) (entry : Entry α) (rest : List (Entry α)) (cost : α)
    (trail : Trail) : Prop where
  first : state.agenda.dropWhile state.overtaken = entry :: rest
  best : state.best? entry.vertex = some (cost, trail)

section Next

variable {state : State α} {entry : Entry α} {rest : List (Entry α)} {cost : α} {trail : Trail}
  {vertex : Nat}

theorem State.Next.suffix (up : state.Next entry rest cost trail) :
    (entry :: rest) <:+ state.agenda := by
  rw [← up.first]
  exact List.dropWhile_suffix _

theorem State.Next.member (up : state.Next entry rest cost trail) : entry ∈ state.agenda :=
  up.suffix.subset List.mem_cons_self

theorem State.Next.alive (up : state.Next entry rest cost trail) :
    state.overtaken entry = false := by
  have head := List.head?_dropWhile_not state.overtaken state.agenda
  rw [up.first] at head
  simpa using head

/-- The vertex that comes up next is open. -/
theorem State.Next.fresh (up : state.Next entry rest cost trail) :
    state.isSettled entry.vertex = false := by
  have alive := up.alive
  unfold State.overtaken at alive
  unfold State.isSettled
  cases found : state.marks[entry.vertex]? with
  | none => rfl
  | some mark =>
    obtain ⟨known, settled⟩ := mark
    cases known with
    | none => simp [found] at alive
    | some known =>
      simp only [found, Bool.or_eq_false_iff] at alive
      simpa using alive.1

/-- What is settled once the vertex that comes up next is. -/
theorem State.Next.isSettled_settle (up : state.Next entry rest cost trail) (vertex : Nat) :
    (State.settle { state with agenda := rest } entry.vertex).isSettled vertex =
      (decide (vertex = entry.vertex) || state.isSettled vertex) := by
  have known : (State.best? { state with agenda := rest } entry.vertex).isSome := by
    rw [show State.best? { state with agenda := rest } entry.vertex = _ from up.best]
    rfl
  exact Search.isSettled_settle _ known vertex

variable [Distance.Irreflexive α]

/-- The entry of an open vertex at its cost has not been overtaken. -/
theorem not_overtaken (best : state.best? vertex = some (cost, trail))
    (fresh : state.isSettled vertex = false) :
    state.overtaken ⟨cost, vertex⟩ = false := by
  unfold State.best? at best
  unfold State.isSettled at fresh
  unfold State.overtaken
  cases found : state.marks[vertex]? with
  | none => simp [found] at best
  | some mark =>
    obtain ⟨known, settled⟩ := mark
    simp_all [Distance.lt_self]

/-- An open vertex on the agenda is still there when the next one comes up. -/
theorem still_waiting (inside : ⟨cost, vertex⟩ ∈ state.agenda)
    (best : state.best? vertex = some (cost, trail)) (fresh : state.isSettled vertex = false) :
    ⟨cost, vertex⟩ ∈ state.agenda.dropWhile state.overtaken := by
  rw [← List.takeWhile_append_dropWhile (p := state.overtaken) (l := state.agenda)] at inside
  rcases List.mem_append.mp inside with gone | here
  · have passed := List.all_eq_true.mp List.all_takeWhile _ gone
    rw [not_overtaken best fresh] at passed
    cases passed
  · exact here

end Next

/-! ### Rounds -/

/-- **One round**: the vertex that comes up is settled and its arcs are offered. -/
def Round (network : Network α) (state next : State α) : Prop :=
  ∃ entry rest cost trail arcs,
    state.Next entry rest cost trail ∧ network.arcs entry.vertex = .ok arcs ∧
      arcs.foldlM (State.relax entry.vertex cost trail)
        (State.settle { state with agenda := rest } entry.vertex) = .ok next

/-- A state that a search from the seeds comes to. -/
def Network.Reached (network : Network α) (seeds : List (Nat × α)) (state : State α) : Prop :=
  ∃ start, seeds.zipIdx.foldlM State.sow (.unknown network.size) = .ok start ∧
    Relation.ReflTransGen (Round network) start state

/-- **What holds once the seeds are sown**, and what every round keeps, is true of every state that a
search comes to. -/
theorem Network.Reached.invariant {network : Network α} {seeds : List (Nat × α)} {P : State α → Prop}
    {state : State α} (reached : network.Reached seeds state)
    (sown : ∀ start, seeds.zipIdx.foldlM State.sow (.unknown network.size) = .ok start → P start)
    (step : ∀ before after, P before → Round network before after → P after) : P state := by
  obtain ⟨start, begun, rounds⟩ := reached
  induction rounds with
  | refl => exact sown start begun
  | tail _ round ih => exact step _ _ ih round

/-- **A search that finds a trail** went through rounds up to a state in which the goal comes up by
this trail. -/
theorem explore_found {network : Network α} {goal : Nat} {cancel : Option CancelFlag}
    {rounds : Nat} {state : State α} {trail : Trail}
    (found : explore network goal cancel rounds state = .ok (some trail)) :
    ∃ final entry rest cost, Relation.ReflTransGen (Round network) state final ∧
      final.Next entry rest cost trail ∧ entry.vertex = goal := by
  induction rounds generalizing state with
  | zero => cases found
  | succ rounds ih =>
    unfold explore at found
    cases agenda : state.agenda.dropWhile state.overtaken with
    | nil =>
      rw [agenda] at found
      cases found
    | cons entry rest =>
      rw [agenda] at found
      dsimp only at found
      cases best : state.marks[entry.vertex]?.bind (·.best) with
      | none =>
        rw [best] at found
        cases found
      | some reached =>
        obtain ⟨cost, way⟩ := reached
        rw [best] at found
        obtain ⟨_, _, found⟩ := bind_eq_ok.mp found
        by_cases here : entry.vertex = goal
        · rw [if_pos here] at found
          cases found
          exact ⟨state, entry, rest, cost, .refl, ⟨agenda, best⟩, here⟩
        · rw [if_neg here] at found
          obtain ⟨arcs, leaving, found⟩ := bind_eq_ok.mp found
          obtain ⟨next, offered, found⟩ := bind_eq_ok.mp found
          obtain ⟨final, last, after, least, rounds, up, goal⟩ := ih found
          have round : Round network state next :=
            ⟨entry, rest, cost, way, arcs, ⟨agenda, best⟩, leaving, offered⟩
          exact ⟨final, last, after, least, .head round rounds, up, goal⟩

theorem shortest_found {network : Network α} {seeds : List (Nat × α)} {goal : Nat}
    {cancel : Option CancelFlag} {trail : Trail}
    (found : shortest network seeds goal cancel = .ok (some trail)) :
    ∃ final entry rest cost, network.Reached seeds final ∧ final.Next entry rest cost trail ∧
      entry.vertex = goal := by
  obtain ⟨start, sown, explored⟩ := bind_eq_ok.mp found
  obtain ⟨final, entry, rest, cost, rounds, up, goal⟩ := explore_found explored
  exact ⟨final, entry, rest, cost, ⟨start, sown, rounds⟩, up, goal⟩

end FlightRoute.Search
