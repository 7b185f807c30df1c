/-
**The frontier of a search.**

On exact costs, none of them negative, a search settles its vertices in the order of their cost. The
invariant of a state (`Ordered`) says what its agenda is: sorted, with every open vertex on it at its
cost, and never below a settled vertex.

* `offer_ordered`: an offer above all settled vertices keeps that, and covers its vertex;
* `Ordered.least`: the vertex that comes up next is an open one of least cost;
* `Ordered.settle`: once it is settled, no settled vertex is above its cost.
-/

import Mathlib.Algebra.Order.Monoid.Defs
import FlightRoute.Proofs.Search.Agenda
import FlightRoute.Proofs.Search.Round

namespace FlightRoute.Search

variable {α : Type}

/-- A vertex is known to be within a cost. -/
def State.Covered [LE α] (state : State α) (vertex : Nat) (cost : α) : Prop :=
  ∃ known trail, state.best? vertex = some (known, trail) ∧ known ≤ cost

/-- All settled vertices are within a cost. -/
def State.SettledWithin [LE α] (state : State α) (cost : α) : Prop :=
  ∀ vertex, state.isSettled vertex = true → state.Covered vertex cost

/-- The agenda of a search that settles its vertices in order. -/
structure Ordered [LE α] (state : State α) : Prop where
  sorted : Sorted state.agenda
  queued : ∀ vertex cost trail, state.best? vertex = some (cost, trail) →
    state.isSettled vertex = false → ⟨cost, vertex⟩ ∈ state.agenda
  known : ∀ entry ∈ state.agenda, state.Covered entry.vertex entry.cost
  behind : ∀ entry ∈ state.agenda, state.SettledWithin entry.cost

/-- What the offers of a round do to a state: they leave the settled vertices alone, and no vertex
gets worse. -/
structure Onward [LE α] (state next : State α) : Prop where
  settled : ∀ vertex, next.isSettled vertex = state.isSettled vertex
  best : ∀ vertex, state.isSettled vertex = true → next.best? vertex = state.best? vertex
  covered : ∀ vertex cost, state.Covered vertex cost → next.Covered vertex cost

theorem Onward.refl [LE α] (state : State α) : Onward state state :=
  ⟨fun _ => rfl, fun _ _ => rfl, fun _ _ => id⟩

theorem Onward.trans [LE α] {first second third : State α} (here : Onward first second)
    (there : Onward second third) : Onward first third where
  settled vertex := (there.settled vertex).trans (here.settled vertex)
  best vertex known := by
    rw [there.best vertex ((here.settled vertex).trans known), here.best vertex known]
  covered vertex cost known := there.covered vertex cost (here.covered vertex cost known)

theorem Onward.settledWithin [LE α] {state next : State α} (onward : Onward state next) {cost : α}
    (within : state.SettledWithin cost) : next.SettledWithin cost := by
  intro vertex known
  rw [onward.settled] at known
  exact onward.covered vertex cost (within vertex known)

theorem State.Covered.mono [Preorder α] {state : State α} {vertex : Nat} {cost more : α}
    (covered : state.Covered vertex cost) (high : cost ≤ more) : state.Covered vertex more := by
  obtain ⟨known, trail, best, low⟩ := covered
  exact ⟨known, trail, best, low.trans high⟩

theorem State.SettledWithin.mono [Preorder α] {state : State α} {cost more : α}
    (within : state.SettledWithin cost) (high : cost ≤ more) : state.SettledWithin more :=
  fun vertex known => (within vertex known).mono high

variable [Distance α] [AddCommMonoid α] [LinearOrder α] [Distance.Exact α]
variable {state next : State α}

/-! ### Offers -/

theorem covered_of_not_improves {vertex : Nat} {cost : α}
    (worse : improves cost (state.best? vertex) = false) : state.Covered vertex cost := by
  cases best : state.best? vertex with
  | none =>
    rw [best, improves, Distance.bounded_eq] at worse
    cases worse
  | some known =>
    rw [best, improves, Distance.lt_eq, decide_eq_false_iff_not, not_lt] at worse
    exact ⟨known.1, known.2, best, worse⟩

theorem offer_onward {vertex : Nat} {cost : α} {trail : Trail}
    (offered : state.offer vertex cost trail = .ok next) : Onward state next := by
  rcases offer_cases offered with improved | ⟨rfl, _⟩
  · refine ⟨improved.settled, fun other known => ?_, fun other bound covered => ?_⟩
    · have different : other ≠ vertex := by
        rintro rfl
        rw [improved.fresh] at known
        cases known
      rw [improved.best, if_neg different]
    · obtain ⟨least, way, best, low⟩ := covered
      by_cases same : other = vertex
      · subst same
        have better := improved.better
        rw [best, improves, Distance.lt_eq, decide_eq_true_iff] at better
        exact ⟨cost, trail, by rw [improved.best, if_pos rfl], better.le.trans low⟩
      · exact ⟨least, way, by rw [improved.best, if_neg same, best], low⟩
  · exact .refl next

/-- After an offer above all settled vertices its vertex is within the cost of the offer. -/
theorem offer_covered {vertex : Nat} {cost : α} {trail : Trail} (within : state.SettledWithin cost)
    (offered : state.offer vertex cost trail = .ok next) : next.Covered vertex cost := by
  rcases offer_cases offered with improved | ⟨rfl, settled | worse⟩
  · exact ⟨cost, trail, by rw [improved.best, if_pos rfl], le_rfl⟩
  · exact within vertex settled
  · exact covered_of_not_improves worse

/-- **An offer above all settled vertices keeps the agenda in order.** -/
theorem offer_ordered {vertex : Nat} {cost : α} {trail : Trail} (ordered : Ordered state)
    (within : state.SettledWithin cost)
    (offered : state.offer vertex cost trail = .ok next) : Ordered next := by
  have onward : Onward state next := offer_onward offered
  have covered : next.Covered vertex cost := offer_covered within offered
  rcases offer_cases offered with improved | ⟨rfl, _⟩
  · have member : ∀ {entry}, entry ∈ next.agenda ↔ entry = ⟨cost, vertex⟩ ∨ entry ∈ state.agenda := by
      intro entry
      rw [improved.agenda, mem_enter]
    refine ⟨?_, fun other known way best fresh => ?_, fun entry inside => ?_, fun entry inside => ?_⟩
    · rw [improved.agenda]
      exact sorted_enter ordered.sorted
    · rw [member]
      rw [improved.best] at best
      split at best
      · rename_i same
        cases best
        exact Or.inl (by rw [same])
      · rw [onward.settled] at fresh
        exact Or.inr (ordered.queued other known way best fresh)
    · rcases member.mp inside with rfl | inside
      · exact covered
      · exact onward.covered _ _ (ordered.known entry inside)
    · rcases member.mp inside with rfl | inside
      · exact onward.settledWithin within
      · exact onward.settledWithin (ordered.behind entry inside)
  · exact ordered

/-! ### What comes up next -/

theorem of_not_overtaken {entry : Entry α} {cost : α} {trail : Trail}
    (alive : state.overtaken entry = false)
    (best : state.best? entry.vertex = some (cost, trail)) : entry.cost ≤ cost := by
  unfold State.overtaken at alive
  unfold State.best? at best
  cases found : state.marks[entry.vertex]? with
  | none => simp [found] at alive
  | some mark =>
    obtain ⟨known, settled⟩ := mark
    cases known with
    | none => simp [found] at alive
    | some known =>
      simp only [found, Bool.or_eq_false_iff, Distance.lt_eq, decide_eq_false_iff_not, not_lt] at alive
      simp only [found, Option.bind_some, Option.some.injEq] at best
      rw [best] at alive
      exact alive.2

theorem Ordered.waiting (ordered : Ordered state) {vertex : Nat} {cost : α} {trail : Trail}
    (best : state.best? vertex = some (cost, trail)) (fresh : state.isSettled vertex = false) :
    ⟨cost, vertex⟩ ∈ state.agenda.dropWhile state.overtaken :=
  still_waiting (ordered.queued vertex cost trail best fresh) best fresh

section Next

variable {entry : Entry α} {rest : List (Entry α)} {cost : α} {trail : Trail}

/-- It comes up at the cost at which it is known. -/
theorem Ordered.next_cost (ordered : Ordered state) (up : state.Next entry rest cost trail) :
    entry.cost = cost := by
  obtain ⟨known, way, best, low⟩ := ordered.known entry up.member
  rw [up.best] at best
  cases best
  exact le_antisymm (of_not_overtaken up.alive up.best) low

/-- **The vertex that comes up next is an open one of least cost.** -/
theorem Ordered.least (ordered : Ordered state) (up : state.Next entry rest cost trail)
    {vertex : Nat} {other : α} {way : Trail} (best : state.best? vertex = some (other, way))
    (fresh : state.isSettled vertex = false) : cost ≤ other := by
  have waiting := ordered.waiting best fresh
  rw [up.first] at waiting
  have sorted : Sorted (entry :: rest) := ordered.sorted.sublist up.suffix.sublist
  rw [← ordered.next_cost up]
  rcases List.mem_cons.mp waiting with same | later
  · rw [← same]
  · exact (List.pairwise_cons.mp sorted).1 _ later

/-- Settling the vertex that comes up next keeps the agenda in order, and all settled vertices are
then within its cost. -/
theorem Ordered.settle (ordered : Ordered state) (up : state.Next entry rest cost trail) :
    Ordered (State.settle { state with agenda := rest } entry.vertex) ∧
      (State.settle { state with agenda := rest } entry.vertex).SettledWithin cost := by
  have covered : ∀ {vertex bound}, state.Covered vertex bound →
      (State.settle { state with agenda := rest } entry.vertex).Covered vertex bound := by
    intro vertex bound known
    unfold State.Covered
    rw [best?_settle]
    exact known
  have within : (State.settle { state with agenda := rest } entry.vertex).SettledWithin cost := by
    intro vertex known
    rw [up.isSettled_settle, Bool.or_eq_true, decide_eq_true_iff] at known
    rcases known with rfl | known
    · exact covered ⟨cost, trail, up.best, le_rfl⟩
    · rw [← ordered.next_cost up]
      exact covered (ordered.behind entry up.member vertex known)
  have restSorted := List.pairwise_cons.mp (ordered.sorted.sublist up.suffix.sublist)
  have older : ∀ {other}, other ∈ rest → other ∈ state.agenda := fun inside =>
    up.suffix.subset (List.mem_cons_of_mem _ inside)
  refine ⟨⟨restSorted.2, fun vertex known way reached fresh => ?_, fun other inside => ?_,
    fun other inside => ?_⟩, within⟩
  · rw [best?_settle] at reached
    rw [up.isSettled_settle, Bool.or_eq_false_iff, decide_eq_false_iff_not] at fresh
    have waiting := ordered.waiting reached fresh.2
    rw [up.first] at waiting
    rcases List.mem_cons.mp waiting with same | later
    · exact absurd (congrArg Entry.vertex same) fresh.1
    · exact later
  · exact covered (ordered.known other (older inside))
  · refine within.mono ?_
    rw [← ordered.next_cost up]
    exact restSorted.1 other inside

end Next

end FlightRoute.Search
