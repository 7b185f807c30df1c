/-
**A search in a wider network.**

A network may have more vertices in front of its goal, which carries a later number then, while no other
arc is touched (`Network.Widened`). A search there goes round by round as before: its states are those of
the other search with the goal renumbered (`Mirrors`), since the goal stays behind all vertices that are
reached, and its additional rounds are not needed.

* `offer_mirrors`, `relax_mirrors`: what an offer and a round do in both;
* `explore_widened`, `shortest_widened`: both searches end the same way.
-/

import FlightRoute.Proofs.Search.Complete

namespace FlightRoute.Search

variable {α : Type}

/-- The number of a vertex when there are more vertices in front of the goal. -/
def renumber (goal more vertex : Nat) : Nat := if vertex < goal then vertex else vertex + more

theorem renumber_of_lt {goal more vertex : Nat} (before : vertex < goal) :
    renumber goal more vertex = vertex := if_pos before

theorem renumber_goal (goal more : Nat) : renumber goal more goal = goal + more :=
  if_neg (Nat.lt_irrefl goal)

theorem renumber_lt_iff {goal more a b : Nat} :
    renumber goal more a < renumber goal more b ↔ a < b := by
  unfold renumber
  split <;> split <;> omega

theorem renumber_inj {goal more a b : Nat} : renumber goal more a = renumber goal more b ↔ a = b := by
  unfold renumber
  split <;> split <;> omega

theorem compare_renumber (goal more a b : Nat) :
    compare (renumber goal more a) (renumber goal more b) = compare a b := by
  rcases Nat.lt_trichotomy a b with less | same | greater
  · rw [Nat.compare_eq_lt.mpr less, Nat.compare_eq_lt.mpr (renumber_lt_iff.mpr less)]
  · rw [Nat.compare_eq_eq.mpr same, Nat.compare_eq_eq.mpr (renumber_inj.mpr same)]
  · rw [Nat.compare_eq_gt.mpr greater, Nat.compare_eq_gt.mpr (renumber_lt_iff.mpr greater)]

/-- The arc in the wider network. -/
def Arc.renumber (goal more : Nat) (arc : Arc α) : Arc α :=
  { arc with target := Search.renumber goal more arc.target }

/-- The entry in the wider network. -/
def Entry.renumber (goal more : Nat) (entry : Entry α) : Entry α :=
  { entry with vertex := Search.renumber goal more entry.vertex }

@[simp]
theorem Entry.renumber_vertex (goal more : Nat) (entry : Entry α) :
    (entry.renumber goal more).vertex = Search.renumber goal more entry.vertex := rfl

/-- The wide network is the other one with more vertices in front of its goal. -/
structure Network.Widened (wide network : Network α) (goal more : Nat) : Prop where
  last : network.size = goal + 1
  size : wide.size = network.size + more
  arcs : ∀ vertex < goal,
    wide.arcs vertex = (network.arcs vertex).map (List.map (Arc.renumber goal more))

/-- The state of the wide search is that of the other one with the goal renumbered. -/
structure Mirrors (goal more : Nat) (mirror state : State α) : Prop where
  marks : ∀ vertex, mirror.marks[renumber goal more vertex]? = state.marks[vertex]?
  agenda : mirror.agenda = state.agenda.map (Entry.renumber goal more)

variable [Distance α] {network wide : Network α} {goal more : Nat} {state mirror : State α}
  {vertex : Nat} {cost : α} {trail : Trail} {cancel : Option CancelFlag}

/-! ### Offers -/

theorem before_renumber (a b : Entry α) :
    (a.renumber goal more).before (b.renumber goal more) = a.before b := by
  unfold Entry.before
  rw [← compare_renumber goal more a.vertex b.vertex]
  rfl

theorem enter_renumber (entry : Entry α) (agenda : List (Entry α)) :
    enter (entry.renumber goal more) (agenda.map (Entry.renumber goal more)) =
      (enter entry agenda).map (Entry.renumber goal more) := by
  induction agenda with
  | nil => rfl
  | cons first rest ih =>
    rw [List.map_cons, enter, enter, before_renumber, ih]
    split <;> rfl

/-- **An offer** is taken in both searches or in none. -/
theorem offer_mirrors (mirrors : Mirrors goal more mirror state) (inside : vertex < state.marks.size) :
    ∃ next image, state.offer vertex cost trail = .ok next ∧
      mirror.offer (renumber goal more vertex) cost trail = .ok image ∧
      Mirrors goal more image next := by
  have here := Array.getElem?_eq_getElem inside
  unfold State.offer
  rw [mirrors.marks, here]
  dsimp only
  split
  · refine ⟨_, _, rfl, rfl, fun other => ?_, ?_⟩
    · have reached : renumber goal more vertex < mirror.marks.size := by
        have there := mirrors.marks vertex
        rw [here] at there
        exact (Array.getElem?_eq_some_iff.mp there).1
      rw [Array.getElem?_setIfInBounds, Array.getElem?_setIfInBounds, mirrors.marks]
      simp only [renumber_inj, reached, inside]
    · show enter (Entry.renumber goal more ⟨cost, vertex⟩) mirror.agenda = _
      rw [mirrors.agenda, enter_renumber]
  · exact ⟨state, mirror, rfl, rfl, mirrors⟩

/-- **The arcs of a vertex** are taken in both searches. -/
theorem relax_mirrors {arcs : List (Arc α)} (mirrors : Mirrors goal more mirror state)
    (inside : ∀ arc ∈ arcs, arc.target < state.marks.size) :
    ∃ next image, arcs.foldlM (State.relax vertex cost trail) state = .ok next ∧
      (arcs.map (Arc.renumber goal more)).foldlM (State.relax vertex cost trail) mirror = .ok image ∧
      Mirrors goal more image next ∧ next.marks.size = state.marks.size := by
  rw [List.foldlM_map]
  refine foldlM_both (P := fun s m => Mirrors goal more m s ∧ s.marks.size = state.marks.size)
    (fun s m arc member holds => ?_) ⟨mirrors, rfl⟩
  obtain ⟨mirrors, size⟩ := holds
  obtain ⟨next, image, taken, also, further⟩ : ∃ next image,
      State.relax vertex cost trail s arc = .ok next ∧
        State.relax vertex cost trail m (arc.renumber goal more) = .ok image ∧
        Mirrors goal more image next :=
    offer_mirrors mirrors (size ▸ inside arc member)
  exact ⟨next, image, taken, also, further, (offer_size taken).1.trans size⟩

/-! ### Rounds -/

theorem overtaken_mirrors (mirrors : Mirrors goal more mirror state) (entry : Entry α) :
    mirror.overtaken (entry.renumber goal more) = state.overtaken entry := by
  unfold State.overtaken
  rw [Entry.renumber_vertex, mirrors.marks]
  rfl

/-- What comes up next in one search comes up next in the other. -/
theorem dropWhile_mirrors (mirrors : Mirrors goal more mirror state) :
    mirror.agenda.dropWhile mirror.overtaken =
      (state.agenda.dropWhile state.overtaken).map (Entry.renumber goal more) := by
  have same : mirror.overtaken ∘ Entry.renumber goal more = state.overtaken :=
    funext (overtaken_mirrors mirrors)
  rw [mirrors.agenda, List.dropWhile_map, same]

omit [Distance α] in
theorem settle_mirrors (mirrors : Mirrors goal more mirror state) (rest : List (Entry α))
    (vertex : Nat) :
    Mirrors goal more
      (State.settle { mirror with agenda := rest.map (Entry.renumber goal more) }
        (renumber goal more vertex))
      (State.settle { state with agenda := rest } vertex) where
  marks other := by
    unfold State.settle
    rw [Array.getElem?_modify, Array.getElem?_modify, mirrors.marks]
    simp only [renumber_inj]
  agenda := rfl

/-- **Round by round** both searches do the same. -/
theorem explore_widened (widened : wide.Widened network goal more) (closed : network.Closed goal)
    (mirrors : Mirrors goal more mirror state) (size : state.marks.size = network.size)
    (rounds : Nat) :
    explore wide (goal + more) cancel rounds mirror = explore network goal cancel rounds state := by
  induction rounds generalizing state mirror with
  | zero => rfl
  | succ rounds ih =>
    have ahead := dropWhile_mirrors mirrors
    rcases state.idle_or_next with idle | ⟨entry, rest, cost, trail, up⟩
    · rw [idle] at ahead
      rw [explore_idle idle, explore_idle ahead]
    · rw [up.first] at ahead
      have also : mirror.Next (entry.renumber goal more) (rest.map (Entry.renumber goal more)) cost
          trail := by
        refine ⟨ahead, ?_⟩
        rw [State.best?, Entry.renumber_vertex, mirrors.marks]
        exact up.best
      rw [explore_next up, explore_next also, Entry.renumber_vertex]
      refine bind_congr fun _ => ?_
      by_cases here : entry.vertex = goal
      · rw [if_pos here, if_pos (here ▸ renumber_goal goal more)]
      · have inside : entry.vertex < network.size := size ▸ State.lt_of_best? up.best
        have last := widened.last
        have before : entry.vertex < goal := by omega
        obtain ⟨arcs, leaving, targets⟩ := closed.leaves entry.vertex inside here
        have settled := settle_mirrors mirrors rest entry.vertex
        have kept : (State.settle { state with agenda := rest } entry.vertex).marks.size =
            network.size := Array.size_modify.trans size
        rw [renumber_of_lt before] at settled ⊢
        rw [if_neg here, if_neg (by omega), widened.arcs entry.vertex before, leaving]
        obtain ⟨next, image, taken, ran, further, same⟩ : ∃ next image,
            arcs.foldlM (State.relax entry.vertex cost trail)
              (State.settle { state with agenda := rest } entry.vertex) = .ok next ∧
            (arcs.map (Arc.renumber goal more)).foldlM (State.relax entry.vertex cost trail)
              (State.settle { mirror with agenda := rest.map (Entry.renumber goal more) }
                entry.vertex) = .ok image ∧
            Mirrors goal more image next ∧ next.marks.size = _ :=
          relax_mirrors settled fun arc member => kept ▸ targets arc member
        show (Except.ok (arcs.map (Arc.renumber goal more)) >>= _) = _
        rw [ok_bind, ok_bind, taken, ran, ok_bind, ok_bind]
        exact ih further (same.trans kept)

/-- The seeds are sown in both searches. -/
theorem sow_mirrors {seeds : List ((Nat × α) × Nat)} (mirrors : Mirrors goal more mirror state)
    (inside : ∀ seed ∈ seeds, seed.1.1 < goal ∧ seed.1.1 < state.marks.size) :
    ∃ next image, seeds.foldlM State.sow state = .ok next ∧
      seeds.foldlM State.sow mirror = .ok image ∧
      Mirrors goal more image next ∧ next.marks.size = state.marks.size := by
  refine foldlM_both (P := fun s m => Mirrors goal more m s ∧ s.marks.size = state.marks.size)
    (fun s m seed member holds => ?_) ⟨mirrors, rfl⟩
  obtain ⟨mirrors, size⟩ := holds
  obtain ⟨before, within⟩ := inside seed member
  have both : ∃ next image, s.sow seed = .ok next ∧
      m.offer (renumber goal more seed.1.1) seed.1.2 ⟨seed.2, seed.1.1, []⟩ = .ok image ∧
      Mirrors goal more image next := offer_mirrors mirrors (size ▸ within)
  rw [renumber_of_lt before] at both
  obtain ⟨next, image, taken, also, further⟩ := both
  exact ⟨next, image, taken, also, further, (offer_size taken).1.trans size⟩

omit [Distance α] in
theorem unknown_mirrors (goal more : Nat) :
    Mirrors goal more (State.unknown (goal + 1 + more)) (State.unknown (goal + 1) : State α) where
  marks vertex := by
    have within : renumber goal more vertex < goal + 1 + more ↔ vertex < goal + 1 := by
      unfold renumber
      split <;> omega
    unfold State.unknown
    rw [Array.getElem?_replicate, Array.getElem?_replicate]
    simp only [within]
  agenda := rfl

/-- **A search in a wider network** ends the same way. -/
theorem shortest_widened (widened : wide.Widened network goal more) (closed : network.Closed goal)
    {seeds : List (Nat × α)} (inside : ∀ seed ∈ seeds, seed.1 < goal) :
    shortest wide seeds (goal + more) cancel = shortest network seeds goal cancel := by
  have last := widened.last
  have within : ∀ seed ∈ seeds.zipIdx,
      seed.1.1 < goal ∧ seed.1.1 < (State.unknown (goal + 1) : State α).marks.size := by
    intro seed member
    have before := inside seed.1 (List.fst_mem_of_mem_zipIdx member)
    exact ⟨before, by rw [State.unknown, Array.size_replicate]; omega⟩
  obtain ⟨state, mirror, sown, also, mirrors, size⟩ := sow_mirrors (unknown_mirrors goal more) within
  have same : state.marks.size = network.size := by
    rw [size, last]
    exact Array.size_replicate
  have enough : state.openVertices.card ≤ network.size := same ▸ state.openVertices_card_le
  rw [shortest, shortest, widened.size, last, sown, also, ok_bind, ok_bind, ← last]
  rw [explore_widened widened closed mirrors same, explore_stable enough]

end FlightRoute.Search
