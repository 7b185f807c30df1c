/-
**A search finds a trail when there is one.**

Whatever the costs are, a search over a network whose arcs lead to vertices of the network ends with a
trail to the goal as soon as one leads there. It takes two things of the costs only: none is less than
itself, and along a trail that passes no vertex twice they stay below infinity (`Network.Summable`).
No open vertex that is known is then lost from the agenda (`Waiting`), and no seed and no arc of a settled
vertex is left out (`Reaching`): once the agenda is used up, every vertex that a trail leads to is
settled. The goal never is, so the search has ended before that; and it has rounds enough.

* `offers_waiting`, `Reaching.advance`: a round succeeds and keeps this;
* `shortest_failsOnly`: a search fails only when it is called off;
* `shortest_complete`: a search that is not called off ends with a trail when one leads to the goal.
-/

import FlightRoute.Proofs.Failure
import FlightRoute.Proofs.Search.Agenda
import FlightRoute.Proofs.Search.Exhaustion
import FlightRoute.Proofs.Search.Simple
import FlightRoute.Proofs.Search.Trail

namespace FlightRoute.Search

variable {α : Type}

/-- Every vertex but the goal has arcs, and they lead to vertices of the network. -/
structure Network.Closed (network : Network α) (goal : Nat) : Prop where
  goal_lt : goal < network.size
  leaves : ∀ vertex < network.size, vertex ≠ goal →
    ∃ arcs, network.arcs vertex = .ok arcs ∧ ∀ arc ∈ arcs, arc.target < network.size

/-- The costs along a trail that passes no vertex twice stay below infinity. -/
def Network.Summable [Distance α] (network : Network α) (seeds : List (Nat × α)) : Prop :=
  ∀ trail vertex cost, network.Leads seeds trail vertex cost → (vertex :: trail.vertices).Nodup →
    Distance.bounded cost = true

/-- A way to the vertex is known. -/
def State.Knows (state : State α) (vertex : Nat) : Prop :=
  ∃ cost trail, state.best? vertex = some (cost, trail)

/-- Every known vertex is settled or on the agenda, and what is settled is known. -/
structure Waiting (state : State α) : Prop where
  queued : ∀ vertex cost trail, state.best? vertex = some (cost, trail) →
    state.isSettled vertex = false → ⟨cost, vertex⟩ ∈ state.agenda
  known : ∀ vertex, state.isSettled vertex = true → state.Knows vertex

/-- What offers do to a state: they settle no vertex and forget none. -/
structure Steady (state next : State α) : Prop where
  settled : ∀ vertex, next.isSettled vertex = state.isSettled vertex
  knows : ∀ vertex, state.Knows vertex → next.Knows vertex

theorem Steady.refl (state : State α) : Steady state state := ⟨fun _ => rfl, fun _ => id⟩

theorem Steady.trans {first second third : State α} (here : Steady first second)
    (there : Steady second third) : Steady first third where
  settled vertex := (there.settled vertex).trans (here.settled vertex)
  knows vertex known := there.knows vertex (here.knows vertex known)

variable [Distance α] {network : Network α} {seeds : List (Nat × α)} {goal vertex : Nat}
  {cancel : Option CancelFlag} {state next : State α} {entry : Entry α} {rest : List (Entry α)}
  {cost : α} {trail : Trail}

/-- What holds in every state of a search that has not come to the goal. -/
structure Reaching (network : Network α) (seeds : List (Nat × α)) (goal : Nat) (state : State α) :
    Prop where
  size : state.marks.size = network.size
  traced : Traced network seeds state
  threaded : Threaded state
  waiting : Waiting state
  relaxed : ∀ vertex arcs arc, state.isSettled vertex = true → network.arcs vertex = .ok arcs →
    arc ∈ arcs → state.Knows arc.target
  sown : ∀ seed ∈ seeds, state.Knows seed.1
  goal_open : state.isSettled goal = false

/-! ### Searches that do not fail -/

/-- An offer to a vertex of the network succeeds. -/
theorem offer_ok (inside : vertex < state.marks.size) :
    ∃ next, state.offer vertex cost trail = .ok next := by
  unfold State.offer
  rw [Array.getElem?_eq_getElem inside]
  dsimp only
  split <;> exact ⟨_, rfl⟩

theorem offer_inside {size : Nat} (inside : vertex < state.marks.size)
    (same : state.marks.size = size) :
    ∃ next, state.offer vertex cost trail = .ok next ∧ next.marks.size = size := by
  obtain ⟨next, offered⟩ := offer_ok inside
  exact ⟨next, offered, (offer_size offered).1.trans same⟩

/-- **A round succeeds** as long as it is not the goal that comes up. -/
theorem round_ok (closed : network.Closed goal) (size : state.marks.size = network.size)
    (up : state.Next entry rest cost trail) (before : entry.vertex ≠ goal) :
    ∃ arcs next, network.arcs entry.vertex = .ok arcs ∧
      arcs.foldlM (State.relax entry.vertex cost trail)
        (State.settle { state with agenda := rest } entry.vertex) = .ok next ∧
      next.marks.size = network.size := by
  have inside : entry.vertex < network.size := size ▸ State.lt_of_best? up.best
  obtain ⟨arcs, leaving, targets⟩ := closed.leaves entry.vertex inside before
  have start : (State.settle { state with agenda := rest } entry.vertex).marks.size =
      network.size := Array.size_modify.trans size
  obtain ⟨next, offered, same⟩ := foldlM_ok (P := fun s : State α => s.marks.size = network.size)
    (fun s arc member same => offer_inside (same ▸ targets arc member) same) start
  exact ⟨arcs, next, leaving, offered, same⟩

/-- **A search fails only when it is called off.** -/
theorem explore_failsOnly (closed : network.Closed goal) (size : state.marks.size = network.size)
    (rounds : Nat) : FailsOnly (CalledOff cancel) (explore network goal cancel rounds state) := by
  induction rounds generalizing state with
  | zero => exact .ok none
  | succ rounds ih =>
    rcases state.idle_or_next with idle | ⟨entry, rest, cost, trail, up⟩
    · exact .of_ok (explore_idle idle _)
    · rw [explore_next up]
      refine (checkCancel_failsOnly cancel).bind fun _ _ => ?_
      by_cases here : entry.vertex = goal
      · exact .of_ok (if_pos here)
      · obtain ⟨arcs, next, leaving, offered, same⟩ := round_ok closed size up here
        rw [if_neg here, leaving, ok_bind, offered, ok_bind]
        exact ih same

/-- The seeds are sown when they are vertices of the network. -/
theorem sown_ok (inside : ∀ seed ∈ seeds, seed.1 < network.size) :
    ∃ state, seeds.zipIdx.foldlM State.sow (.unknown network.size) = .ok state ∧
      state.marks.size = network.size := by
  have within : ∀ seed ∈ seeds.zipIdx, seed.1.1 < network.size := fun seed member =>
    inside seed.1 (List.fst_mem_of_mem_zipIdx member)
  exact foldlM_ok (fun s seed member same => offer_inside (same ▸ within seed member) same)
    Array.size_replicate

theorem shortest_failsOnly (closed : network.Closed goal)
    (inside : ∀ seed ∈ seeds, seed.1 < network.size) :
    FailsOnly (CalledOff cancel) (shortest network seeds goal cancel) := by
  obtain ⟨state, sown, size⟩ : ∃ state, seeds.zipIdx.foldlM State.sow (.unknown network.size) =
      .ok state ∧ state.marks.size = network.size := sown_ok inside
  rw [shortest, sown, ok_bind]
  exact explore_failsOnly closed size _

/-! ### Offers -/

theorem offer_steady (offered : state.offer vertex cost trail = .ok next) : Steady state next := by
  rcases offer_cases offered with improved | ⟨rfl, _⟩
  · refine ⟨improved.settled, fun other known => ?_⟩
    unfold State.Knows at known ⊢
    rw [improved.best]
    split
    · exact ⟨cost, trail, rfl⟩
    · exact known
  · exact .refl next

/-- **An offer loses no vertex**, and its vertex is known afterwards. -/
theorem offer_waiting (offered : state.offer vertex cost trail = .ok next) (waiting : Waiting state)
    (bounded : state.isSettled vertex = false → Distance.bounded cost = true) :
    Waiting next ∧ next.Knows vertex := by
  have steady : Steady state next := offer_steady offered
  rcases offer_cases offered with improved | ⟨rfl, rejected⟩
  · refine ⟨⟨fun other known way best fresh => ?_, fun other settled => ?_⟩, cost, trail, ?_⟩
    · rw [improved.agenda, mem_enter]
      rw [improved.best] at best
      split at best
      · rename_i same
        cases best
        exact Or.inl (by rw [same])
      · rw [improved.settled] at fresh
        exact Or.inr (waiting.queued other known way best fresh)
    · rw [improved.settled] at settled
      exact steady.knows other (waiting.known other settled)
    · rw [improved.best, if_pos rfl]
  · refine ⟨waiting, ?_⟩
    by_cases settled : next.isSettled vertex = true
    · exact waiting.known vertex settled
    · have worse := rejected.resolve_left settled
      unfold State.Knows
      cases best : next.best? vertex with
      | some known => exact ⟨known.1, known.2, rfl⟩
      | none =>
        -- What is not known takes every cost below infinity.
        rw [best, improves, bounded (Bool.not_eq_true _ ▸ settled)] at worse
        cases worse

/-- **Offers one after the other** lose no vertex, and the vertices of all of them are known afterwards. -/
theorem offers_waiting {β : Type} {items : List β} {target : β → Nat} {price : β → α}
    {way : β → Trail} {offer : State α → β → Except RouteError (State α)}
    (offers : ∀ s item, offer s item = s.offer (target item) (price item) (way item))
    (waiting : Waiting state)
    (bounded : ∀ item ∈ items, state.isSettled (target item) = false →
      Distance.bounded (price item) = true)
    (offered : items.foldlM offer state = .ok next) :
    Waiting next ∧ Steady state next ∧ ∀ item ∈ items, next.Knows (target item) := by
  rw [← and_assoc]
  refine foldlM_each (P := fun s => Waiting s ∧ Steady state s)
    (Q := fun item s => s.Knows (target item)) (fun before item after member holds made => ?_)
    (fun before item after other _ _ made known => ?_) offered ⟨waiting, .refl state⟩
  · rw [offers] at made
    obtain ⟨waits, steady⟩ := holds
    obtain ⟨kept, known⟩ := offer_waiting made waits fun fresh =>
      bounded item member ((steady.settled _).symm.trans fresh)
    exact ⟨⟨kept, steady.trans (offer_steady made)⟩, known⟩
  · rw [offers] at made
    exact (offer_steady made).knows _ known

/-! ### Rounds -/

variable [Distance.Irreflexive α]

/-- Settling the vertex that comes up next loses no vertex. -/
theorem Waiting.settle (waiting : Waiting state) (up : state.Next entry rest cost trail) :
    Waiting (State.settle { state with agenda := rest } entry.vertex) := by
  refine ⟨fun other known way reached fresh => ?_, fun other settled => ?_⟩
  · rw [best?_settle] at reached
    rw [up.isSettled_settle, Bool.or_eq_false_iff, decide_eq_false_iff_not] at fresh
    have there := still_waiting (waiting.queued other known way reached fresh.2) reached fresh.2
    rw [up.first] at there
    rcases List.mem_cons.mp there with same | later
    · exact absurd (congrArg Entry.vertex same) fresh.1
    · exact later
  · unfold State.Knows
    rw [best?_settle]
    rw [up.isSettled_settle, Bool.or_eq_true, decide_eq_true_iff] at settled
    rcases settled with rfl | settled
    · exact ⟨cost, trail, up.best⟩
    · exact waiting.known other settled

omit [Distance.Irreflexive α] in
/-- What an arc of the vertex that comes up next costs at an open vertex is below infinity. -/
theorem Reaching.bounded (summable : network.Summable seeds)
    (reaching : Reaching network seeds goal state) (up : state.Next entry rest cost trail)
    {arcs : List (Arc α)} (leaving : network.arcs entry.vertex = .ok arcs) {arc : Arc α}
    (member : arc ∈ arcs)
    (fresh : (State.settle { state with agenda := rest } entry.vertex).isSettled arc.target = false) :
    Distance.bounded (Distance.add cost arc.cost) = true := by
  have leads : network.Leads seeds trail entry.vertex cost := reaching.traced _ _ _ up.best
  refine summable _ _ _ (.arc leads leaving member) (List.nodup_cons.mpr ⟨fun passed => ?_, ?_⟩)
  · -- The vertices of the trail are all settled by now.
    have settled := (reaching.threaded.settle up).2 arc.target passed
    rw [fresh] at settled
    cases settled
  · exact reaching.threaded.nodup _ _ _ up.best

/-- **A round keeps the invariant** as long as it is not the goal that comes up. -/
theorem Reaching.advance (closed : network.Closed goal) (summable : network.Summable seeds)
    (reaching : Reaching network seeds goal state) (up : state.Next entry rest cost trail)
    (before : entry.vertex ≠ goal) :
    ∃ arcs next, network.arcs entry.vertex = .ok arcs ∧
      arcs.foldlM (State.relax entry.vertex cost trail)
        (State.settle { state with agenda := rest } entry.vertex) = .ok next ∧
      Reaching network seeds goal next := by
  obtain ⟨arcs, next, leaving, offered, size⟩ := round_ok closed reaching.size up before
  obtain ⟨waiting, steady, knows⟩ := offers_waiting (fun _ _ => rfl) (reaching.waiting.settle up)
    (fun arc member fresh => reaching.bounded summable up leaving member fresh) offered
  have round : Round network state next := ⟨entry, rest, cost, trail, arcs, up, leaving, offered⟩
  have kept : ∀ {vertex}, state.Knows vertex → next.Knows vertex := by
    intro vertex known
    refine steady.knows vertex ?_
    unfold State.Knows
    rw [best?_settle]
    exact known
  refine ⟨arcs, next, leaving, offered, size, round_traced reaching.traced round,
    round_threaded reaching.threaded round, waiting, fun vertex others arc settled leave member => ?_,
    fun seed member => kept (reaching.sown seed member), ?_⟩
  · rw [steady.settled, up.isSettled_settle, Bool.or_eq_true, decide_eq_true_iff] at settled
    rcases settled with rfl | settled
    · rw [leaving] at leave
      cases leave
      exact knows arc member
    · exact kept (reaching.relaxed vertex others arc settled leave member)
  · rw [steady.settled, up.isSettled_settle, reaching.goal_open, decide_eq_false (Ne.symm before),
      Bool.or_false]

/-- Once the agenda is used up, every vertex that a trail leads to is settled. -/
theorem Reaching.settled_of_idle (reaching : Reaching network seeds goal state)
    (idle : state.agenda.dropWhile state.overtaken = [])
    (leads : network.Leads seeds trail vertex cost) : state.isSettled vertex = true := by
  have settled : ∀ {vertex}, state.Knows vertex → state.isSettled vertex = true := by
    rintro vertex ⟨known, way, best⟩
    by_contra fresh
    rw [Bool.not_eq_true] at fresh
    have there := still_waiting (reaching.waiting.queued vertex known way best fresh) best fresh
    rw [idle] at there
    exact List.not_mem_nil there
  induction leads with
  | seed place => exact settled (reaching.sown _ (List.mem_of_getElem? place))
  | arc _ leaving member ih => exact settled (reaching.relaxed _ _ _ ih leaving member)

/-- **A search with rounds enough ends with a trail** when one leads to the goal. -/
theorem explore_complete (closed : network.Closed goal) (summable : network.Summable seeds)
    (calm : checkCancel cancel = .ok ()) (leads : network.Leads seeds trail goal cost) {rounds : Nat}
    (reaching : Reaching network seeds goal state) (enough : state.openVertices.card ≤ rounds) :
    ∃ found, explore network goal cancel rounds state = .ok (some found) := by
  induction rounds generalizing state with
  | zero =>
    have inside : goal ∈ state.openVertices :=
      State.mem_openVertices.mpr ⟨reaching.size ▸ closed.goal_lt, reaching.goal_open⟩
    have inhabited := Finset.card_pos.mpr ⟨goal, inside⟩
    omega
  | succ rounds ih =>
    rcases state.idle_or_next with idle | ⟨entry, rest, cost, way, up⟩
    · have settled := reaching.settled_of_idle idle leads
      rw [reaching.goal_open] at settled
      cases settled
    · rw [explore_next up, calm, ok_bind]
      by_cases here : entry.vertex = goal
      · exact ⟨way, if_pos here⟩
      · obtain ⟨arcs, next, leaving, offered, further⟩ := reaching.advance closed summable up here
        have fewer := relax_card up offered
        rw [if_neg here, leaving, ok_bind, offered, ok_bind]
        exact ih further (by omega)

omit [Distance.Irreflexive α] in
/-- The search begins with all seeds known. -/
theorem sown_reaching (summable : network.Summable seeds)
    (sown : seeds.zipIdx.foldlM State.sow (.unknown network.size) = .ok state)
    (size : state.marks.size = network.size) : Reaching network seeds goal state := by
  have place : ∀ {seed}, seed ∈ seeds.zipIdx → seeds[seed.2]? = some seed.1 :=
    List.mem_zipIdx_iff_getElem?.mp
  have bounded : ∀ seed ∈ seeds.zipIdx, Distance.bounded seed.1.2 = true := fun seed member =>
    summable _ _ _ (.seed (place member)) (List.nodup_singleton _)
  have start : Waiting (State.unknown network.size : State α) := ⟨by simp, by simp⟩
  obtain ⟨waiting, steady, knows⟩ := offers_waiting (fun _ _ => rfl) start
    (fun seed member _ => bounded seed member) sown
  have fresh : ∀ vertex, state.isSettled vertex = false := fun vertex =>
    (steady.settled vertex).trans (isSettled_unknown _ vertex)
  refine ⟨size, sown_traced sown, sown_threaded sown, waiting, fun vertex arcs arc settled => ?_,
    fun seed member => ?_, fresh goal⟩
  · rw [fresh] at settled
    cases settled
  · obtain ⟨index, bound, rfl⟩ := List.mem_iff_getElem.mp member
    exact knows (seeds[index], index) (List.mk_mem_zipIdx_iff_getElem?.mpr (by simp))

/-- **The search ends with a trail to the goal when one leads there.** -/
theorem shortest_complete (closed : network.Closed goal) (summable : network.Summable seeds)
    (inside : ∀ seed ∈ seeds, seed.1 < network.size) (calm : checkCancel cancel = .ok ())
    (leads : network.Leads seeds trail goal cost) :
    ∃ found, shortest network seeds goal cancel = .ok (some found) := by
  obtain ⟨state, sown, size⟩ : ∃ state, seeds.zipIdx.foldlM State.sow (.unknown network.size) =
      .ok state ∧ state.marks.size = network.size := sown_ok inside
  have reaching : Reaching network seeds goal state := sown_reaching summable sown size
  have enough : state.openVertices.card ≤ network.size := size ▸ state.openVertices_card_le
  rw [shortest, sown, ok_bind]
  exact explore_complete closed summable calm leads reaching enough

end FlightRoute.Search
