/-
**What a random walk has done.**

Whichever edges are chosen, a walk in progress has followed edges of the graph from its start, has been
at the nodes they lead to and nowhere else, and at each of them once (`Progress.Traces`). One more edge
keeps that, since only nodes that were not visited are offered; so a walk that gets to its end is a
simple path with no more edges than it had steps.

* `mem_choices`: what is offered is an edge to a node that was not visited;
* `Progress.Traces.take`: one more edge;
* `walkOn_traces`, `walk_traces`, `firstWalk_traces`: whole walks.
-/

import Mathlib.Data.List.Nodup
import FlightRoute.Proofs.Graph.Passage
import FlightRoute.RandomWalk.Basic

namespace FlightRoute.RandomWalk

variable {σ α : Type} [Distance α] {graph : Graph α} {progress final : Progress}
  {start target steps : Nat} {edges : List (Edge α)} {chooser : Chooser σ α} {finish : Waypoint}
  {cancel : Option CancelFlag} {draws left : σ}

omit [Distance α] in
/-- A walk in progress that has followed edges from a node and has been nowhere twice. -/
structure Progress.Traces (progress : Progress) (graph : Graph α) (start : Nat)
    (edges : List (Edge α)) : Prop where
  follows : graph.Follows start progress.hops.reverse edges progress.node
  visited : progress.visited.reverse = Graph.stops start edges
  nodup : progress.visited.Nodup

omit [Distance α] in
theorem traces_start (inside : start < graph.size) :
    (⟨start, [start], []⟩ : Progress).Traces graph start [] :=
  ⟨.stay inside, rfl, List.nodup_singleton start⟩

/-- **What is offered** is an edge of the node to a node that was not visited. -/
theorem mem_choices {offered : List (Choice α)} (found : choices graph progress finish = .ok offered)
    {choice : Choice α} (member : choice ∈ offered) :
    graph.edge ⟨progress.node, choice.label⟩ = .ok choice.edge ∧
      choice.edge.target ∉ progress.visited := by
  obtain ⟨leaving, leaves, found⟩ := bind_eq_ok.mp found
  obtain ⟨position, here⟩ := List.mem_iff_getElem?.mp member
  obtain ⟨⟨edge, label⟩, listed, made⟩ := (mapM_getElem? found).mp here
  obtain ⟨waypoint, _, made⟩ := bind_eq_ok.mp made
  cases made
  obtain ⟨inside, fresh⟩ := List.mem_filter.mp (List.mem_of_getElem? listed)
  refine ⟨Graph.edge_eq_ok.mpr ⟨leaving, Graph.edgesFrom_eq_ok.mp leaves, ?_⟩, ?_⟩
  · rw [← Array.getElem?_toList]
    exact List.mem_zipIdx_iff_getElem?.mp inside
  · simpa using fresh

omit [Distance α] in
/-- **One more edge**, to a node that was not visited. -/
theorem Progress.Traces.take (traces : progress.Traces graph start edges) {choice : Choice α}
    (found : graph.edge ⟨progress.node, choice.label⟩ = .ok choice.edge)
    (inside : choice.edge.target < graph.size)
    (fresh : choice.edge.target ∉ progress.visited) :
    (progress.take choice).Traces graph start (edges ++ [choice.edge]) where
  follows := by
    show graph.Follows start (⟨progress.node, choice.label⟩ :: progress.hops).reverse _ _
    rw [List.reverse_cons]
    exact traces.follows.snoc found inside
  visited := by
    show (choice.edge.target :: progress.visited).reverse = _
    rw [List.reverse_cons, traces.visited, Graph.stops_append]
    rfl
  nodup := List.nodup_cons.mpr ⟨fresh, traces.nodup⟩

/-- **A walk that gets to its end** has taken no more edges than it had steps. -/
theorem walkOn_traces (wellFormed : graph.WellFormed) (traces : progress.Traces graph start edges)
    (ran : walkOn chooser graph target finish cancel steps progress draws = .ok (some final, left)) :
    ∃ more, final.Traces graph start (edges ++ more) ∧ more.length ≤ steps ∧ final.node = target := by
  induction steps generalizing progress draws edges with
  | zero =>
    by_cases here : progress.node = target
    · simp only [walkOn, if_pos here, Except.ok.injEq, Prod.mk.injEq, Option.some.injEq] at ran
      obtain ⟨rfl, _⟩ := ran
      exact ⟨[], by simpa using traces, Nat.le_refl _, here⟩
    · simp [walkOn, if_neg here] at ran
  | succ steps ih =>
    unfold walkOn at ran
    obtain ⟨_, _, ran⟩ := bind_eq_ok.mp ran
    by_cases here : progress.node = target
    · simp only [if_pos here, pure_eq_ok, Except.ok.injEq, Prod.mk.injEq, Option.some.injEq] at ran
      obtain ⟨rfl, _⟩ := ran
      exact ⟨[], by simpa using traces, Nat.zero_le _, here⟩
    · rw [if_neg here] at ran
      obtain ⟨waypoint, _, ran⟩ := bind_eq_ok.mp ran
      obtain ⟨offered, found, ran⟩ := bind_eq_ok.mp ran
      cases offered with
      | nil => cases ran
      | cons first others =>
        have member := List.get_mem (first :: others)
          (chooser.pick (Distance.between waypoint finish) first others draws).1
        obtain ⟨along, fresh⟩ := mem_choices found member
        obtain ⟨more, whole, bound, ends⟩ :=
          ih (traces.take along (wellFormed.edge_lt along) fresh) ran
        rw [List.append_assoc] at whole
        exact ⟨_, whole, Nat.succ_le_succ bound, ends⟩

theorem walk_traces (wellFormed : graph.WellFormed) (inside : start < graph.size)
    (ran : walk chooser graph start target steps cancel draws = .ok (some final, left)) :
    ∃ edges, final.Traces graph start edges ∧ edges.length ≤ steps ∧ final.node = target := by
  obtain ⟨finish, _, ran⟩ := bind_eq_ok.mp ran
  obtain ⟨edges, traces, bound, ends⟩ := walkOn_traces wellFormed (traces_start inside) ran
  exact ⟨edges, traces, bound, ends⟩

/-- **The first walk that gets to its end** is a walk like every other. -/
theorem firstWalk_traces (wellFormed : graph.WellFormed) (inside : start < graph.size)
    {attempts : Nat}
    (ran : firstWalk chooser graph start target steps cancel attempts draws =
      .ok (some final, left)) :
    ∃ edges, final.Traces graph start edges ∧ edges.length ≤ steps ∧ final.node = target := by
  induction attempts generalizing draws with
  | zero => cases ran
  | succ attempts ih =>
    unfold firstWalk at ran
    obtain ⟨⟨walked, behind⟩, tried, ran⟩ := bind_eq_ok.mp ran
    cases walked with
    | some progress =>
      cases ran
      exact walk_traces wellFormed inside tried
    | none => exact ih ran

end FlightRoute.RandomWalk
