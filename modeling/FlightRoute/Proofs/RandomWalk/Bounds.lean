/-
**Random walks keep to the nodes of the graph.**

A walk notes where it has been, by the numbers of the nodes. Whatever is picked, it has been offered, and what
is offered leads to a node; so a walk never leaves the nodes, and it is offered something, or nothing, at each
of them (`Progress.Reached`).

* `Progress.Reached.lt`: where a walk is and has been are nodes;
* `source_failsFor`: why a random route may fail.
-/

import FlightRoute.Proofs.RandomWalk.Decision

namespace FlightRoute

variable {σ α : Type} [Distance α] {graph : Graph α}

/-- A source of routes that fails, on a well-formed graph, for certain reasons. -/
def RandomSource.FailsFor (random : RandomSource σ α) (reason : RouteError → Prop) : Prop :=
  ∀ graph settings cancel start finish draws, graph.WellFormed →
    FailsOnly reason (random graph settings cancel start finish draws).1

/-- A source of routes that fails, on a well-formed graph, for what was asked. -/
def RandomSource.Orderly (random : RandomSource σ α) : Prop :=
  ∀ graph settings cancel start finish draws, graph.WellFormed →
    FailsOnly FlightRoute.Orderly (random graph settings cancel start finish draws).1

namespace RandomWalk

variable {start : Nat} {finish : Waypoint} {progress : Progress}

/-- A walk in progress from a node, each of whose edges was offered to it. -/
inductive Progress.Reached (graph : Graph α) (start : Nat) (finish : Waypoint) : Progress → Prop
  | start : Reached graph start finish ⟨start, [start], []⟩
  | take {progress : Progress} {offered : List (Choice α)} {choice : Choice α} :
      Reached graph start finish progress → choices graph progress finish = .ok offered →
      choice ∈ offered → Reached graph start finish (progress.take choice)

/-- **Where a walk is** and where it has been are nodes. -/
theorem Progress.Reached.lt (wellFormed : graph.WellFormed) (inside : start < graph.size)
    (reached : progress.Reached graph start finish) :
    progress.node < graph.size ∧ ∀ node ∈ progress.visited, node < graph.size := by
  induction reached with
  | start => exact ⟨inside, by simpa using inside⟩
  | take _ found member ih =>
    have ahead := wellFormed.edge_lt (mem_choices found member).1
    exact ⟨ahead, List.forall_mem_cons.mpr ⟨ahead, ih.2⟩⟩

/-- **A walk as a source of routes** fails only for want of a path, or when it is called off. -/
theorem source_failsFor {reason : RouteError → Prop} (tolerant : Tolerant reason)
    (chooser : SearchSettings → Chooser σ α) : (source chooser).FailsFor reason := by
  intro graph settings cancel start finish draws wellFormed
  have only : FailsOnly _ (find (chooser settings) graph settings cancel start finish draws) :=
    find_failsOnly wellFormed
  unfold source
  split
  · exact .ok _
  · rename_i failure failed
    rcases only failure failed with ⟨left, right, rfl⟩ | off
    · exact .error (tolerant.noPath left right)
    · exact .error (off.tolerated tolerant)

theorem source_orderly (chooser : SearchSettings → Chooser σ α) : (source chooser).Orderly :=
  source_failsFor lenient_orderly.toTolerant chooser

end RandomWalk

end FlightRoute
