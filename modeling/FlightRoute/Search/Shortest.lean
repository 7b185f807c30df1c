/-
**Shortest trails in a network.**

A network has numbered vertices and, for each of them, arcs with costs. `shortest` looks for the
cheapest trail from any of several seeds, each with a cost of its own, to a goal: in every round the
open vertex of least cost is settled, and its arcs are offered to the vertices that are still open. A
network of `n` vertices needs no more than `n` rounds.

* `State.offer`: a vertex is reached at a cost;
* `explore`: round after round up to the goal;
* `shortest`: the trail to the goal.
-/

import FlightRoute.Cancel
import FlightRoute.Search.Agenda

namespace FlightRoute.Search

/-- A way from a vertex to another. -/
structure Arc (α : Type) where
  /-- Its number among the arcs of its vertex. -/
  label : Nat
  target : Nat
  cost : α

/-- Vertices below `size` with their arcs. -/
structure Network (α : Type) where
  size : Nat
  /-- The arcs that leave a vertex. -/
  arcs : Nat → Except RouteError (List (Arc α))

/-- An arc of a trail: the vertex it leaves and its number there. -/
structure Hop where
  vertex : Nat
  label : Nat
  deriving DecidableEq

/-- A way from a seed to a vertex. -/
structure Trail where
  seed : Nat
  /-- The vertex of the seed. -/
  start : Nat
  /-- The arcs, the latest first. -/
  hops : List Hop

/-- What is known of a vertex. -/
structure Mark (α : Type) where
  /-- The least cost at which it was reached, and how. -/
  best : Option (α × Trail)
  /-- Whether that is final. -/
  settled : Bool

/-- A search in progress. -/
structure State (α : Type) where
  marks : Array (Mark α)
  agenda : List (Entry α)

variable {α : Type} [Distance α]

/-- Whether a cost is less than what is known. -/
def improves (cost : α) : Option (α × Trail) → Bool
  | none => Distance.bounded cost
  | some (known, _) => Distance.lt cost known

/-- A vertex is reached by a trail. That counts while the vertex is open and the cost is less than
before. -/
def State.offer (state : State α) (vertex : Nat) (cost : α) (trail : Trail) :
    Except RouteError (State α) :=
  match state.marks[vertex]? with
  | none => .error (.outOfRange vertex)
  | some mark =>
    if !mark.settled && improves cost mark.best then
      .ok {
        marks := state.marks.setIfInBounds vertex ⟨some (cost, trail), false⟩
        agenda := enter ⟨cost, vertex⟩ state.agenda }
    else .ok state

/-- Offers an arc of a settled vertex. -/
def State.relax (vertex : Nat) (cost : α) (trail : Trail) (state : State α) (arc : Arc α) :
    Except RouteError (State α) :=
  state.offer arc.target (Distance.add cost arc.cost)
    { trail with hops := ⟨vertex, arc.label⟩ :: trail.hops }

/-- Whether an entry has been overtaken. -/
def State.overtaken (state : State α) (entry : Entry α) : Bool :=
  match state.marks[entry.vertex]? with
  | some ⟨some (cost, _), settled⟩ => settled || Distance.lt cost entry.cost
  | _ => true

omit [Distance α] in
/-- The vertex is settled. -/
def State.settle (state : State α) (vertex : Nat) : State α :=
  { state with marks := state.marks.modify vertex fun mark => { mark with settled := true } }

/-- Settles up to `rounds` vertices on the way to the goal. The flag is looked at once for each. -/
def explore (network : Network α) (goal : Nat) (cancel : Option CancelFlag) :
    Nat → State α → Except RouteError (Option Trail)
  | 0, _ => .ok none
  | rounds + 1, state =>
    match state.agenda.dropWhile state.overtaken with
    | [] => .ok none
    | entry :: agenda =>
      match state.marks[entry.vertex]?.bind (·.best) with
      | none => .ok none
      | some (cost, trail) => do
        checkCancel cancel
        if entry.vertex = goal then return some trail
        let arcs ← network.arcs entry.vertex
        let settled := { state with agenda }.settle entry.vertex
        let next ← arcs.foldlM (State.relax entry.vertex cost trail) settled
        explore network goal cancel rounds next

/-- The state in which nothing is known. -/
def State.unknown (size : Nat) : State α := ⟨Array.replicate size ⟨none, false⟩, []⟩

/-- Offers a seed. -/
def State.sow (state : State α) (seed : (Nat × α) × Nat) : Except RouteError (State α) :=
  state.offer seed.1.1 seed.1.2 ⟨seed.2, seed.1.1, []⟩

/-- The cheapest trail from one of the seeds, each a vertex with a cost, to the goal. -/
def shortest (network : Network α) (seeds : List (Nat × α)) (goal : Nat)
    (cancel : Option CancelFlag) : Except RouteError (Option Trail) := do
  let state ← seeds.zipIdx.foldlM State.sow (.unknown network.size)
  explore network goal cancel network.size state

end FlightRoute.Search
