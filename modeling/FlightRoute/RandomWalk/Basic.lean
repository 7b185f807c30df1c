/-
**Random routes.**

A random walk leaves a node by any edge to a node it has not visited, until it comes to its end, has
nowhere to go or has taken too many steps. Walks are tried a number of times; when none of them gets
there the shortest route is taken. Which edge is taken is up to a `Chooser`, which may draw on a state.

* `walk`: one walk;
* `find`: a random route between two waypoints;
* `RandomSource`: anything that produces routes between waypoints.
-/

import FlightRoute.Settings
import FlightRoute.ShortestRoute

namespace FlightRoute

/-- Something that produces a route between two waypoints; it begins exactly at the first and ends
exactly at the second. It may change a state from call to call. -/
def RandomSource (σ α : Type) : Type :=
  Graph α → SearchSettings → Option CancelFlag → Waypoint → Waypoint → σ →
    Except RouteError (Route α) × σ

namespace RandomWalk

open Search (Hop)

/-- An edge that a walk may take. -/
structure Choice (α : Type) where
  /-- The number of the edge at its node. -/
  label : Nat
  edge : Edge α
  /-- How far its end is from the end of the walk. -/
  ahead : α

/-- Picks one of the edges that a walk may take, from a node at the distance `here` of its end. -/
structure Chooser (σ α : Type) where
  /-- The position of the edge, and the state behind the draw. -/
  pick : (here : α) → (first : Choice α) → (others : List (Choice α)) → σ →
    Fin (others.length + 1) × σ

/-- A walk in progress. -/
structure Progress where
  node : Nat
  /-- Where it has been, the latest first. -/
  visited : List Nat
  /-- The edges it took, the latest first. -/
  hops : List Hop

variable {σ α : Type} [Distance α]

omit [Distance α] in
/-- The walk with one more edge. -/
def Progress.take (progress : Progress) (choice : Choice α) : Progress where
  node := choice.edge.target
  visited := choice.edge.target :: progress.visited
  hops := ⟨progress.node, choice.label⟩ :: progress.hops

/-- The edges to nodes that the walk has not visited, in order. -/
def choices (graph : Graph α) (progress : Progress) (finish : Waypoint) :
    Except RouteError (List (Choice α)) := do
  let edges ← graph.edgesFrom progress.node
  let fresh := edges.toList.zipIdx.filter fun edge => !progress.visited.contains edge.1.target
  fresh.mapM fun (edge, label) => do
    let waypoint ← graph.waypoint edge.target
    return { label, edge, ahead := Distance.between waypoint finish }

/-- Walks up to `steps` edges further on the way to a node; none when the walk does not get there. -/
def walkOn (chooser : Chooser σ α) (graph : Graph α) (target : Nat) (finish : Waypoint)
    (cancel : Option CancelFlag) :
    Nat → Progress → σ → Except RouteError (Option Progress × σ)
  | 0, progress, draws =>
    .ok (if progress.node = target then some progress else none, draws)
  | steps + 1, progress, draws => do
    checkCancel cancel
    if progress.node = target then return (some progress, draws)
    let waypoint ← graph.waypoint progress.node
    let here := Distance.between waypoint finish
    match ← choices graph progress finish with
    | [] => return (none, draws)
    | first :: others =>
      let (position, draws) := chooser.pick here first others draws
      walkOn chooser graph target finish cancel steps
        (progress.take ((first :: others).get position)) draws

/-- One walk between two nodes. -/
def walk (chooser : Chooser σ α) (graph : Graph α) (start target : Nat) (steps : Nat)
    (cancel : Option CancelFlag) (draws : σ) : Except RouteError (Option Progress × σ) := do
  let finish ← graph.waypoint target
  walkOn chooser graph target finish cancel steps ⟨start, [start], []⟩ draws

/-- The first of up to `attempts` walks that gets to its end. -/
def firstWalk (chooser : Chooser σ α) (graph : Graph α) (start target : Nat) (steps : Nat)
    (cancel : Option CancelFlag) : Nat → σ → Except RouteError (Option Progress × σ)
  | 0, draws => .ok (none, draws)
  | attempts + 1, draws => do
    match ← walk chooser graph start target steps cancel draws with
    | (some progress, draws) => return (some progress, draws)
    | (none, draws) => firstWalk chooser graph start target steps cancel attempts draws

/-- The node that stands for a waypoint: its own, or the nearest one. -/
def snap? (graph : Graph α) (waypoint : Waypoint) : Option Nat :=
  (graph.byWaypoint? waypoint).or (graph.nearest waypoint 1).head?

omit [Distance α] in
/-- The nodes with another waypoint at the end. -/
def withLast (waypoint : Waypoint) : List (RouteNode α) → List (RouteNode α)
  | [] => []
  | [last] => [{ last with waypoint }]
  | node :: next :: rest => node :: withLast waypoint (next :: rest)

/-- The route between exactly these waypoints: those at its ends are replaced. A route of one node
becomes a direct leg. -/
def between (start finish : Waypoint) (route : Route α) : Route α :=
  match route.nodes with
  | first :: next :: rest =>
    ⟨{ first with waypoint := start } :: withLast finish (next :: rest)⟩
  | _ => .ofLeg start (.direct (Distance.between start finish)) finish

/-- The route between two nodes: the first walk that gets there, or the shortest route. -/
def routeBetween (chooser : Chooser σ α) (graph : Graph α) (settings : SearchSettings)
    (cancel : Option CancelFlag) (start target : Nat) (draws : σ) :
    Except RouteError (Route α × σ) := do
  let attempts := settings.randomAttempts
  match ← firstWalk chooser graph start target settings.randomSteps cancel attempts draws with
  | (some progress, draws) => return (← graph.routeAlong start progress.hops.reverse, draws)
  | (none, draws) => return (← ShortestRoute.findBetween graph start target cancel, draws)

/-- A random route between two waypoints. -/
def find (chooser : Chooser σ α) (graph : Graph α) (settings : SearchSettings)
    (cancel : Option CancelFlag) (start finish : Waypoint) (draws : σ) :
    Except RouteError (Route α × σ) :=
  if start == finish then .ok (.single start, draws)
  else
    match snap? graph start, snap? graph finish with
    | some origin, some target => do
      let (route, draws) ← routeBetween chooser graph settings cancel origin target draws
      return (between start finish route, draws)
    | _, _ => .error (.noPath start.ident finish.ident)

/-- The walk as a source of routes. The draws behind a failure are those before it. -/
def source (chooser : SearchSettings → Chooser σ α) : RandomSource σ α :=
  fun graph settings cancel start finish draws =>
    match find (chooser settings) graph settings cancel start finish draws with
    | .ok (route, draws) => (.ok route, draws)
    | .error failure => (.error failure, draws)

/-- The walk as a source of routes that makes the same draws on every call. -/
def replayed {τ : Type} (chooser : SearchSettings → Chooser σ α) (draws : σ) : RandomSource τ α :=
  fun graph settings cancel start finish state =>
    ((find (chooser settings) graph settings cancel start finish draws).map (·.1), state)

end RandomWalk

end FlightRoute
