/-
**A request leaves the graph as it was.**

A request may take waypoints into the graph for its literal coordinates; however it ends, they are gone
behind it. Requests that are resolved in turn on one graph therefore do not see each other.

* `scopeOf_over`, `coordinateScope_over`: the scope of a request has the old graph in front;
* `injections_undone`: a closed scope, a request and a sequence of requests leave the graph alone.
-/

import FlightRoute.Proofs.Graph.Rollback
import FlightRoute.Proofs.Resolve.Planar

namespace FlightRoute

variable {σ α : Type} [Distance α]

/-- The scope behind a sequence of waypoints, each with a number of links. -/
def Scope.injectAll (scope : Scope α) (injections : List (Waypoint × Nat)) : Scope α :=
  injections.foldl (fun scope injection => scope.inject injection.1 injection.2) scope

namespace Resolver

/-- The outcomes of requests that are resolved in turn, each on the graph that the one before it left. -/
def resolveInTurn (graph : Graph α) (draws : σ) :
    List (Resolver σ α × RouteRequest) → List (Except RouteError (Route α))
  | [] => []
  | (resolver, request) :: rest =>
    let resolution := resolver.resolve graph request draws
    resolution.outcome :: resolveInTurn resolution.graph resolution.draws rest

/-- The outcomes of requests that are resolved each on a copy of its own of one graph. -/
def resolveOnCopies (graph : Graph α) (draws : σ) :
    List (Resolver σ α × RouteRequest) → List (Except RouteError (Route α))
  | [] => []
  | (resolver, request) :: rest =>
    let resolution := resolver.resolve graph request draws
    resolution.outcome :: resolveOnCopies graph resolution.draws rest

variable {graph : Graph α}

theorem injectAll_over (wellFormed : graph.WellFormed) {scope : Scope α} (grown : scope.Over graph)
    (injections : List (Waypoint × Nat)) : (scope.injectAll injections).Over graph := by
  unfold Scope.injectAll
  induction injections generalizing scope with
  | nil => exact grown
  | cons injection rest ih => exact ih (Scope.inject_over wellFormed grown injection.1 injection.2)

/-- The scope in which waypoints are in the graph. -/
def scopeOf (graph : Graph α) (links : Nat) (waypoints : List Waypoint) : Scope α :=
  waypoints.foldl (injectMissing links) graph.openScope

/-- **Whatever is taken in**, the graph stands in front of it. -/
theorem scopeOf_over (wellFormed : graph.WellFormed) (links : Nat) (waypoints : List Waypoint) :
    (scopeOf graph links waypoints).Over graph := by
  refine List.foldlRecOn (motive := fun scope : Scope α => scope.Over graph) _ _
    (Scope.openScope_over wellFormed) fun scope grown waypoint _ => ?_
  unfold injectMissing
  split
  · exact grown
  · exact Scope.inject_over wellFormed grown waypoint links

/-- The scope of a request has the graph in front. -/
theorem coordinateScope_over (wellFormed : graph.WellFormed) (resolver : Resolver σ α)
    (tokens : List Token) : (resolver.coordinateScope graph tokens).Over graph :=
  scopeOf_over wellFormed resolver.settings.coordinateLinks (RouteString.coordinates tokens)

/-- **However a request ends, the graph is the one before.** -/
theorem resolve_graph (wellFormed : graph.WellFormed) (resolver : Resolver σ α)
    (request : RouteRequest) (draws : σ) : (resolver.resolve graph request draws).graph = graph := by
  unfold resolve
  split
  · rfl
  · split
    · rfl
    · rfl
    · exact Scope.close_eq wellFormed (coordinateScope_over wellFormed resolver _)

theorem resolveInTurn_eq (wellFormed : graph.WellFormed)
    (jobs : List (Resolver σ α × RouteRequest)) (draws : σ) :
    resolveInTurn graph draws jobs = resolveOnCopies graph draws jobs := by
  induction jobs generalizing draws with
  | nil => rfl
  | cons job rest ih =>
    obtain ⟨resolver, request⟩ := job
    unfold resolveInTurn resolveOnCopies
    dsimp only
    rw [resolve_graph wellFormed, ih]

/-- **Nothing that is taken in for a while stays**: a closed scope leaves the graph as it was, a
request does, and requests in turn on one graph end like requests on copies of it. -/
theorem injections_undone (built : graph.Built) :
    (∀ injections, (graph.openScope.injectAll injections).close = graph) ∧
      (∀ (resolver : Resolver σ α) (request : RouteRequest) (draws : σ),
        (resolver.resolve graph request draws).graph = graph) ∧
      ∀ (jobs : List (Resolver σ α × RouteRequest)) (draws : σ),
        resolveInTurn graph draws jobs = resolveOnCopies graph draws jobs := by
  have wellFormed : graph.WellFormed := built.wellFormed
  refine ⟨fun injections => ?_, resolve_graph wellFormed, resolveInTurn_eq wellFormed⟩
  exact Scope.close_eq wellFormed (injectAll_over wellFormed (Scope.openScope_over wellFormed) _)

/-- Two waypoints of the same name as an old one are taken in and are gone again. -/
theorem injections_undone_crossing :
    crossing.Built ∧
      (crossing.openScope.injectAll [(⟨"A", 0, 5⟩, 2), (⟨"A", 0, 1⟩, 3)]).close = crossing ∧
      (planar.resolve crossing ⟨"KAAA", "09", "KBBB", "27", "5020N B"⟩ ()).graph = crossing := by
  obtain ⟨closed, resolved, _⟩ := injections_undone (σ := Unit) crossing_built
  exact ⟨crossing_built, closed _, resolved planar _ ()⟩

end Resolver

end FlightRoute
