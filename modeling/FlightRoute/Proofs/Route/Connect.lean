/-
**Routes that are connected.**

A list of routes connects exactly when each of them ends where the next one begins (`Meets`). The whole
route begins where the first does and ends where the last does; a route of one node lends its place to
the node that it is connected to, which agrees with it.

* `connectAll_runs`: what a connected list of routes is;
* `connectAll_eq_ok`: routes that meet connect;
* `connectAll_failsOnly`: why routes may fail to connect.
-/

import Mathlib.Data.List.Chain
import FlightRoute.Proofs.Failure
import FlightRoute.Proofs.Route.WellFormed

namespace FlightRoute.Route

variable {α : Type}

/-- A route that runs from a waypoint to another. -/
def IsPath (route : Route α) : Prop := ∃ start finish, Runs start route.nodes finish

/-- The one route ends where the other begins. -/
def Meets (route other : Route α) : Prop :=
  ∃ finish next, route.last? = some finish ∧ other.first? = some next ∧ (finish == next) = true

/-- The route begins at a waypoint, or at one that agrees with it. -/
def StartsAt (waypoint : Waypoint) (route : Route α) : Prop :=
  ∃ first, route.first? = some first ∧ waypoint.Same first

/-- The route ends at a waypoint, or at one that agrees with it. -/
def EndsAt (waypoint : Waypoint) (route : Route α) : Prop :=
  ∃ last, route.last? = some last ∧ waypoint.Same last

variable {route other whole : Route α} {start finish : Waypoint}

theorem Runs.isPath (runs : Runs start route.nodes finish) : route.IsPath := ⟨start, finish, runs⟩

theorem Runs.startsAt (runs : Runs start route.nodes finish) : route.StartsAt start :=
  ⟨start, runs.first?, .refl start⟩

theorem Runs.endsAt (runs : Runs start route.nodes finish) : route.EndsAt finish :=
  ⟨finish, runs.last?, .refl finish⟩

/-- Two paths that are connected are a path, from where the one begins to where the other ends. -/
theorem IsPath.connect (path : route.IsPath) (more : other.IsPath)
    (connected : route.connect other = .ok whole) :
    whole.IsPath ∧ whole.last? = other.last? ∧
      ∀ waypoint, route.StartsAt waypoint → whole.StartsAt waypoint := by
  obtain ⟨start, finish, runs⟩ := path
  obtain ⟨next, last, further⟩ := more
  obtain ⟨first, same, joined⟩ := runs.connect further connected
  refine ⟨joined.isPath, joined.last?.trans further.last?.symm, fun waypoint starts => ?_⟩
  obtain ⟨begins, here, agrees⟩ := starts
  rw [runs.first?] at here
  cases here
  exact ⟨first, joined.first?, agrees.trans same⟩

/-- **Connecting fails** only for want of a shared waypoint. -/
theorem connect_failsOnly (route other : Route α) :
    FailsOnly (fun failure => ∃ left right, failure = .connectionMismatch left right)
      (route.connect other) := by
  unfold connect
  split
  · exact .ok _
  · exact .ok _
  · split
    · exact .ok _
    · exact .error ⟨_, _, rfl⟩

theorem connectAll_failsOnly (routes : List (Route α)) :
    FailsOnly (fun failure => ∃ left right, failure = .connectionMismatch left right)
      (connectAll routes) :=
  .foldlM (P := fun _ => True) (fun route other _ _ => connect_failsOnly route other)
    (fun _ _ _ _ _ _ => trivial) trivial

/-- A route with a first waypoint has nodes. -/
theorem nodes_ne_nil (begins : route.first? = some start) : route.nodes ≠ [] := by
  intro empty
  rw [first?, empty] at begins
  cases begins

/-- Two routes that meet connect. -/
theorem Meets.connect (meets : route.Meets other) :
    ∃ whole, route.connect other = .ok whole ∧ whole.last? = other.last? := by
  obtain ⟨seam, entry, ends, begins, agrees⟩ := meets
  refine ⟨_, by rw [connect_eq ends begins, if_pos agrees], ?_⟩
  rw [last?, List.getLast?_append_of_ne_nil _ (nodes_ne_nil begins)]
  rfl

theorem connectAll_three_eq (route other third : Route α) :
    connectAll [route, other, third] = route.connect other >>= fun joined => joined.connect third := by
  show (route.connect other >>= fun joined => joined.connect third >>= pure) = _
  exact congrArg (route.connect other >>= ·) (funext fun joined => bind_pure _)

/-- Three routes, each of which meets the next one. -/
theorem connectAll_meets {third : Route α} (front : route.Meets other) (back : other.Meets third) :
    connectAll [route, other, third] =
      .ok ⟨route.nodes.dropLast ++ (other.nodes.dropLast ++ third.nodes)⟩ := by
  obtain ⟨exit, start, leaves, begins, same⟩ := front
  obtain ⟨finish, entry, ends, comes, agrees⟩ := back
  have nonempty := nodes_ne_nil begins
  have last : last? ⟨route.nodes.dropLast ++ other.nodes⟩ = some finish := by
    rw [last?, List.getLast?_append_of_ne_nil _ nonempty]
    exact ends
  rw [connectAll_three_eq, connect_eq leaves begins, if_pos same, ok_bind, connect_eq last comes,
    if_pos agrees, List.dropLast_append_of_ne_nil nonempty, List.append_assoc]

/-- Two routes that meet, and a third one that may not meet the second. -/
theorem connectAll_three {third : Route α} {last entry : Waypoint} (meets : route.Meets other)
    (ends : other.last? = some last) (begins : third.first? = some entry) :
    (last == entry) = false ↔
      connectAll [route, other, third] =
        .error (.connectionMismatch last.ident entry.ident) := by
  obtain ⟨joined, connected, same⟩ := meets.connect
  rw [connectAll_three_eq, connected, ok_bind, connect_eq (same.trans ends) begins]
  split
  · rename_i same
    simp [same]
  · rename_i other
    simpa using other

/-- Paths that are connected behind a path. -/
theorem foldlM_connect {routes : List (Route α)} (path : route.IsPath)
    (paths : ∀ other ∈ routes, other.IsPath) (connected : routes.foldlM connect route = .ok whole) :
    whole.IsPath ∧ whole.last? = ((route :: routes).getLast (List.cons_ne_nil _ _)).last? ∧
      ∀ waypoint, route.StartsAt waypoint → whole.StartsAt waypoint := by
  induction routes generalizing route with
  | nil =>
    cases connected
    exact ⟨path, rfl, fun _ => id⟩
  | cons next rest ih =>
    rw [List.foldlM_cons] at connected
    obtain ⟨joined, first, connected⟩ := bind_eq_ok.mp connected
    obtain ⟨joinedPath, last, starts⟩ := path.connect (paths next List.mem_cons_self) first
    obtain ⟨wholePath, ends, begins⟩ :=
      ih joinedPath (fun other member => paths other (List.mem_cons_of_mem _ member)) connected
    refine ⟨wholePath, ?_, fun waypoint here => begins waypoint (starts waypoint here)⟩
    rw [ends]
    cases rest with
    | nil => exact last
    | cons second rest => rfl

/-- **A connected list of paths** is a path from where the first begins to where the last ends. -/
theorem connectAll_runs {routes : List (Route α)} (paths : ∀ route ∈ routes, route.IsPath)
    (nonempty : routes ≠ []) (connected : connectAll routes = .ok whole) :
    whole.IsPath ∧
      (∀ route waypoint, routes.head? = some route → route.StartsAt waypoint →
        whole.StartsAt waypoint) ∧
      ∀ route waypoint, routes.getLast? = some route → route.EndsAt waypoint →
        whole.EndsAt waypoint := by
  cases routes with
  | nil => exact absurd rfl nonempty
  | cons first rest =>
    obtain ⟨path, same, front⟩ := foldlM_connect (paths first List.mem_cons_self)
      (fun other member => paths other (List.mem_cons_of_mem _ member)) connected
    refine ⟨path, fun route waypoint here starts => ?_, fun route waypoint here ends => ?_⟩
    · cases here
      exact front waypoint starts
    · rw [List.getLast?_eq_some_getLast (List.cons_ne_nil _ _)] at here
      cases here
      obtain ⟨last, finishes, agrees⟩ := ends
      exact ⟨last, same.trans finishes, agrees⟩

/-- **Routes that meet connect.** -/
theorem connectAll_eq_ok {routes : List (Route α)} (chain : routes.IsChain Meets) :
    ∃ whole, connectAll routes = .ok whole := by
  cases routes with
  | nil => exact ⟨empty, rfl⟩
  | cons first rest =>
    show ∃ whole, rest.foldlM connect first = .ok whole
    induction rest generalizing first with
    | nil => exact ⟨first, rfl⟩
    | cons next rest ih =>
      obtain ⟨meets, chain⟩ := List.isChain_cons_cons.mp chain
      obtain ⟨joined, connected, last⟩ := meets.connect
      have further : (joined :: rest).IsChain Meets := by
        cases rest with
        | nil => exact List.isChain_singleton _
        | cons second rest =>
          obtain ⟨⟨seam, entry, ends, begins, agrees⟩, chain⟩ := List.isChain_cons_cons.mp chain
          exact List.isChain_cons_cons.mpr ⟨⟨seam, entry, last.trans ends, begins, agrees⟩, chain⟩
      obtain ⟨whole, done⟩ := ih joined further
      exact ⟨whole, by rw [List.foldlM_cons, connected]; exact done⟩

end FlightRoute.Route
