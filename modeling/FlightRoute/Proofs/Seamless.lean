/-
**What cannot fail at a seam.**

Only connecting two routes can find that they do not share a waypoint. Everything else that may fail
fails for another reason (`Seamless`): looking up, searching, and reading either end of a flight.

* `Seamless.iff_failsOnly`: what fails for other reasons only;
* `Seamless.bind`, `Seamless.foldlM`, `Seamless.mapM`: steps one after the other;
* `find_seamless`, `alongAirway_seamless`: searches;
* `departure_seamless`, `arrival_seamless`: the ends of a flight, if the store is.
-/

import FlightRoute.Proofs.Failure
import FlightRoute.Resolve.Resolver

namespace FlightRoute

/-- A computation that does not fail for want of a shared waypoint. -/
def Seamless {β : Type} (x : Except RouteError β) : Prop :=
  ∀ left right, x ≠ .error (.connectionMismatch left right)

namespace Seamless

variable {β γ δ : Type}

/-- It fails for other reasons only. -/
theorem iff_failsOnly {x : Except RouteError β} :
    Seamless x ↔ FailsOnly (fun failure => ∀ left right, failure ≠ .connectionMismatch left right) x := by
  constructor
  · rintro seamless failure failed left right rfl
    exact seamless left right failed
  · exact fun only left right failed => only _ failed left right rfl

theorem ok (b : β) : Seamless (.ok b) := iff_failsOnly.mpr (.ok b)

theorem error {failure : RouteError}
    (other : ∀ left right, failure ≠ .connectionMismatch left right) :
    Seamless (.error failure : Except RouteError β) := iff_failsOnly.mpr (.error other)

/-- A malformed text is another failure. -/
theorem malformed (fault : GrammarFault) : Seamless (.error (.grammar fault) : Except RouteError β) :=
  error fun _ _ => RouteError.noConfusion

/-- Two steps, one after the other. -/
theorem bind {x : Except RouteError β} {f : β → Except RouteError γ} (first : Seamless x)
    (rest : ∀ b, x = .ok b → Seamless (f b)) : Seamless (x >>= f) :=
  iff_failsOnly.mpr ((iff_failsOnly.mp first).bind fun b ran => iff_failsOnly.mp (rest b ran))

theorem map {x : Except RouteError β} (first : Seamless x) (f : β → γ) : Seamless (x.map f) :=
  iff_failsOnly.mpr ((iff_failsOnly.mp first).map f)

theorem foldlM {f : γ → β → Except RouteError γ} (step : ∀ state item, Seamless (f state item))
    (items : List β) (state : γ) : Seamless (items.foldlM f state) :=
  iff_failsOnly.mpr (.foldlM (P := fun _ => True)
    (fun state item _ _ => iff_failsOnly.mp (step state item)) (fun _ _ _ _ _ _ => trivial) trivial)

theorem mapM {f : β → Except RouteError γ} (step : ∀ item, Seamless (f item)) (items : List β) :
    Seamless (items.mapM f) :=
  iff_failsOnly.mpr (.mapM fun item _ => iff_failsOnly.mp (step item))

end Seamless

open Seamless

variable {σ α : Type}

theorem checkCancel_seamless (cancel : Option CancelFlag) : Seamless (checkCancel cancel) := by
  unfold checkCancel
  split
  · unfold CancelFlag.check
    split
    · exact error nofun
    · exact ok _
  · exact ok _

/-! ### The graph -/

namespace Graph

variable (graph : Graph α)

theorem waypoint_seamless (node : Nat) : Seamless (graph.waypoint node) := by
  unfold Graph.waypoint
  split
  · exact ok _
  · exact error nofun

theorem edgesFrom_seamless (node : Nat) : Seamless (graph.edgesFrom node) := by
  unfold edgesFrom
  split
  · exact ok _
  · exact error nofun

theorem edge_seamless (hop : Search.Hop) : Seamless (graph.edge hop) := by
  unfold Graph.edge
  refine bind (graph.edgesFrom_seamless _) fun edges _ => ?_
  split
  · exact ok _
  · exact error nofun

theorem hasAirway_seamless (node : Nat) (airway : String) :
    Seamless (graph.hasAirway node airway) := by
  unfold hasAirway
  exact bind (graph.edgesFrom_seamless _) fun edges _ => ok _

theorem nodesAlong_seamless (hops : List Search.Hop) (waypoint : Waypoint) :
    Seamless (graph.nodesAlong waypoint hops) := by
  induction hops generalizing waypoint with
  | nil => exact ok _
  | cons hop rest ih =>
    unfold nodesAlong
    refine bind (graph.edge_seamless hop) fun edge _ => ?_
    refine bind (graph.waypoint_seamless edge.target) fun next _ => ?_
    exact bind (ih next) fun nodes _ => ok _

theorem routeAlong_seamless (start : Nat) (hops : List Search.Hop) :
    Seamless (graph.routeAlong start hops) := by
  unfold routeAlong
  refine bind (graph.waypoint_seamless start) fun waypoint _ => ?_
  exact bind (graph.nodesAlong_seamless hops waypoint) fun nodes _ => ok _

end Graph

/-! ### Searches -/

variable [Distance α]

namespace Search

theorem offer_seamless (state : State α) (vertex : Nat) (cost : α) (trail : Trail) :
    Seamless (state.offer vertex cost trail) := by
  unfold State.offer
  split
  · exact error nofun
  · split
    · exact ok _
    · exact ok _

theorem explore_seamless {network : Network α} (leaving : ∀ vertex, Seamless (network.arcs vertex))
    (goal : Nat) (cancel : Option CancelFlag) (rounds : Nat) (state : State α) :
    Seamless (explore network goal cancel rounds state) := by
  induction rounds generalizing state with
  | zero => exact ok _
  | succ rounds ih =>
    unfold explore
    split
    · exact ok _
    · rename_i entry agenda up
      split
      · exact ok _
      · refine bind (checkCancel_seamless cancel) fun _ _ => ?_
        split
        · exact ok _
        · refine bind (leaving entry.vertex) fun arcs _ => ?_
          refine bind (Seamless.foldlM (fun before arc => ?_) arcs _) fun next _ => ih next
          exact offer_seamless before _ _ _

theorem shortest_seamless {network : Network α} (leaving : ∀ vertex, Seamless (network.arcs vertex))
    (seeds : List (Nat × α)) (goal : Nat) (cancel : Option CancelFlag) :
    Seamless (shortest network seeds goal cancel) := by
  unfold shortest
  refine bind (Seamless.foldlM (fun before seed => ?_) _ _) fun state _ => ?_
  · exact offer_seamless before _ _ _
  · exact explore_seamless leaving goal cancel _ state

end Search

theorem connection?_seamless (graph : Graph α) (sources targets : List (Nat × α))
    (airway : Option String) (cancel : Option CancelFlag) :
    Seamless (graph.connection? sources targets airway cancel) := by
  unfold Graph.connection?
  refine bind (Search.shortest_seamless (fun vertex => ?_) _ _ _) fun outcome _ => ?_
  · exact bind (graph.edgesFrom_seamless vertex) fun edges _ => ok _
  · split
    · exact ok _
    · split
      · exact ok _
      · exact ok _

namespace Endpoint

variable (graph : Graph α)

omit [Distance α] in
theorem ident_seamless (endpoint : Endpoint α) : Seamless (endpoint.ident graph) := by
  cases endpoint with
  | node index => exact map (graph.waypoint_seamless index) _
  | terminal waypoint links => exact ok _

theorem anchors_seamless (endpoint : Endpoint α) : Seamless (endpoint.anchors graph) := by
  cases endpoint with
  | node index => exact ok _
  | terminal waypoint links =>
    refine mapM (fun link => ?_) links
    refine bind ?_ fun cost _ => ok _
    unfold TerminalLink.cost
    split
    · exact bind (graph.waypoint_seamless _) fun _ _ => ok _
    · exact ok _

theorem nearestLinks_seamless (waypoint : Waypoint) (count : Nat) :
    Seamless (nearestLinks graph waypoint count) := by
  refine mapM (fun node => ?_) _
  exact bind (graph.waypoint_seamless node) fun _ _ => ok _

theorem ofWaypoint_seamless (waypoint : Waypoint) (count : Nat) :
    Seamless (ofWaypoint graph waypoint count) := by
  unfold ofWaypoint
  split
  · exact ok _
  · exact bind (nearestLinks_seamless graph waypoint count) fun _ _ => ok _

end Endpoint

namespace ShortestRoute

omit [Distance α] in
theorem linkAt_seamless (links : List (TerminalLink α)) (index : Nat) :
    Seamless (linkAt links index) := by
  unfold linkAt
  split
  · exact ok _
  · exact error nofun

variable (graph : Graph α)

theorem opening_seamless (endpoint : Endpoint α) (index : Nat) :
    Seamless (opening graph endpoint index) := by
  cases endpoint with
  | node other => exact ok _
  | terminal waypoint links =>
    refine bind (linkAt_seamless links index) fun link _ => ?_
    split
    · exact bind (graph.waypoint_seamless _) fun _ _ => ok _
    · exact ok _

theorem closing_seamless (endpoint : Endpoint α) (index : Nat) (route : Route α) :
    Seamless (closing graph endpoint index route) := by
  cases endpoint with
  | node other => exact ok _
  | terminal waypoint links =>
    refine bind (linkAt_seamless links index) fun link _ => ?_
    split
    · exact bind (graph.waypoint_seamless _) fun _ _ => ok _
    · exact ok _

/-- **The search for a shortest route** never fails at a seam. -/
theorem find_seamless (start finish : Endpoint α) (cancel : Option CancelFlag) :
    Seamless (find graph start finish cancel) := by
  unfold find
  refine bind (start.anchors_seamless graph) fun sources _ => ?_
  refine bind (finish.anchors_seamless graph) fun targets _ => ?_
  refine bind (connection?_seamless graph _ _ _ _) fun outcome _ => ?_
  split
  · refine bind (start.ident_seamless graph) fun origin _ => ?_
    exact bind (finish.ident_seamless graph) fun destination _ => error nofun
  · refine bind (opening_seamless graph _ _) fun front _ => ?_
    refine bind (graph.routeAlong_seamless _ _) fun middle _ => ?_
    exact closing_seamless graph _ _ _

/-- **The search along an airway** never fails at a seam. -/
theorem alongAirway_seamless (start : Nat) (candidates : List Nat) (airway : String)
    (cancel : Option CancelFlag) : Seamless (alongAirway graph start candidates airway cancel) := by
  unfold alongAirway
  refine bind (connection?_seamless graph _ _ _ _) fun outcome _ => ?_
  split
  · dsimp only
    split
    · refine bind (map (graph.waypoint_seamless _) _) fun destination _ => ?_
      exact bind (graph.waypoint_seamless _) fun _ _ => error nofun
    · refine bind (ok _) fun destination _ => ?_
      exact bind (graph.waypoint_seamless _) fun _ _ => error nofun
  · exact graph.routeAlong_seamless _ _

end ShortestRoute

/-! ### The ends of a flight -/

/-- A store that does not fail for want of a shared waypoint. -/
def ProcedureStore.Seamless (store : ProcedureStore α) : Prop :=
  ∀ runway kind name, FlightRoute.Seamless (store.procedure runway kind name)

omit [Distance α] in
theorem procedure?_seamless {store : ProcedureStore α} (seamless : store.Seamless) (runway : Runway)
    (kind : ProcedureKind) (name : String) :
    FlightRoute.Seamless (store.procedure? runway kind name) := by
  unfold ProcedureStore.procedure?
  cases answer : store.procedure runway kind name with
  | ok procedure => exact ok _
  | error failure =>
    have other : ∀ left right, failure ≠ .connectionMismatch left right := by
      rintro left right rfl
      exact seamless runway kind name left right answer
    split
    · exact ok _
    · exact ok _
    · rename_i same
      cases same
      exact error other

/-- The links of a runway. -/
theorem ofRunway_seamless {terminal : Terminal α} (seamless : terminal.store.Seamless)
    (kind : ProcedureKind) (count : Nat) : Seamless (Endpoint.ofRunway terminal kind count) := by
  have links : ∀ names, Seamless (Endpoint.linksOfNames terminal kind count names) := by
    intro names
    induction names with
    | nil => exact ok _
    | cons name rest ih =>
      unfold Endpoint.linksOfNames
      refine bind (procedure?_seamless seamless _ _ _) fun procedure _ => ?_
      exact bind ih fun others _ => ok _
  unfold Endpoint.ofRunway
  refine bind (links _) fun found _ => ?_
  split
  · exact bind (Endpoint.nearestLinks_seamless _ _ _) fun _ _ => ok _
  · exact ok _

namespace Terminal

variable {terminal : Terminal α}

theorem waypointOf_seamless (token : Token) : Seamless (terminal.waypointOf token) := by
  unfold waypointOf
  split
  · dsimp only
    split
    · exact ok _
    · exact error nofun
  · split
    · exact terminal.graph.waypoint_seamless _
    · exact error nofun
  · exact error nofun

omit [Distance α] in
theorem procedureOf_seamless (seamless : terminal.store.Seamless) (kind : ProcedureKind)
    (token : Token) : FlightRoute.Seamless (terminal.procedureOf kind token) := by
  unfold procedureOf
  split
  · exact procedure?_seamless seamless _ _ _
  · exact ok _

theorem graphCopy_seamless (fix : Waypoint) : Seamless (terminal.graphCopy fix) := by
  unfold graphCopy
  split
  · exact map (terminal.graph.waypoint_seamless _) _
  · exact ok _

/-- **Reading a departure** never fails at a seam. -/
theorem departure_seamless (seamless : terminal.store.Seamless) (tokens : List Token) :
    FlightRoute.Seamless (terminal.departure tokens) := by
  unfold departure
  split
  · exact error nofun
  · refine bind (procedureOf_seamless seamless _ _) fun sid _ => ?_
    split
    · unfold procedureDeparture
      split
      · exact error nofun
      · split
        · exact error nofun
        · split
          · exact error nofun
          · refine bind (graphCopy_seamless _) fun copy _ => ?_
            split
            · exact ok _
            · unfold bridgedDeparture
              split
              · exact error nofun
              · exact bind (waypointOf_seamless _) fun _ _ => ok _
    · exact bind (waypointOf_seamless _) fun _ _ => ok _

/-- **Reading an arrival** never fails at a seam. -/
theorem arrival_seamless (seamless : terminal.store.Seamless) (tokens : List Token) :
    FlightRoute.Seamless (terminal.arrival tokens) := by
  unfold arrival
  split
  · exact error nofun
  · refine bind (procedureOf_seamless seamless _ _) fun star _ => ?_
    split
    · unfold procedureArrival
      split
      · exact error nofun
      · split
        · exact error nofun
        · split
          · exact error nofun
          · refine bind (graphCopy_seamless _) fun copy _ => ?_
            split
            · exact ok _
            · unfold bridgedArrival
              split
              · exact error nofun
              · exact bind (waypointOf_seamless _) fun _ _ => ok _
    · exact bind (waypointOf_seamless _) fun _ _ => ok _

end Terminal

end FlightRoute
