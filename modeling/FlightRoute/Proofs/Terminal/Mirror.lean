/-
**Departures and arrivals are mirror images.**

A terminal reads an arrival as another one reads a departure: the same tokens in reverse give the same route in
the other direction and leave the same tokens in reverse, or both fail. That is so on the same graph, at the
same threshold, when the distance is symmetric and what the one publishes as an arrival is the mirror of what
the other publishes as a departure. A failure says the same of the other end of the flight, unless it comes from
the procedures.

* `Mirrors.waypointOf`, `Mirrors.graphCopy`, `Mirrors.procedureOf`: what is looked up;
* `Mirrors.extraction`: reading the tokens from either side, step by step;
* `mirrors_of_table`: terminals that mirror each other;
* `arrival_mirrors`: what comes of it.
-/

import FlightRoute.Proofs.Failure
import FlightRoute.Proofs.Procedure.Mirror
import FlightRoute.Proofs.Terminal.Seam

namespace FlightRoute

variable {α : Type}

/-- Nothing about a node depends on the end of the flight. -/
theorem Graph.waypoint_failsAlike (graph : Graph α) (node : Nat) :
    FailsOnly (fun failure => failure = failure.mirror) (graph.waypoint node) := by
  unfold waypoint
  split
  · exact .ok _
  · exact .error rfl

/-- A route in the other direction, with the tokens that stay in reverse. -/
structure Extraction.Mirrors (sid star : Extraction α) : Prop where
  remaining : star.remaining = sid.remaining.reverse
  route : star.route = sid.route.mirror
  wellFormed : sid.route.WellFormed

namespace Terminal

/-- Two terminals at the same place, the one with the mirrored procedures of the other. -/
structure Mirrors [Distance α] (departing arriving : Terminal α) : Prop where
  graph : arriving.graph = departing.graph
  threshold : arriving.runway.threshold = departing.runway.threshold
  procedures (name : String) : Alike RouteError.SameKind Procedure.Mirrors
    (departing.store.procedure departing.runway .sid name)
    (arriving.store.procedure arriving.runway .star name)

/-- A failure and its mirror, or the failures of the two stores to look up the same name. -/
def FailAlike (departing arriving : Terminal α) (failure image : RouteError) : Prop :=
  image = failure.mirror ∨ failure.SameKind image ∧
    ∃ name, departing.store.procedure departing.runway .sid name = .error failure ∧
      arriving.store.procedure arriving.runway .star name = .error image

variable {departing arriving : Terminal α}

theorem FailAlike.sameKind {failure image : RouteError}
    (alike : departing.FailAlike arriving failure image) : failure.SameKind image := by
  rcases alike with rfl | ⟨same, _⟩
  · exact failure.sameKind_mirror
  · exact same

variable [Distance α]

/-! ### What is looked up -/

/-- What is wrong with a token is wrong at either end. -/
theorem waypointOf_failsAlike (terminal : Terminal α) (token : Token) :
    FailsOnly (fun failure => failure = failure.mirror) (terminal.waypointOf token) := by
  unfold waypointOf
  split
  · dsimp only
    split
    · exact .ok _
    · exact .error rfl
  · split
    · exact Graph.waypoint_failsAlike _ _
    · exact .error rfl
  · exact .error rfl

theorem graphCopy_failsAlike (terminal : Terminal α) (fix : Waypoint) :
    FailsOnly (fun failure => failure = failure.mirror) (terminal.graphCopy fix) := by
  unfold graphCopy
  split
  · exact (Graph.waypoint_failsAlike _ _).map _
  · exact .ok _

namespace Mirrors

/-- A token stands for the same waypoint at both terminals. -/
theorem waypointOf (mirrors : departing.Mirrors arriving) (token : Token) :
    Alike (departing.FailAlike arriving) Eq (departing.waypointOf token)
      (arriving.waypointOf token) := by
  have same : arriving.waypointOf token = departing.waypointOf token := by
    unfold Terminal.waypointOf
    rw [mirrors.graph, mirrors.threshold]
  rw [same]
  exact .self fun failure failed => Or.inl (waypointOf_failsAlike departing token failure failed)

/-- Both terminals know the same copy of a waypoint. -/
theorem graphCopy (mirrors : departing.Mirrors arriving) (fix : Waypoint) :
    Alike (departing.FailAlike arriving) Eq (departing.graphCopy fix) (arriving.graphCopy fix) := by
  have same : arriving.graphCopy fix = departing.graphCopy fix := by
    unfold Terminal.graphCopy
    rw [mirrors.graph]
  rw [same]
  exact .self fun failure failed => Or.inl (graphCopy_failsAlike departing fix failure failed)

/-- A name is published at both terminals or at none of them. -/
theorem procedure? (mirrors : departing.Mirrors arriving) (name : String) :
    Alike (departing.FailAlike arriving) (Option.Rel Procedure.Mirrors)
      (departing.store.procedure? departing.runway .sid name)
      (arriving.store.procedure? arriving.runway .star name) := by
  unfold ProcedureStore.procedure?
  rcases (mirrors.procedures name).ok_or_error with
    ⟨sid, star, left, right, mirrored⟩ | ⟨failure, image, left, right, same⟩
  · rw [left, right]
    exact .ok (.some mirrored)
  · have alike : departing.FailAlike arriving failure image := Or.inr ⟨same, name, left, right⟩
    rw [left, right]
    -- a name that is not published is no failure, and the other terminal does not publish it either
    cases same with
    | procedureNotFound => exact .ok .none
    | _ => exact .error alike

theorem procedureOf (mirrors : departing.Mirrors arriving) (token : Token) :
    Alike (departing.FailAlike arriving) (Option.Rel Procedure.Mirrors)
      (departing.procedureOf .sid token) (arriving.procedureOf .star token) := by
  cases token with
  | ident name => exact mirrors.procedure? name
  | _ => exact .ok .none

/-! ### What is read -/

variable [Distance.Symmetric α]

/-- Directly from the threshold, and directly to it. -/
theorem direct (mirrors : departing.Mirrors arriving) (token : Token) (tokens : List Token) :
    Alike (departing.FailAlike arriving) Extraction.Mirrors (departing.directDeparture token tokens)
      (arriving.directArrival token tokens.reverse) := by
  refine (mirrors.waypointOf token).bind fun waypoint _ same => ?_
  subst same
  rw [mirrors.threshold, Distance.between_comm waypoint]
  exact .ok ⟨rfl, rfl, Route.joined_none_iff.mp (Route.joined_ofLeg _ _ _)⟩

/-- With a procedure whose end is off the graph. -/
theorem bridged (mirrors : departing.Mirrors arriving) {sid star : Procedure α}
    (mirrored : sid.Mirrors star) (fix : Waypoint) (tokens : List Token) :
    Alike (departing.FailAlike arriving) Extraction.Mirrors
      (departing.bridgedDeparture sid fix tokens) (arriving.bridgedArrival star fix tokens) := by
  unfold bridgedDeparture bridgedArrival
  cases skipDirect tokens with
  | nil => exact .error (Or.inl (by rw [mirrored.name]; rfl))
  | cons enroute rest =>
    refine (mirrors.waypointOf enroute).bind fun waypoint _ same => ?_
    subst same
    -- the leg beyond the procedure is measured from its end on or towards it
    rw [mirrors.threshold, mirrored.leg_eq, Distance.between_comm waypoint]
    refine .ok ⟨rfl, rfl, ?_⟩
    exact Route.Runs.wellFormed (.leg _ (.leg _ (.final waypoint)))

/-- With a procedure. -/
theorem procedure (mirrors : departing.Mirrors arriving) {sid star : Procedure α}
    (mirrored : sid.Mirrors star) (tokens : List Token) :
    Alike (departing.FailAlike arriving) Extraction.Mirrors
      (departing.procedureDeparture sid tokens) (arriving.procedureArrival star tokens) := by
  unfold procedureDeparture procedureArrival
  rw [mirrored.first?_eq]
  cases sid.last? with
  | none => exact .error (Or.inl (by rw [mirrored.name]; rfl))
  | some fix =>
    cases tokens with
    | nil => exact .error (Or.inl (by rw [mirrored.name]; rfl))
    | cons seam rest =>
      dsimp only
      split
      · exact .error (Or.inl (by rw [mirrored.name]; rfl))
      · refine (mirrors.graphCopy fix).bind fun copy _ same => ?_
        subst same
        cases copy with
        | none => exact mirrors.bridged mirrored fix rest
        | some own =>
          dsimp only
          rw [mirrors.threshold, mirrored.leg_eq]
          exact .ok ⟨rfl, rfl, Route.joined_none_iff.mp (Route.joined_ofLeg _ _ _)⟩

/-- **Reading tokens from either side** ends alike. -/
theorem extraction (mirrors : departing.Mirrors arriving) (tokens : List Token) :
    Alike (departing.FailAlike arriving) Extraction.Mirrors (departing.departure tokens)
      (arriving.arrival tokens.reverse) := by
  unfold departure arrival
  rw [List.reverse_reverse]
  cases tokens with
  | nil => exact .error (Or.inl rfl)
  | cons first rest =>
    refine (mirrors.procedureOf first).bind fun sid star same => ?_
    cases same with
    | some mirrored => exact mirrors.procedure mirrored rest
    | none => exact mirrors.direct first (first :: rest)

end Mirrors

/-- On exact lengths a table and its mirror make terminals that mirror each other. -/
theorem mirrors_of_table [AddCommMonoid α] [LinearOrder α] [Distance.Exact α] [Distance.Symmetric α]
    (graph : Graph α) (table : ProcedureTable) (runway : Runway) :
    Mirrors ⟨graph, table.store, runway⟩ ⟨graph, table.mirror.store, runway⟩ where
  graph := rfl
  threshold := rfl
  procedures name := table.procedure_mirrors runway name

/-- **Departures and arrivals are mirror images.** An arrival is read from tokens exactly when a departure is read
from the tokens in reverse. Then the routes are the mirrors of each other, and so are the tokens that stay. Two
failures are of the same kind, and the one is the mirror of the other unless the stores failed to look up a
name. -/
theorem arrival_mirrors [Distance.Symmetric α] (mirrors : departing.Mirrors arriving)
    (tokens : List Token) :
    ((∃ star, arriving.arrival tokens = .ok star) ↔
      ∃ sid, departing.departure tokens.reverse = .ok sid) ∧
    (∀ star sid, arriving.arrival tokens = .ok star → departing.departure tokens.reverse = .ok sid →
      star.remaining = sid.remaining.reverse ∧ star.route = sid.route.mirror ∧
        sid.route = star.route.mirror) ∧
    ∀ image failure, arriving.arrival tokens = .error image →
      departing.departure tokens.reverse = .error failure →
        failure.SameKind image ∧ departing.FailAlike arriving failure image := by
  have alike := mirrors.extraction tokens.reverse
  rw [List.reverse_reverse] at alike
  refine ⟨alike.exists_ok_iff.symm, fun star sid arrived departed => ?_,
    fun image failure arrived departed => ?_⟩
  · rw [arrived, departed] at alike
    cases alike with
    | ok related =>
      refine ⟨related.remaining, related.route, ?_⟩
      rw [related.route, related.wellFormed.mirror_mirror]
  · rw [arrived, departed] at alike
    cases alike with
    | error related => exact ⟨related.sameKind, related⟩

omit [Distance α] in
/-- A departure that ends off the graph, and the same way as an arrival. -/
theorem arrival_mirrors_crossing :
    let table : ProcedureTable := ⟨[⟨"KAAA", .sid, "DEP1", ["09"], [⟨"X", 1, 0⟩]⟩,
      ⟨"KAAA", .star, "ARR1", ["09"], [⟨"C", 0, 3⟩]⟩]⟩
    let arriving : Terminal ℚ := ⟨crossing, table.mirror.store, besideCrossing.runway⟩
    besideCrossing.Mirrors arriving ∧ Distance.Symmetric ℚ ∧
      ∃ star sid, arriving.arrival [.ident "A", .direct, .ident "X", .ident "DEP1"] = .ok star ∧
        besideCrossing.departure [.ident "DEP1", .ident "X", .direct, .ident "A"] = .ok sid ∧
        star.remaining = [.ident "A"] ∧ star.route = sid.route.mirror := by
  intro table arriving
  have mirrors : besideCrossing.Mirrors arriving :=
    mirrors_of_table crossing table besideCrossing.runway
  obtain ⟨sid, departed, left⟩ := besideCrossing_departure
  obtain ⟨both, related, _⟩ :=
    arrival_mirrors mirrors [.ident "A", .direct, .ident "X", .ident "DEP1"]
  obtain ⟨star, arrived⟩ := both.mpr ⟨sid, departed⟩
  obtain ⟨remaining, route, _⟩ := related star sid arrived departed
  refine ⟨mirrors, inferInstance, star, sid, arrived, departed, ?_, route⟩
  rw [remaining, left]
  rfl

end Terminal

end FlightRoute
