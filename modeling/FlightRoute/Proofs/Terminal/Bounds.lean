/-
**The ends of a flight keep to the nodes of the graph.**

Wherever a search begins or ends it joins the graph at nodes: at the node of a waypoint, at the nearest ones,
or at the graph's copy of the end of a procedure. Reading a departure or an arrival looks up waypoints and
never a number on its own. Neither fails but for what the tokens say or what the store answers.

* `inner_slice`: the fixes inside a procedure are a slice of its waypoints;
* `nearestLinks_ok`, `ofWaypoint_ok`, `ofRunway_within`: the links of an end lead to nodes;
* `ofRunway_failsOnly`, `departure_failsOnly`, `arrival_failsOnly`: why an end of a flight may fail, given why
  the store and the waypoints of tokens may.
-/

import FlightRoute.Proofs.Graph.Bounds
import FlightRoute.Proofs.Failure
import FlightRoute.Proofs.Terminal.Agreement

namespace FlightRoute

variable {α : Type}

/-! ### Procedures -/

/-- **The fixes inside a procedure** are the slice from the second waypoint to the one before the last, and
none when there are no more than two. -/
theorem Procedure.inner_slice (procedure : Procedure α) :
    (procedure.legs.length ≤ 2 ∧ procedure.inner = []) ∨
      ∃ last, procedure.legs.length = last + 1 ∧ 1 < last ∧
        procedure.inner = (procedure.legs.extract 1 last).map (·.waypoint) := by
  unfold inner
  rw [List.dropLast_eq_take, List.length_drop]
  by_cases few : procedure.legs.length ≤ 2
  · refine Or.inl ⟨few, ?_⟩
    rw [show procedure.legs.length - 1 - 1 = 0 by omega, List.take_zero]
    rfl
  · exact Or.inr ⟨procedure.legs.length - 1, by omega, by omega, rfl⟩

/-- A store that answers with a procedure, or fails for certain reasons. -/
def ProcedureStore.FailsFor (store : ProcedureStore α) (reason : RouteError → Prop) : Prop :=
  ∀ runway kind name, FailsOnly reason (store.procedure runway kind name)

/-- A store that fails for certain reasons only, apart from names that are not published. -/
def ProcedureStore.AnswersFor (store : ProcedureStore α) (reason : RouteError → Prop) : Prop :=
  ∀ runway kind name, FailsOnly reason (store.procedure? runway kind name)

/-- A store that answers with a procedure, or fails for what was asked. -/
def ProcedureStore.Orderly (store : ProcedureStore α) : Prop :=
  ∀ runway kind name, FailsOnly FlightRoute.Orderly (store.procedure runway kind name)

/-- A table fails only for a name that is not published, or for a procedure without fixes. -/
theorem ProcedureTable.store_failsFor [Distance α] {reason : RouteError → Prop}
    (lenient : Lenient reason) (table : ProcedureTable) :
    (table.store : ProcedureStore α).FailsFor reason := by
  intro runway kind name
  show FailsOnly reason (table.procedure runway kind name)
  unfold ProcedureTable.procedure
  split
  · exact .error (lenient.unpublished _ _)
  · split
    · exact .error (lenient.store _)
    · exact .ok _

theorem ProcedureTable.store_orderly [Distance α] (table : ProcedureTable) :
    (table.store : ProcedureStore α).Orderly :=
  table.store_failsFor lenient_orderly

theorem ProcedureStore.FailsFor.answersFor {store : ProcedureStore α} {reason : RouteError → Prop}
    (answers : store.FailsFor reason) : store.AnswersFor reason := by
  intro runway kind name
  unfold ProcedureStore.procedure?
  cases answer : store.procedure runway kind name with
  | ok procedure => exact .ok _
  | error failure =>
    split
    · exact .ok _
    · exact .ok _
    · rename_i same
      cases same
      exact .error (answers runway kind name failure answer)

variable [Distance α]

/-! ### Endpoints -/

namespace Endpoint

variable {graph : Graph α} {waypoint : Waypoint} {kind : ProcedureKind} {count : Nat}

/-- All nodes of a graph have direct links. -/
theorem mapM_direct {nodes : List Nat} (inside : ∀ node ∈ nodes, node < graph.size) :
    ∃ links, nodes.mapM (TerminalLink.direct graph waypoint) = .ok links ∧
      links.map (·.node) = nodes := by
  induction nodes with
  | nil => exact ⟨[], rfl, rfl⟩
  | cons node rest ih =>
    obtain ⟨own, place⟩ := Graph.waypoint_of_lt (inside node List.mem_cons_self)
    obtain ⟨links, further, same⟩ := ih fun other member => inside other (List.mem_cons_of_mem _ member)
    refine ⟨⟨node, direct, Distance.between waypoint own, [], none⟩ :: links, ?_, by simp [same]⟩
    rw [List.mapM_cons, TerminalLink.direct, place, further]
    rfl

theorem nearestLinks_ok (graph : Graph α) (waypoint : Waypoint) (count : Nat) :
    ∃ links, nearestLinks graph waypoint count = .ok links ∧
      links.map (·.node) = graph.nearest waypoint count :=
  mapM_direct fun _ member => Graph.lt_of_mem_nearest member

/-- **Every waypoint is an end of a search**, on the graph or joined to it at nodes. -/
theorem ofWaypoint_ok (graph : Graph α) (waypoint : Waypoint) (count : Nat) :
    ∃ endpoint, ofWaypoint graph waypoint count = .ok endpoint ∧ endpoint.Within graph.size := by
  unfold ofWaypoint
  split
  · rename_i node known
    exact ⟨_, rfl, Graph.lt_of_byWaypoint? known⟩
  · obtain ⟨links, linked, nodes⟩ := nearestLinks_ok graph waypoint count
    rw [linked]
    refine ⟨_, rfl, fun link member => ?_⟩
    have near : link.node ∈ graph.nearest waypoint count := nodes ▸ List.mem_map_of_mem member
    exact Graph.lt_of_mem_nearest near

/-- **All links of a runway** lead to nodes of the graph. -/
theorem ofRunway_within {terminal : Terminal α} {endpoint : Endpoint α}
    (found : ofRunway terminal kind count = .ok endpoint) : endpoint.Within terminal.graph.size := by
  obtain ⟨links, rfl, stems | ⟨_, nearest⟩⟩ := ofRunway_eq_ok found
  · intro link member
    obtain ⟨name, procedure, _, _, linked⟩ := stems link member
    obtain ⟨_, place, _, here, _⟩ := procedureLinks_cases linked
    exact Graph.lt_of_waypoints here
  · intro link member
    obtain ⟨place, here, _⟩ := mem_nearestLinks nearest member
    exact Graph.lt_of_waypoints here

/-- **A runway is an end of a search** unless the store fails. -/
theorem ofRunway_failsOnly {terminal : Terminal α} {reason : RouteError → Prop}
    (answers : terminal.store.AnswersFor reason) (kind : ProcedureKind) (count : Nat) :
    FailsOnly reason (ofRunway terminal kind count) := by
  have links : ∀ names, FailsOnly reason (linksOfNames terminal kind count names) := by
    intro names
    induction names with
    | nil => exact .ok _
    | cons name rest ih =>
      unfold linksOfNames
      exact (answers _ _ _).bind fun procedure _ => ih.bind fun others _ => .ok _
  unfold ofRunway
  refine (links _).bind fun found _ => ?_
  dsimp only
  split
  · obtain ⟨nearest, linked, _⟩ := nearestLinks_ok terminal.graph terminal.runway.threshold count
    rw [linked]
    exact .ok _
  · exact .ok _

end Endpoint

/-! ### Departures and arrivals -/

namespace Terminal

variable {terminal : Terminal α} {reason : RouteError → Prop} {tokens : List Token}

theorem waypointOf_failsOnly (tolerant : Tolerant reason)
    (unresolved : ∀ ident, reason (.unresolvedReference ident)) (wellFormed : terminal.graph.WellFormed)
    (token : Token) : FailsOnly reason (terminal.waypointOf token) := by
  unfold waypointOf
  split
  · dsimp only
    split
    · exact .ok _
    · exact .error (unresolved _)
  · split
    · rename_i node closest
      obtain ⟨place, here⟩ :=
        Graph.waypoint_of_lt (Graph.lt_of_closestByIdent? wellFormed closest)
      exact .of_ok here
    · exact .error (unresolved _)
  · exact .error (tolerant.malformed _)

omit [Distance α] in
theorem procedureOf_failsOnly (answers : terminal.store.AnswersFor reason) (kind : ProcedureKind)
    (token : Token) : FailsOnly reason (terminal.procedureOf kind token) := by
  unfold procedureOf
  split
  · exact answers _ _ _
  · exact .ok _

/-- What stays without a direct leg in front was there. -/
theorem mem_of_mem_skipDirect {token : Token} (member : token ∈ skipDirect tokens) :
    token ∈ tokens := by
  unfold skipDirect at member
  split at member
  · exact List.mem_cons_of_mem _ member
  · exact member

theorem graphCopy_ok (wellFormed : terminal.graph.WellFormed) (fix : Waypoint) :
    ∃ copy, terminal.graphCopy fix = .ok copy := by
  unfold graphCopy
  split
  · rename_i node known
    obtain ⟨place, here⟩ := Graph.waypoint_of_lt (Graph.lt_of_sameFix? wellFormed known)
    rw [here]
    exact ⟨_, rfl⟩
  · exact ⟨_, rfl⟩

theorem procedureDeparture_failsOnly (tolerant : Tolerant reason)
    (wellFormed : terminal.graph.WellFormed) (sid : Procedure α)
    (stands : ∀ token ∈ tokens, FailsOnly reason (terminal.waypointOf token)) :
    FailsOnly reason (terminal.procedureDeparture sid tokens) := by
  unfold procedureDeparture
  cases sid.last? with
  | none => exact .error (tolerant.store _)
  | some exit =>
    cases tokens with
    | nil => exact .error (tolerant.malformed _)
    | cons seam beyond =>
      dsimp only
      obtain ⟨copy, known⟩ := graphCopy_ok wellFormed exit
      rw [known, ok_bind]
      split
      · exact .error (tolerant.malformed _)
      · cases copy with
        | some own => exact .ok _
        | none =>
          dsimp only [bridgedDeparture]
          cases left : skipDirect beyond with
          | nil => exact .error (tolerant.malformed _)
          | cons enroute rest =>
            have kept : enroute ∈ skipDirect beyond := left ▸ List.mem_cons_self
            have listed := List.mem_cons_of_mem seam (mem_of_mem_skipDirect kept)
            exact (stands enroute listed).bind fun _ _ => .ok _

/-- **Reading a departure** fails for what the tokens say, for what they refer to, or for what the store
answers. -/
theorem departure_failsOnly (tolerant : Tolerant reason) (wellFormed : terminal.graph.WellFormed)
    (answers : terminal.store.AnswersFor reason)
    (stands : ∀ token ∈ tokens, FailsOnly reason (terminal.waypointOf token)) :
    FailsOnly reason (terminal.departure tokens) := by
  unfold departure
  split
  · exact .error (tolerant.malformed _)
  · rename_i first rest
    refine (procedureOf_failsOnly answers _ _).bind fun sid _ => ?_
    split
    · refine procedureDeparture_failsOnly tolerant wellFormed _ fun token member => ?_
      exact stands token (List.mem_cons_of_mem _ member)
    · exact (stands first List.mem_cons_self).bind fun _ _ => .ok _

theorem procedureArrival_failsOnly (tolerant : Tolerant reason)
    (wellFormed : terminal.graph.WellFormed) (star : Procedure α)
    (stands : ∀ token ∈ tokens, FailsOnly reason (terminal.waypointOf token)) :
    FailsOnly reason (terminal.procedureArrival star tokens) := by
  unfold procedureArrival
  cases star.first? with
  | none => exact .error (tolerant.store _)
  | some entry =>
    cases tokens with
    | nil => exact .error (tolerant.malformed _)
    | cons seam before =>
      dsimp only
      obtain ⟨copy, known⟩ := graphCopy_ok wellFormed entry
      rw [known, ok_bind]
      split
      · exact .error (tolerant.malformed _)
      · cases copy with
        | some own => exact .ok _
        | none =>
          dsimp only [bridgedArrival]
          cases left : skipDirect before with
          | nil => exact .error (tolerant.malformed _)
          | cons enroute rest =>
            have kept : enroute ∈ skipDirect before := left ▸ List.mem_cons_self
            have listed := List.mem_cons_of_mem seam (mem_of_mem_skipDirect kept)
            exact (stands enroute listed).bind fun _ _ => .ok _

/-- **Reading an arrival** fails for what the tokens say, for what they refer to, or for what the store
answers. -/
theorem arrival_failsOnly (tolerant : Tolerant reason) (wellFormed : terminal.graph.WellFormed)
    (answers : terminal.store.AnswersFor reason)
    (stands : ∀ token ∈ tokens, FailsOnly reason (terminal.waypointOf token)) :
    FailsOnly reason (terminal.arrival tokens) := by
  unfold arrival
  split
  · exact .error (tolerant.malformed _)
  · rename_i last before reversed
    have listed : ∀ token ∈ last :: before, token ∈ tokens := fun token member =>
      List.mem_reverse.mp (reversed ▸ member)
    refine (procedureOf_failsOnly answers _ _).bind fun star _ => ?_
    split
    · refine procedureArrival_failsOnly tolerant wellFormed _ fun token member => ?_
      exact stands token (listed token (List.mem_cons_of_mem _ member))
    · exact (stands last (listed last List.mem_cons_self)).bind fun _ _ => .ok _

end Terminal

end FlightRoute
