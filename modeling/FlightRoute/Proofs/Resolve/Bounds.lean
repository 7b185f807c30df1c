/-
**No request reads what is not there.**

Resolving a request goes by numbers throughout: of waypoints, of edges, of links and targets, of tokens and of
the fixes of a procedure. Where the graph is well formed every one of them stands for something. A request
changes the graph for a while, and at each step of that it stays well formed; so a request ends with a route or
with a failure that says something about the request (`Orderly`), whatever it asks for, whatever is published
and whatever is drawn. What a step of a request may fail for is put together from what its own steps may fail for,
whatever reasons these are, as long as they leave out nothing but what is looked up (`Tolerant`).

* `Graph.Navigable`: what is done in a graph keeps to its bounds;
* `WellFormed.navigable`: in a well-formed graph it does;
* `literalSegment_failsOnly`, `fill_failsOnly`, `resolveTokens_failsOnly`: the steps of a request;
* `Resolver.InBounds`, `resolve_inBounds`: whole requests, on the graph of a snapshot.
-/

import FlightRoute.Proofs.LiteralRun.Airways
import FlightRoute.Proofs.LiteralRun.Bounds
import FlightRoute.Proofs.RandomWalk.Bounds
import FlightRoute.Proofs.Resolve.Fill
import FlightRoute.Proofs.Resolve.Rollback
import FlightRoute.Proofs.Resolve.Tokens
import FlightRoute.Proofs.Terminal.Bounds

namespace FlightRoute

variable {σ α : Type} [Distance α] {graph : Graph α}

/-! ### What is done in a graph -/

/-- Whatever is looked up or searched for in the graph keeps to its bounds. -/
structure Graph.Navigable (graph : Graph α) : Prop where
  inBounds : graph.InBounds
  /-- A waypoint, on the graph or not, is joined to nodes. -/
  waypoints : ∀ waypoint count, ∃ endpoint, Endpoint.ofWaypoint graph waypoint count = .ok endpoint ∧
    endpoint.Within graph.size
  /-- A runway is joined to nodes, by its procedures or directly. -/
  runways : ∀ store runway kind count endpoint,
    Endpoint.ofRunway ⟨graph, store, runway⟩ kind count = .ok endpoint → endpoint.Within graph.size
  /-- The ends of a search are nodes, each with a number among the links. -/
  anchors : ∀ endpoint : Endpoint α, endpoint.Within graph.size →
    ∃ anchors, endpoint.anchors graph = .ok anchors ∧ ∀ anchor ∈ anchors, anchor.1 < graph.size
  searches : ∀ sources targets airway, graph.SearchInBounds sources targets airway
  /-- What stands for a waypoint in a random walk is a node. -/
  snaps : ∀ waypoint node, RandomWalk.snap? graph waypoint = some node → node < graph.size
  /-- A walk that was offered each of its edges is at a node, has been at nodes, and goes on from there. -/
  walks : ∀ start finish (progress : RandomWalk.Progress), start < graph.size →
    progress.Reached graph start finish →
      progress.node < graph.size ∧ (∀ node ∈ progress.visited, node < graph.size) ∧
        ∃ offered, RandomWalk.choices graph progress finish = .ok offered
  /-- Tokens that do not end with a direct leg are followed without looking behind the last of them. -/
  literals : ∀ (run : LiteralRun α) current route tokens, run.graph = graph → current < graph.size →
    LiteralRun.Ends tokens →
      FailsOnly (LiteralRun.Fault run.cancel) (run.follow current route tokens)

/-- **What is done in a well-formed graph** keeps to its bounds. -/
theorem Graph.WellFormed.navigable (wellFormed : graph.WellFormed) : graph.Navigable where
  inBounds := wellFormed.inBounds
  waypoints := Endpoint.ofWaypoint_ok graph
  runways _ _ _ _ _ := Endpoint.ofRunway_within
  anchors endpoint within := by
    obtain ⟨anchors, anchored⟩ := ShortestRoute.anchors_ok within
    exact ⟨anchors, anchored, ShortestRoute.anchors_hold within anchored⟩
  searches := searchInBounds wellFormed
  snaps _ _ := RandomWalk.snap?_lt
  walks start finish progress inside reached := by
    obtain ⟨here, been⟩ := reached.lt wellFormed inside
    exact ⟨here, been, RandomWalk.choices_ok wellFormed here⟩
  literals run current route tokens same inside ends := by
    subst same
    exact LiteralRun.follow_fault wellFormed inside ends

namespace Resolver

variable {resolver : Resolver σ α} {flight : Flight} {reason : RouteError → Prop} {tokens : List Token}

/-! ### Literal segments -/

theorem head_failsOnly (tolerant : Tolerant reason) (wellFormed : graph.WellFormed)
    (answers : resolver.store.AnswersFor reason) (isFirst : Bool)
    (stands : ∀ token ∈ tokens,
      FailsOnly reason ((resolver.terminal graph flight.origin).waypointOf token)) :
    FailsOnly reason (resolver.head graph flight isFirst tokens) := by
  cases isFirst with
  | true => exact (Terminal.departure_failsOnly tolerant wellFormed answers stands).bind fun _ _ => .ok _
  | false => exact .ok _

theorem tail_failsOnly (tolerant : Tolerant reason) (wellFormed : graph.WellFormed)
    (answers : resolver.store.AnswersFor reason) (isLast : Bool)
    (stands : ∀ token ∈ tokens,
      FailsOnly reason ((resolver.terminal graph flight.destination).waypointOf token)) :
    FailsOnly reason (resolver.tail graph flight isLast tokens) := by
  cases isLast with
  | true => exact (Terminal.arrival_failsOnly tolerant wellFormed answers stands).bind fun _ _ => .ok _
  | false => exact .ok _

theorem run_failsOnly (tolerant : Tolerant reason)
    (unresolved : ∀ ident, reason (.unresolvedReference ident)) {run : LiteralRun α}
    (wellFormed : run.graph.WellFormed) (tokens : List Token) :
    FailsOnly reason (run.resolve tokens) := by
  rcases LiteralRun.resolve_cases wellFormed tokens with
    ⟨_, refused⟩ | ⟨_, ⟨_, refused⟩ | ⟨_, only⟩⟩
  · exact refused ▸ .error (tolerant.malformed _)
  · exact refused ▸ .error (tolerant.malformed _)
  · exact only.mono fun _ => LiteralRun.Fault.tolerated tolerant unresolved

omit [Distance α] in
theorem connectAll_tolerated (tolerant : Tolerant reason) (routes : List (Route α)) :
    FailsOnly reason (Route.connectAll routes) := by
  refine (Route.connectAll_failsOnly routes).mono ?_
  rintro failure ⟨left, right, rfl⟩
  exact tolerant.mismatch left right

/-- **A literal segment** is resolved, or fails for what it says. -/
theorem literalSegment_failsOnly (tolerant : Tolerant reason)
    (unresolved : ∀ ident, reason (.unresolvedReference ident)) (wellFormed : graph.WellFormed)
    (answers : resolver.store.AnswersFor reason) (isFirst isLast : Bool) (tokens : List Token) :
    FailsOnly reason (resolver.literalSegment graph flight isFirst isLast tokens) := by
  have stands : ∀ runway token,
      FailsOnly reason ((resolver.terminal graph runway).waypointOf token) :=
    fun _ token => Terminal.waypointOf_failsOnly tolerant unresolved wellFormed token
  unfold literalSegment
  refine FailsOnly.bind ?_ fun ⟨head, body⟩ _ => FailsOnly.bind ?_ fun ⟨tail, rest⟩ _ => ?_
  · exact head_failsOnly tolerant wellFormed answers isFirst fun token _ => stands _ token
  · exact tail_failsOnly tolerant wellFormed answers isLast fun token _ => stands _ token
  · exact (run_failsOnly tolerant unresolved wellFormed rest).bind fun route _ =>
      connectAll_tolerated tolerant _

/-- Segments become pieces unless one of the literal ones fails. -/
theorem piecesFrom_failsOnly {segments : List Segment} (isFirst : Bool)
    (literal : ∀ isFirst isLast tokens, .literal tokens ∈ segments →
      FailsOnly reason (resolver.literalSegment graph flight isFirst isLast tokens)) :
    FailsOnly reason (resolver.piecesFrom graph flight isFirst segments) := by
  induction segments generalizing isFirst with
  | nil => exact .ok _
  | cons segment rest ih =>
    have behind := ih false fun isFirst isLast tokens member =>
      literal isFirst isLast tokens (List.mem_cons_of_mem _ member)
    rw [piecesFrom_cons]
    refine FailsOnly.bind ?_ fun piece _ => behind.bind fun _ _ => .ok _
    cases segment with
    | literal tokens =>
      exact (literal isFirst rest.isEmpty tokens List.mem_cons_self).bind fun _ _ => .ok _
    | auto => exact .ok _
    | rand => exact .ok _

/-! ### Fills -/

/-- **Both ends of a fill** are within the graph, unless the store fails. -/
theorem gapEnd_failsOnly (answers : resolver.store.AnswersFor reason) (runway : Runway)
    (kind : ProcedureKind) (side : Option Waypoint) :
    FailsOnly reason (resolver.gapEnd graph runway kind side) := by
  cases side with
  | some waypoint =>
    obtain ⟨endpoint, found, _⟩ := Endpoint.ofWaypoint_ok graph waypoint resolver.settings.terminalLinks
    exact .of_ok found
  | none => exact Endpoint.ofRunway_failsOnly answers _ _

theorem gapEnd_within {runway : Runway} {kind : ProcedureKind} {side : Option Waypoint}
    {endpoint : Endpoint α} (found : resolver.gapEnd graph runway kind side = .ok endpoint) :
    endpoint.Within graph.size := by
  cases side with
  | some waypoint =>
    obtain ⟨own, made, within⟩ := Endpoint.ofWaypoint_ok graph waypoint resolver.settings.terminalLinks
    cases made.symm.trans found
    exact within
  | none =>
    have own : endpoint.Within (resolver.terminal graph runway).graph.size :=
      Endpoint.ofRunway_within found
    exact own

theorem autoFill_failsOnly (tolerant : Tolerant reason) (wellFormed : graph.WellFormed)
    (answers : resolver.store.AnswersFor reason) (gap : Gap) :
    FailsOnly reason (resolver.autoFill graph flight gap) := by
  rw [autoFill_eq]
  refine (gapEnd_failsOnly answers _ _ _).bind fun start entered => ?_
  refine (gapEnd_failsOnly answers _ _ _).bind fun finish left => ?_
  refine (ShortestRoute.find_failsOnly wellFormed (gapEnd_within entered) (gapEnd_within left)).mono ?_
  rintro failure (⟨origin, destination, _, _, rfl⟩ | off)
  · exact tolerant.noPath _ _
  · exact off.tolerated tolerant

/-- **A fill** is a route, or fails for want of one. -/
theorem fill_failsOnly (tolerant : Tolerant reason) (wellFormed : graph.WellFormed)
    (answers : resolver.store.AnswersFor reason)
    (random : ∀ start finish draws, FailsOnly reason
      (resolver.random graph resolver.settings resolver.cancel start finish draws).1) (draws : σ)
    (fill : Fill α) : FailsOnly reason (resolver.fill graph flight draws fill).1 := by
  cases fill with
  | done route => exact .ok _
  | auto gap => exact autoFill_failsOnly tolerant wellFormed answers gap
  | rand gap => exact random _ _ _

/-- Fills are made one after the other unless one of them fails. -/
theorem fillAll_failsOnly (draws : σ) (fills : List (Fill α))
    (each : ∀ draws fill, FailsOnly reason (resolver.fill graph flight draws fill).1) :
    FailsOnly reason (resolver.fillAll graph flight draws fills).1 := by
  induction fills generalizing draws with
  | nil => exact .ok _
  | cons first rest ih =>
    have own := each draws first
    unfold fillAll
    split
    · rename_i failure behind here
      rw [here] at own
      exact .error (own failure rfl)
    · rename_i route middle here
      have others := ih middle
      split
      · rename_i failure behind there
        rw [there] at others
        exact .error (others failure rfl)
      · exact .ok _

/-! ### Requests -/

/-- **Tokens are resolved** on a well-formed graph unless a literal segment, the store or the source of random
routes fails. -/
theorem resolveTokens_failsOnly (tolerant : Tolerant reason) (wellFormed : graph.WellFormed)
    (answers : resolver.store.AnswersFor reason)
    (random : ∀ start finish draws, FailsOnly reason
      (resolver.random graph resolver.settings resolver.cancel start finish draws).1)
    (literal : ∀ segments, Segment.group tokens = .ok segments → ∀ isFirst isLast own,
      .literal own ∈ segments →
        FailsOnly reason (resolver.literalSegment graph flight isFirst isLast own)) (draws : σ) :
    FailsOnly reason (resolver.resolveTokens graph flight tokens draws).1 := by
  have reads : FailsOnly reason (Segment.group tokens >>= resolver.pieces graph flight) :=
    ((Segment.group_failsOnly tokens).mono fun _ => Malformed.tolerated tolerant).bind
      fun segments grouped => piecesFrom_failsOnly true (literal segments grouped)
  unfold resolveTokens
  split
  · rename_i failure early
    exact .error (reads failure early)
  · rename_i pieces read
    have filled : FailsOnly reason (resolver.fillAll graph flight draws (Piece.plan pieces)).1 :=
      fillAll_failsOnly _ _ (fill_failsOnly tolerant wellFormed answers random)
    split
    · rename_i failure behind stopped
      rw [stopped] at filled
      exact .error (filled failure rfl)
    · exact connectAll_tolerated tolerant _

/-- **A request is resolved** unless its tokens are not. -/
theorem resolve_failsOnly (tolerant : Tolerant reason) (request : RouteRequest) (draws : σ)
    (resolves : ∀ flight tokens, tokensOf request = .ok tokens → FailsOnly reason
      (resolver.resolveTokens (resolver.coordinateScope graph tokens).graph flight tokens draws).1) :
    FailsOnly reason (resolver.resolve graph request draws).outcome := by
  unfold resolve
  split
  · rename_i failure unknown
    obtain ⟨icao, runway, rfl⟩ := resolver.flight_failsOnly request failure unknown
    exact .error (tolerant.unknownRunway icao runway)
  · split
    · rename_i failure unread
      exact .error ((tokensOf_failsOnly request failure unread).tolerated tolerant)
    · exact .ok _
    · rename_i read
      exact resolves _ _ read

/-- **A request is resolved**, or fails for what it says. -/
theorem resolve_orderly (wellFormed : graph.WellFormed) (orderly : resolver.store.Orderly)
    (random : resolver.random.Orderly) (request : RouteRequest) (draws : σ) :
    FailsOnly Orderly (resolver.resolve graph request draws).outcome := by
  have tolerant : Tolerant Orderly := lenient_orderly.toTolerant
  have answers : resolver.store.AnswersFor Orderly := ProcedureStore.FailsFor.answersFor orderly
  refine resolve_failsOnly tolerant request draws fun flight tokens _ => ?_
  have formed := (coordinateScope_over wellFormed resolver tokens).wellFormed
  refine resolveTokens_failsOnly tolerant formed answers (fun _ _ _ => random _ _ _ _ _ _ formed) ?_ draws
  intro _ _ isFirst isLast own _
  exact literalSegment_failsOnly tolerant (fun _ _ => nofun) formed answers isFirst isLast own

/-- Nothing is read that is not there, whatever is asked for. -/
structure InBounds (resolver : Resolver σ α) (graph : Graph α) : Prop where
  /-- No request ends at a number that stands for nothing. -/
  outcome : ∀ request draws index,
    (resolver.resolve graph request draws).outcome ≠ .error (.outOfRange index)
  /-- Whatever has been taken into the graph, it keeps to its bounds, and so does what is done in it. -/
  scopes : ∀ links waypoints, (scopeOf graph links waypoints).InBounds ∧
    (scopeOf graph links waypoints).graph.Navigable
  /-- While a waypoint is taken in, both ends of each of its links are nodes. -/
  links : ∀ links waypoints waypoint count,
    ((scopeOf graph links waypoints).joined waypoint links count).InBounds ∧
      (scopeOf graph links waypoints).graph.size <
        ((scopeOf graph links waypoints).joined waypoint links count).graph.size
  /-- A run of tokens that is not refused at once has a last one, which is no direct leg. -/
  runs : ∀ run : LiteralRun α, run.graph.WellFormed → ∀ tokens,
    tokens = [] ∧ run.resolve tokens = .error (.grammar .emptySegment) ∨
      (∃ last, tokens.length = last + 1) ∧
        ((tokens.head?.any LiteralRun.isDirect ∨ tokens.getLast?.any LiteralRun.isDirect) ∧
            run.resolve tokens = .error (.grammar .danglingDirect) ∨
          LiteralRun.Ends tokens ∧
            FailsOnly (LiteralRun.Fault run.cancel) (run.resolve tokens))
  /-- The fixes inside a procedure are a slice of its waypoints. -/
  slices : ∀ runway kind name procedure, resolver.store.procedure runway kind name = .ok procedure →
    (procedure.legs.length ≤ 2 ∧ procedure.inner = []) ∨
      ∃ last, procedure.legs.length = last + 1 ∧ 1 < last ∧
        procedure.inner = (procedure.legs.extract 1 last).map (·.waypoint)

/-- **No request reads what is not there.** On the graph of a snapshot, with any airports, any published
procedures, any settings and whatever is drawn. -/
theorem resolve_inBounds {snapshot : Snapshot α} {navdata : Navdata α}
    (built : snapshot.build = .ok navdata) (airports : AirportTable) (procedures : ProcedureTable)
    (chooser : SearchSettings → RandomWalk.Chooser σ α) (settings : SearchSettings)
    (cancel : Option CancelFlag) :
    ({ airports, store := procedures.store, random := RandomWalk.source chooser, settings, cancel } :
      Resolver σ α).InBounds navdata.graph := by
  obtain ⟨graph, made, whole⟩ := bind_eq_ok.mp built
  cases whole
  have wellFormed : graph.WellFormed := (Snapshot.graph_built made).built.wellFormed
  refine ⟨fun request draws index failed => ?_, fun links waypoints => ?_,
    fun links waypoints waypoint count => ?_, fun run formed tokens => ?_, fun _ _ _ procedure _ => ?_⟩
  · exact resolve_orderly wellFormed procedures.store_orderly (RandomWalk.source_orderly chooser)
      request draws _ failed index rfl
  · have grown := scopeOf_over wellFormed links waypoints
    exact ⟨grown.inBounds wellFormed, grown.wellFormed.navigable⟩
  · have grown := scopeOf_over wellFormed links waypoints
    refine ⟨(Scope.joined_over wellFormed grown waypoint links count).inBounds wellFormed, ?_⟩
    rw [Scope.size_joined]
    exact Nat.lt_succ_self _
  · exact LiteralRun.resolve_cases formed tokens
  · exact procedure.inner_slice

/-- On the crossing a literal coordinate is joined to nodes that were there before, and a request that names
it ends in order. -/
theorem resolve_inBounds_crossing :
    ∃ navdata, LiteralRun.crossingSnapshot.build = .ok navdata ∧
      (scopeOf navdata.graph 2 [⟨"5020N", 50, -20⟩]).graph.Navigable ∧
      ∀ index, (({
          airports := planar.airports
          store := ProcedureTable.empty.store
          random := RandomWalk.source fun _ => RandomWalk.takesFirst } : Resolver Unit ℚ).resolve
        navdata.graph ⟨"KAAA", "09", "KBBB", "27", "5020N RAND B"⟩ ()).outcome ≠
          .error (.outOfRange index) := by
  obtain ⟨navdata, built, _⟩ := LiteralRun.crossingSnapshot_build
  have bounds := resolve_inBounds built planar.airports ProcedureTable.empty
    (fun _ => RandomWalk.takesFirst) {} none
  exact ⟨navdata, built, (bounds.scopes 2 _).2, bounds.outcome _ ()⟩

end Resolver

end FlightRoute
