/-
**No leg of a resolved route is made up.**

Five places give a route its legs: departures and arrivals, direct legs between tokens, legs along
airways, the edges of a shortest path, and the links at its ends. Each of them gives nothing but direct
legs, edges of the graph, and procedures at a runway; what it reads from the waypoints that were taken
in for the request are direct legs as well. So every leg of a route without random parts is a direct
one, an edge that the graph had before the request, or a published procedure at the runway where it
belongs. A procedure meets the network at its end by its own kind, so the store has to answer with the
kind that was asked for; and it may meet it at a position that was taken in for the request, if this one
bears the name of its end.

* `literalSegment_genuine`: a literal segment;
* `autoFill_genuine`: a shortest path between two pieces;
* `resolveTokens_genuine`: a route along tokens;
* `resolve_legs_genuine`: the route of a request;
* `resolve_legs_elsewhere`: where it is looser than one may think.
-/

import FlightRoute.Proofs.Graph.Injected
import FlightRoute.Proofs.Resolve.Continuity
import FlightRoute.Proofs.Resolve.Plain
import FlightRoute.Proofs.Resolve.Taken
import FlightRoute.Proofs.ShortestRoute.Genuine

namespace FlightRoute

variable {σ α : Type} [Distance α]

omit [Distance α] in
theorem Route.IsPath.first?_isSome {route : Route α} (path : route.IsPath) :
    route.first?.isSome := by
  obtain ⟨start, finish, runs⟩ := path
  rw [runs.first?]
  rfl

omit [Distance α] in
theorem Route.IsPath.last?_isSome {route : Route α} (path : route.IsPath) : route.last?.isSome := by
  obtain ⟨start, finish, runs⟩ := path
  rw [runs.last?]
  rfl

/-- The runway that a first part of the route leaves. -/
def Flight.leaves (flight : Flight) (isFirst : Bool) : Option Runway :=
  if isFirst then some flight.origin else none

/-- The runway that a last part of the route comes to. -/
def Flight.enters (flight : Flight) (isLast : Bool) : Option Runway :=
  if isLast then some flight.destination else none

namespace Piece

/-- A finished route is a path with genuine spans; nothing is filled in at random. -/
def IsGenuine (store : ProcedureStore α) (graph : Graph α) (origin destination : Option Runway) :
    Piece α → Prop
  | route r => r.IsPath ∧ Genuine store graph origin destination r.spans
  | auto => True
  | rand => False

/-- So is every piece; the first of them is the first of the route or not. -/
def AllGenuine (store : ProcedureStore α) (graph : Graph α) (flight : Flight) (isFirst : Bool) :
    List (Piece α) → Prop
  | [] => True
  | piece :: rest =>
    piece.IsGenuine store graph (flight.leaves isFirst) (flight.enters rest.isEmpty) ∧
      AllGenuine store graph flight false rest

omit [Distance α] in
theorem isRoute_iff {piece : Piece α} : piece.isRoute = true ↔ ∃ r, piece = .route r := by
  cases piece with
  | route r => simp [isRoute]
  | auto => simp [isRoute]
  | rand => simp [isRoute]

end Piece

namespace Resolver

variable {resolver : Resolver σ α} {graph : Graph α} {flight : Flight} {isFirst isLast : Bool}
  {tokens middle : List Token} {front back : Option (Route α)} {body route : Route α}

/-! ### Literal segments -/

theorem head_genuine (named : resolver.store.Named) (kinded : resolver.store.Kinded)
    (exactIndex : graph.ExactIndex)
    (read : resolver.head graph flight isFirst tokens = .ok (front, middle)) :
    ∀ part ∈ front, Genuine resolver.store graph (flight.leaves isFirst) none part.spans := by
  unfold head at read
  split at read
  · rename_i first
    obtain ⟨extraction, found, read⟩ := bind_eq_ok.mp read
    cases read
    rintro part ⟨⟩
    rw [first]
    exact Terminal.departure_genuine named kinded exactIndex found
  · cases read
    exact fun part given => nomatch given

theorem tail_genuine (named : resolver.store.Named) (kinded : resolver.store.Kinded)
    (exactIndex : graph.ExactIndex)
    (read : resolver.tail graph flight isLast tokens = .ok (back, middle)) :
    ∀ part ∈ back, Genuine resolver.store graph none (flight.enters isLast) part.spans := by
  unfold tail at read
  split at read
  · rename_i last
    obtain ⟨extraction, found, read⟩ := bind_eq_ok.mp read
    cases read
    rintro part ⟨⟩
    rw [last]
    exact Terminal.arrival_genuine named kinded exactIndex found
  · cases read
    exact fun part given => nomatch given

/-- **The spans of a literal segment** are genuine. -/
theorem literalSegment_genuine (named : resolver.store.Named) (kinded : resolver.store.Kinded)
    (wellFormed : graph.WellFormed)
    (resolved : resolver.literalSegment graph flight isFirst isLast tokens = .ok route) :
    route.IsPath ∧
      Genuine resolver.store graph (flight.leaves isFirst) (flight.enters isLast) route.spans := by
  obtain ⟨front, back, body, middle, parts, connected⟩ := literalSegment_eq_ok.mp resolved
  have paths := parts.paths wellFormed
  obtain ⟨behind, head, tail⟩ := parts.read
  have fronts := head_genuine named kinded wellFormed.exactIndex head
  have backs := tail_genuine named kinded wellFormed.exactIndex tail
  have plain : ∀ span ∈ body.spans, span.IsPlain graph := by
    obtain ⟨_, _, _, _, _, _, _, course⟩ := LiteralRun.resolve_course wellFormed parts.resolved
    exact course.spans
  refine connectAll_genuine ?_ (by simp) connected
  cases front with
  | none =>
    have bodyPath : body.IsPath := paths body (by simp)
    cases back with
    | none => exact ⟨bodyPath, genuine_plain plain⟩
    | some star => exact ⟨bodyPath, genuine_plain plain, paths star (by simp), backs star rfl⟩
  | some sid =>
    have bodyPath : body.IsPath := paths body (by simp)
    cases back with
    | none => exact ⟨paths sid (by simp), fronts sid rfl, bodyPath, genuine_plain plain⟩
    | some star =>
      exact ⟨paths sid (by simp), fronts sid rfl, bodyPath, genuine_plain plain,
        paths star (by simp), backs star rfl⟩

/-! ### Pieces -/

/-- **The pieces of segments** are genuine. -/
theorem piecesFrom_genuine (named : resolver.store.Named) (kinded : resolver.store.Kinded)
    (wellFormed : graph.WellFormed) {segments : List Segment} {pieces : List (Piece α)}
    (planned : ∀ segment ∈ segments, segment ≠ .rand)
    (read : resolver.piecesFrom graph flight isFirst segments = .ok pieces) :
    Piece.AllGenuine resolver.store graph flight isFirst pieces := by
  induction segments generalizing isFirst pieces with
  | nil =>
    cases read
    exact trivial
  | cons segment rest ih =>
    rw [piecesFrom_cons] at read
    obtain ⟨piece, here, read⟩ := bind_eq_ok.mp read
    obtain ⟨others, there, whole⟩ := bind_eq_ok.mp read
    cases whole
    have behind := ih (fun other member => planned other (List.mem_cons_of_mem _ member)) there
    refine ⟨?_, behind⟩
    rw [piecesFrom_isEmpty there]
    cases segment with
    | literal tokens =>
      obtain ⟨route, resolved, whole⟩ := bind_eq_ok.mp here
      cases whole
      exact literalSegment_genuine named kinded wellFormed resolved
    | auto =>
      cases here
      exact trivial
    | rand => exact absurd rfl (planned _ List.mem_cons_self)

/-! ### Shortest paths between the pieces -/

/-- **The spans of a shortest path that is filled in** are genuine. -/
theorem autoFill_genuine [Distance.Symmetric α] (wellFormed : graph.WellFormed) {gap : Gap}
    (found : resolver.autoFill graph flight gap = .ok route) :
    route.IsPath ∧ Genuine resolver.store graph (flight.leaves gap.before.isNone)
      (flight.enters gap.after.isNone) route.spans := by
  rw [autoFill_eq] at found
  obtain ⟨start, entered, found⟩ := bind_eq_ok.mp found
  obtain ⟨finish, left, found⟩ := bind_eq_ok.mp found
  have opens : start.Opens resolver.store graph (flight.leaves gap.before.isNone) := by
    cases known : gap.before with
    | none =>
      rw [known] at entered
      exact Endpoint.departure_opens wellFormed.exactIndex entered
    | some waypoint =>
      rw [known] at entered
      exact Endpoint.ofWaypoint_opens entered
  have closes : finish.Closes resolver.store graph (flight.enters gap.after.isNone) := by
    cases known : gap.after with
    | none =>
      rw [known] at left
      exact Endpoint.arrival_closes wellFormed.exactIndex left
    | some waypoint =>
      rw [known] at left
      exact Endpoint.ofWaypoint_closes left
  obtain ⟨_, _, _, _, runs⟩ := ShortestRoute.find_runs wellFormed found
  exact ⟨runs.isPath, ShortestRoute.find_genuine wellFormed opens closes found⟩

variable {previous : Option (Piece α)} {pieces : List (Piece α)} {routes : List (Route α)}
  {draws draws' : σ}

omit [Distance α] in
/-- The piece behind a command, or before it, is a finished route. -/
theorem isRoute_of_ne {piece other : Piece α} (differ : piece.isRoute ≠ other.isRoute)
    (command : other.isRoute = false) : ∃ r, piece = .route r := by
  rw [← Piece.isRoute_iff, ← Bool.not_eq_false]
  exact fun same => differ (same.trans command.symm)

/-- **The routes of all pieces** are paths with genuine spans. -/
theorem fillAll_genuine [Distance.Symmetric α] (wellFormed : graph.WellFormed)
    (all : Piece.AllGenuine resolver.store graph flight previous.isNone pieces)
    (alternate : ((previous.toList ++ pieces).map Piece.isRoute).IsChain (· ≠ ·))
    (before : ∀ r, previous = some (.route r) → r.IsPath)
    (filled : resolver.fillAll graph flight draws (Piece.planAfter previous pieces) =
      (.ok routes, draws')) :
    AllGenuine resolver.store graph (flight.leaves previous.isNone) (some flight.destination)
      routes := by
  induction pieces generalizing previous draws routes with
  | nil =>
    cases filled
    exact trivial
  | cons piece rest ih =>
    obtain ⟨route, middle, others, here, there, rfl⟩ := fillAll_cons filled
    obtain ⟨own, all⟩ := all
    have behind : ((piece :: rest).map Piece.isRoute).IsChain (· ≠ ·) := by
      cases previous with
      | none => exact alternate
      | some earlier => exact alternate.of_cons
    have leads : ∀ r, some piece = some (.route r) → r.IsPath := by
      intro r same
      cases same
      exact own.1
    have further : Piece.AllGenuine resolver.store graph flight (some piece).isNone rest := all
    have genuine := ih further behind leads there
    have first : route.IsPath ∧ Genuine resolver.store graph (flight.leaves previous.isNone)
        (flight.enters rest.isEmpty) route.spans := by
      cases piece with
      | route r =>
        cases here
        exact own
      | rand => exact own.elim
      | auto =>
        obtain ⟨found, _⟩ := Prod.mk.inj here
        have start : (previous.bind Piece.last?).isNone = previous.isNone := by
          cases previous with
          | none => rfl
          | some earlier =>
            obtain ⟨differ, _⟩ := List.isChain_cons_cons.mp alternate
            obtain ⟨r, rfl⟩ := isRoute_of_ne differ rfl
            obtain ⟨last, ends⟩ := Option.isSome_iff_exists.mp (before r rfl).last?_isSome
            show r.last?.isNone = false
            rw [ends]
            rfl
        have finish : (rest.head?.bind Piece.first?).isNone = rest.isEmpty := by
          cases rest with
          | nil => rfl
          | cons next more =>
            obtain ⟨differ, _⟩ := List.isChain_cons_cons.mp behind
            obtain ⟨r, rfl⟩ := isRoute_of_ne differ.symm rfl
            obtain ⟨first, begins⟩ := Option.isSome_iff_exists.mp all.1.1.first?_isSome
            show r.first?.isNone = false
            rw [begins]
            rfl
        rw [← start, ← finish]
        exact autoFill_genuine wellFormed found
    have lengths := fillAll_length there
    cases rest with
    | nil =>
      obtain rfl : others = [] := List.length_eq_zero_iff.mp lengths
      exact first
    | cons next more =>
      cases others with
      | nil => cases lengths
      | cons second more => exact ⟨first.1, first.2, genuine⟩

/-! ### Whole routes -/

/-- **The spans of a route along tokens** are genuine. -/
theorem resolveTokens_genuine [Distance.Symmetric α] (named : resolver.store.Named)
    (kinded : resolver.store.Kinded) (wellFormed : graph.WellFormed) (nonempty : tokens ≠ [])
    (planned : Token.rand ∉ tokens)
    (resolved : (resolver.resolveTokens graph flight tokens draws).1 = .ok route) :
    route.IsPath ∧ Genuine resolver.store graph (some flight.origin) (some flight.destination)
      route.spans := by
  obtain ⟨segments, pieces, routes, behind, grouped, read, filled, connected⟩ :=
    resolveTokens_eq_ok.mp resolved
  have more : routes ≠ [] := fillAll_ne_nil (pieces_ne_nil wellFormed nonempty grouped read) filled
  have literal : ∀ segment ∈ segments, segment ≠ .rand := by
    rintro segment member rfl
    refine planned ?_
    rw [← Segment.flatten_group grouped]
    exact List.mem_flatMap.mpr ⟨.rand, member, List.mem_singleton_self _⟩
  have alternate : (((none : Option (Piece α)).toList ++ pieces).map Piece.isRoute).IsChain
      (· ≠ ·) := (pieces_alternate wellFormed grouped read).2
  have start : Piece.AllGenuine resolver.store graph flight
      (none : Option (Piece α)).isNone pieces := piecesFrom_genuine named kinded wellFormed literal read
  have genuine := fillAll_genuine wellFormed start alternate (fun _ => nofun) filled
  exact connectAll_genuine genuine more connected

/-- **The scope of a request adds nothing but links.** -/
theorem coordinateScope_linked (resolver : Resolver σ α) (graph : Graph α) (tokens : List Token) :
    (resolver.coordinateScope graph tokens).graph.Linked graph := by
  unfold coordinateScope
  have start : graph.openScope.graph.Linked graph := .refl graph
  generalize graph.openScope = scope at start
  generalize RouteString.coordinates tokens = waypoints
  induction waypoints generalizing scope with
  | nil => exact start
  | cons waypoint rest ih =>
    refine ih _ ?_
    unfold injectMissing
    split
    · exact start
    · exact Scope.inject_linked start waypoint _

/-- **No leg of a resolved route is made up.** Without random parts every leg is a direct one, as long as
its waypoints are apart, or an edge that the graph had before the request, or a departure in front or an
arrival behind, as it was published for the runway of the flight. -/
theorem resolve_legs_genuine [Distance.Symmetric α] (built : graph.Built)
    (named : resolver.store.Named) (kinded : resolver.store.Kinded) {request : RouteRequest}
    (planned : ∀ tokens, tokensOf request = .ok tokens → Token.rand ∉ tokens)
    (resolved : (resolver.resolve graph request draws).outcome = .ok route) :
    ∃ flight tokens, resolver.flight request = .ok flight ∧ tokensOf request = .ok tokens ∧
      route.WellFormed ∧
      ∀ (position : Nat) (span : Span α), route.spans[position]? = some span →
        (span.IsDirect ∧ (Distance.Congruent α →
          span.leg.distance = Distance.between span.start span.finish)) ∨
        (∃ edge, span.Along graph edge) ∨
        (position = 0 ∧ span.Departs resolver.store (resolver.coordinateScope graph tokens).graph
          flight.origin) ∨
        (position + 1 = route.spans.length ∧ span.Arrives resolver.store
          (resolver.coordinateScope graph tokens).graph flight.destination) := by
  have exact {span : Span α} (isDirect : span.IsDirect) : Distance.Congruent α →
      span.leg.distance = Distance.between span.start span.finish :=
    fun _ => isDirect.distance_eq
  unfold resolve at resolved
  split at resolved
  · cases resolved
  · rename_i flight known
    split at resolved
    · cases resolved
    · rename_i read
      cases resolved
      have runs : Route.Runs flight.origin.threshold (directRoute flight : Route α).nodes
          flight.destination.threshold := .leg _ (.final _)
      refine ⟨flight, [], known, read, runs.wellFormed, fun position span here => ?_⟩
      obtain rfl := List.mem_singleton.mp (List.mem_of_getElem? here)
      exact Or.inl ⟨Span.isDirect_direct _ _, exact (Span.isDirect_direct _ _)⟩
    · rename_i tokens nonempty read
      have grown := coordinateScope_over built.wellFormed resolver tokens
      have linked := coordinateScope_linked resolver graph tokens
      obtain ⟨⟨start, finish, runs⟩, genuine⟩ :=
        resolveTokens_genuine named kinded grown.wellFormed nonempty (planned tokens read) resolved
      refine ⟨flight, tokens, known, read, runs.wellFormed, fun position span here => ?_⟩
      rcases genuine position span here with
        (isDirect | ⟨edge, along⟩) | ⟨first, _, ⟨⟩, departs⟩ | ⟨last, _, ⟨⟩, arrives⟩
      · exact Or.inl ⟨isDirect, exact isDirect⟩
      · rcases along.isDirect_or_along built.wellFormed grown linked with isDirect | before
        · exact Or.inl ⟨isDirect, exact isDirect⟩
        · exact Or.inr (Or.inl ⟨edge, before⟩)
      · exact Or.inr (Or.inr (Or.inl ⟨first, departs⟩))
      · exact Or.inr (Or.inr (Or.inr ⟨last, arrives⟩))

/-! ### Spans of every kind -/

/-- Every edge of the crossing belongs to one of two airways. -/
theorem crossing_airways {span : Span ℚ} {edge : Edge ℚ} (along : span.Along crossing edge) :
    span.leg.airway ∈ ["Y", "Z"] := by
  have all : ∀ edges ∈ crossing.outgoing.toList, ∀ edge ∈ edges.toList, edge.airway ∈ ["Y", "Z"] := by
    decide
  obtain ⟨node, edges, _, _, leaving, member, _, _, _, _, leg⟩ := along
  rw [leg]
  exact all edges (Array.mem_toList_iff.mpr (Array.mem_of_getElem? leaving)) edge
    (Array.mem_toList_iff.mpr member)

/-- A span with another name than these and the one of direct legs is not plain. -/
theorem not_isPlain_crossing {span : Span ℚ} (other : span.leg.airway ∉ [direct, "Y", "Z"]) :
    ¬span.IsPlain crossing := by
  rintro (isDirect | ⟨edge, along⟩)
  · exact other (isDirect.airway ▸ List.mem_cons_self)
  · exact other (List.mem_cons_of_mem _ (crossing_airways along))

/-- With a departure to the first waypoint of the crossing, and an arrival from a fix off the graph. -/
def charted : Resolver Unit ℚ :=
  { planar with
    store := ((ProcedureTable.empty.insert ⟨"KAAA", .sid, "DEP1", ["09"], [⟨"A", 0, 1⟩]⟩).insert
      ⟨"KBBB", .star, "ARR1", ["27"], [⟨"X", 1, 10⟩]⟩).store }

theorem charted_departure (rest : List Token) :
    (charted.terminal crossing eastbound.origin).departure (.ident "DEP1" :: .ident "A" :: rest) =
      .ok ⟨.ident "A" :: rest, .ofLeg ⟨"KAAA09", 0, 0⟩
        (Procedure.ofFixes "DEP1" .sid [⟨"A", 0, 1⟩] ⟨"KAAA09", 0, 0⟩ : Procedure ℚ).leg
        ⟨"A", 0, 1⟩⟩ := by
  let terminal := charted.terminal crossing eastbound.origin
  have published : terminal.store.procedure terminal.runway .sid "DEP1" =
      .ok (.ofFixes "DEP1" .sid [⟨"A", 0, 1⟩] ⟨"KAAA09", 0, 0⟩) := rfl
  have joins : terminal.graph.sameFix? ⟨"A", 0, 1⟩ = some 0 :=
    Graph.sameFix?_of_unique crossing_exactIndex (by decide) rfl (Distance.near_self _)
  exact Terminal.departure_joined published rfl joins rfl rfl rest

theorem charted_arrival (rest : List Token) :
    (charted.terminal crossing eastbound.destination).arrival
        (.ident "ARR1" :: .ident "X" :: .ident "B" :: rest).reverse =
      .ok ⟨(.ident "B" :: rest).reverse,
        ⟨[{ waypoint := ⟨"B", 0, 2⟩, leg := some (.direct (Distance.between ⟨"B", 0, 2⟩ ⟨"X", 1, 10⟩)) },
          { waypoint := ⟨"X", 1, 10⟩,
            leg := some (Procedure.ofFixes "ARR1" .star [⟨"X", 1, 10⟩] ⟨"KBBB27", 0, 10⟩).leg },
          .final ⟨"KBBB27", 0, 10⟩]⟩⟩ := by
  let terminal := charted.terminal crossing eastbound.destination
  have published : terminal.store.procedure terminal.runway .star "ARR1" =
      .ok (.ofFixes "ARR1" .star [⟨"X", 1, 10⟩] ⟨"KBBB27", 0, 10⟩) := rfl
  have unknown : terminal.graph.sameFix? ⟨"X", 1, 10⟩ = none :=
    Graph.sameFix?_of_unnamed crossing_exactIndex (by decide)
  have bearers : crossing.bearers "B" = [1] := by decide
  have meant : terminal.waypointOf (.ident "B") = .ok ⟨"B", 0, 2⟩ :=
    Terminal.waypointOf_of_unique crossing_exactIndex bearers rfl
  exact Terminal.arrival_bridged published rfl unknown rfl meant rest

/-- Between two pins a run over the crossing follows the airway. -/
theorem crossing_between {run : LiteralRun ℚ} {leg : Leg ℚ}
    (along : ShortestRoute.alongAirway crossing 0 [1] "Y" none =
      .ok (.ofLeg ⟨"A", 0, 1⟩ leg ⟨"B", 0, 2⟩))
    (crosses : run.graph = crossing) (free : run.cancel = none)
    (first : run.firstPin = some ⟨"A", 0, 1⟩) (last : run.lastPin = some ⟨"B", 0, 2⟩) :
    run.resolve [.ident "A", .ident "Y", .ident "B"] =
      .ok (.ofLeg ⟨"A", 0, 1⟩ leg ⟨"B", 0, 2⟩) := by
  have start : run.graph.byWaypoint? ⟨"A", 0, 1⟩ = some 0 :=
    crosses ▸ Graph.byWaypoint?_of_unique crossing_exactIndex (by decide) rfl (by decide)
  have finish : run.graph.byWaypoint? ⟨"B", 0, 2⟩ = some 1 :=
    crosses ▸ Graph.byWaypoint?_of_unique crossing_exactIndex (by decide) rfl (by decide)
  have targets : run.airwayTargets (.ident "B") true = .ok [1] :=
    LiteralRun.airwayTargets_of_pin last rfl finish
  refine LiteralRun.crossing_follows along crosses free ?_ targets
  rw [first, Option.some_or]
  exact LiteralRun.nodeOf_of_pin rfl rfl start _

/-- By the departure to the crossing, along it, and over the end of the arrival. -/
theorem charted_literalSegment : ∃ route,
    charted.literalSegment crossing eastbound true true
      [.ident "DEP1", .ident "A", .ident "Y", .ident "B", .ident "X", .ident "ARR1"] = .ok route ∧
      route.spans.map (·.leg.airway) = ["DEP1", "Y", direct, "ARR1"] := by
  have origin : ((⟨"A", 0, 1⟩ : Waypoint) == ⟨"A", 0, 1⟩) = true := by decide
  have target : ((⟨"B", 0, 2⟩ : Waypoint) == ⟨"B", 0, 2⟩) = true := by decide
  obtain ⟨leg, label, along⟩ := LiteralRun.crossing_alongAirway
  have segment := literalSegment_joined
    (charted_departure [.ident "Y", .ident "B", .ident "X", .ident "ARR1"])
    (charted_arrival [.ident "Y", .ident "A"]) (crossing_between along rfl rfl rfl rfl)
    ⟨_, _, rfl, rfl, origin⟩ ⟨_, _, rfl, rfl, target⟩
  exact ⟨_, segment, congrArg (["DEP1", ·, direct, "ARR1"]) label⟩

theorem charted_tokensOf : tokensOf ⟨"KAAA", "09", "KBBB", "27", "DEP1 A Y B X ARR1"⟩ =
    .ok [.ident "DEP1", .ident "A", .ident "Y", .ident "B", .ident "X", .ident "ARR1"] := by
  have parsed : RouteString.parse "DEP1 A Y B X ARR1" =
      .ok [.ident "DEP1", .ident "A", .ident "Y", .ident "B", .ident "X", .ident "ARR1"] :=
    RouteString.parse_words rfl rfl rfl
  exact tokensOf_of_parse parsed rfl rfl

theorem charted_flight (text : String) :
    charted.flight ⟨"KAAA", "09", "KBBB", "27", text⟩ = .ok eastbound := planar_flight text

theorem charted_resolve : ∃ route,
    (charted.resolve crossing ⟨"KAAA", "09", "KBBB", "27", "DEP1 A Y B X ARR1"⟩ ()).outcome =
      .ok route ∧ route.spans.map (·.leg.airway) = ["DEP1", "Y", direct, "ARR1"] := by
  have plain : ∀ token ∈ [Token.ident "DEP1", .ident "A", .ident "Y", .ident "B", .ident "X",
      .ident "ARR1"], token.isCommand = false := by decide
  obtain ⟨route, segment, airways⟩ := charted_literalSegment
  refine ⟨route, ?_, airways⟩
  rw [resolve_plain (charted_flight _) charted_tokensOf (List.cons_ne_nil _ _) plain,
    coordinateScope_plain rfl, segment]

/-- A departure, an edge, a direct leg and an arrival, one after the other. -/
theorem resolve_legs_genuine_crossing :
    crossing.Built ∧ charted.store.Named ∧ charted.store.Kinded ∧ Distance.Congruent ℚ ∧
      ∃ route departure airway way arrival,
        (charted.resolve crossing ⟨"KAAA", "09", "KBBB", "27", "DEP1 A Y B X ARR1"⟩ ()).outcome =
          .ok route ∧
        route.WellFormed ∧ route.spans = [departure, airway, way, arrival] ∧
        departure.Departs charted.store crossing eastbound.origin ∧
        (∃ edge, airway.Along crossing edge) ∧
        way.leg.distance = Distance.between way.start way.finish ∧ way.IsDirect ∧
        arrival.Arrives charted.store crossing eastbound.destination := by
  have named : charted.store.Named := ProcedureTable.store_named _
  have kinded : charted.store.Kinded := ProcedureTable.store_kinded _
  have planned : ∀ tokens, tokensOf ⟨"KAAA", "09", "KBBB", "27", "DEP1 A Y B X ARR1"⟩ = .ok tokens →
      Token.rand ∉ tokens := by
    intro tokens same
    cases charted_tokensOf.symm.trans same
    simp
  obtain ⟨route, resolved, airways⟩ := charted_resolve
  obtain ⟨flight, tokens, known, read, formed, kinds⟩ :=
    resolve_legs_genuine crossing_built named kinded planned resolved
  cases (charted_flight _).symm.trans known
  cases charted_tokensOf.symm.trans read
  rw [coordinateScope_plain rfl] at kinds
  obtain ⟨departure, _, split, first, airways⟩ := List.map_eq_cons_iff.mp airways
  obtain ⟨airway, _, rfl, second, airways⟩ := List.map_eq_cons_iff.mp airways
  obtain ⟨way, _, rfl, third, airways⟩ := List.map_eq_cons_iff.mp airways
  obtain ⟨arrival, _, rfl, fourth, nothing⟩ := List.map_eq_cons_iff.mp airways
  cases List.map_eq_nil_iff.mp nothing
  rw [split] at kinds
  have departs : departure.Departs charted.store crossing eastbound.origin := by
    have other : ¬departure.IsPlain crossing := not_isPlain_crossing (first ▸ by decide)
    rcases kinds 0 departure rfl with ⟨isDirect, _⟩ | along | ⟨_, departs⟩ | ⟨last, _⟩
    · exact absurd (Or.inl isDirect) other
    · exact absurd (Or.inr along) other
    · exact departs
    · cases last
  have edge : ∃ edge, airway.Along crossing edge := by
    rcases kinds 1 airway rfl with ⟨isDirect, _⟩ | along | ⟨front, _⟩ | ⟨last, _⟩
    · exact absurd (second.symm.trans isDirect.airway) (by decide)
    · exact along
    · cases front
    · cases last
  have straight : way.leg.distance = Distance.between way.start way.finish ∧ way.IsDirect := by
    rcases kinds 2 way rfl with ⟨isDirect, measured⟩ | ⟨_, along⟩ | ⟨front, _⟩ | ⟨last, _⟩
    · exact ⟨measured inferInstance, isDirect⟩
    · exact absurd (third ▸ crossing_airways along) (by decide)
    · cases front
    · cases last
  have arrives : arrival.Arrives charted.store crossing eastbound.destination := by
    have other : ¬arrival.IsPlain crossing := not_isPlain_crossing (fourth ▸ by decide)
    rcases kinds 3 arrival rfl with ⟨isDirect, _⟩ | along | ⟨front, _⟩ | ⟨_, arrives⟩
    · exact absurd (Or.inl isDirect) other
    · exact absurd (Or.inr along) other
    · cases front
    · exact arrives
  exact ⟨crossing_built, named, kinded, inferInstance, route, departure, airway, way, arrival, resolved,
    formed, split, departs, edge, straight.1, straight.2, arrives⟩

/-! ### Departures that meet the network elsewhere -/

/-- A departure that meets the network elsewhere, in front of another leg, is not genuine. -/
theorem not_genuine_of_elsewhere {store : ProcedureStore ℚ} {runway : Runway} {destination : Option Runway}
    {span next : Span ℚ} {procedure : Procedure ℚ} {fix : Waypoint}
    (published : store.procedure runway .sid span.leg.airway = .ok procedure)
    (ends : procedure.enrouteEnd? = some fix) (apart : (fix == span.finish) = false)
    (own : (fix == fix) = true) (uncharted : crossing.bearers fix.ident = [])
    (named : span.leg.airway ∉ [direct, "Y", "Z"]) :
    ¬Genuine store crossing (some runway) destination [span, next] := by
  intro genuine
  rcases genuine 0 span rfl with plain | ⟨_, _, ⟨⟩, departs⟩ | ⟨last, _⟩
  · exact not_isPlain_crossing named plain
  · obtain ⟨other, known, _, _, place, meets, either⟩ := departs.leg.published
    cases published.symm.trans known
    cases ends.symm.trans meets
    rcases either with (rfl | agrees) | ⟨node, copy, here, bears, _⟩
    · rw [own] at apart
      cases apart
    · rw [agrees] at apart
      cases apart
    · have carried : node ∈ crossing.bearers fix.ident := Graph.mem_bearers.mpr ⟨copy, here, bears⟩
      rw [uncharted] at carried
      cases carried
  · cases last

/-- With a store that keeps a departure of the runway as an arrival. -/
def misfiled : Resolver Unit ℚ :=
  { planar with
    store := {
      procedure := fun runway kind name =>
        if kind = .sid ∧ name = "DEP1" then
          .ok { Procedure.ofFixes name .sid [⟨"A", 0, 1⟩] runway.threshold with kind := .star }
        else .error (.procedureNotFound name runway.designator)
      names := fun _ _ => [] } }

theorem misfiled_named : misfiled.store.Named := by
  intro runway kind name procedure found
  change (if kind = .sid ∧ name = "DEP1" then _ else _) = _ at found
  split at found
  · cases found
    rfl
  · cases found

/-- The departure is flown to its last waypoint. -/
theorem misfiled_resolve :
    (misfiled.resolve crossing ⟨"KAAA", "09", "KBBB", "27", "DEP1 A"⟩ ()).outcome = .ok
      ⟨[{ waypoint := ⟨"KAAA09", 0, 0⟩, leg := some (Procedure.leg
          { Procedure.ofFixes "DEP1" .sid [⟨"A", 0, 1⟩] ⟨"KAAA09", 0, 0⟩ with kind := .star }) },
        { waypoint := ⟨"A", 0, 1⟩,
          leg := some (.direct (Distance.between ⟨"A", 0, 1⟩ ⟨"KBBB27", 0, 10⟩)) },
        .final ⟨"KBBB27", 0, 10⟩]⟩ := by
  have parsed : RouteString.parse "DEP1 A" = .ok [.ident "DEP1", .ident "A"] :=
    RouteString.parse_words rfl rfl rfl
  have read : tokensOf ⟨"KAAA", "09", "KBBB", "27", "DEP1 A"⟩ = .ok [.ident "DEP1", .ident "A"] :=
    tokensOf_of_parse parsed rfl rfl
  have known : misfiled.flight ⟨"KAAA", "09", "KBBB", "27", "DEP1 A"⟩ = .ok eastbound :=
    planar_flight _
  have bearers : crossing.bearers "A" = [0] := by decide
  have own : ((⟨"A", 0, 1⟩ : Waypoint) == ⟨"A", 0, 1⟩) = true := by decide
  have node : crossing.byWaypoint? ⟨"A", 0, 1⟩ = some 0 :=
    Graph.byWaypoint?_of_unique crossing_exactIndex bearers rfl own
  have copied : crossing.sameFix? ⟨"A", 0, 1⟩ = some 0 :=
    Graph.sameFix?_of_unique crossing_exactIndex bearers rfl (Distance.near_self _)
  have meant : (misfiled.terminal crossing eastbound.destination).waypointOf (.ident "A") =
      .ok ⟨"A", 0, 1⟩ := Terminal.waypointOf_of_unique crossing_exactIndex bearers rfl
  rw [resolve_plain known read (List.cons_ne_nil _ _) (by decide), coordinateScope_plain rfl]
  exact literalSegment_departs rfl rfl copied rfl rfl rfl meant rfl rfl own node

/-- With a departure to a fix whose name is read as a position close to it. -/
def offshore : Resolver Unit ℚ :=
  { planar with
    store := (ProcedureTable.empty.insert ⟨"KAAA", .sid, "DEP1", ["09"], [⟨"5020N", 50, -19⟩]⟩).store }

/-- The departure is flown to the position that the request gives. -/
theorem offshore_resolve :
    (offshore.resolve crossing ⟨"KAAA", "09", "KBBB", "27", "DEP1 5020N"⟩ ()).outcome = .ok
      ⟨[{ waypoint := ⟨"KAAA09", 0, 0⟩,
          leg := some (Procedure.ofFixes "DEP1" .sid [⟨"5020N", 50, -19⟩] ⟨"KAAA09", 0, 0⟩).leg },
        { waypoint := ⟨"5020N", Position.northwestern.lat, Position.northwestern.lon⟩,
          leg := some (.direct (Distance.between
            ⟨"5020N", Position.northwestern.lat, Position.northwestern.lon⟩ ⟨"KBBB27", 0, 10⟩)) },
        .final ⟨"KBBB27", 0, 10⟩]⟩ := by
  let literal : Waypoint := ⟨"5020N", Position.northwestern.lat, Position.northwestern.lon⟩
  let tokens : List Token := [.ident "DEP1", .coordinate "5020N" .northwestern]
  have classified : ["DEP1", "5020N"].mapM Token.classify = .ok tokens := by
    rw [List.mapM_cons, List.mapM_cons, Token.classify_literal]
    rfl
  have parsed : RouteString.parse "DEP1 5020N" = .ok tokens :=
    RouteString.parse_words rfl rfl classified
  have read : tokensOf ⟨"KAAA", "09", "KBBB", "27", "DEP1 5020N"⟩ = .ok tokens :=
    tokensOf_of_parse parsed rfl rfl
  have known : offshore.flight ⟨"KAAA", "09", "KBBB", "27", "DEP1 5020N"⟩ = .ok eastbound :=
    planar_flight _
  rw [resolve_plain known read (List.cons_ne_nil _ _) (by decide)]
  have unknown : crossing.has literal = false := by
    rw [Graph.has, ← Array.any_toList]
    rfl
  have pushed : (offshore.coordinateScope crossing tokens).graph.waypoints =
      crossing.waypoints.push literal := coordinateScope_push crossing_built.wellFormed offshore rfl unknown
  have exactIndex :=
    (coordinateScope_over crossing_built.wellFormed offshore tokens).wellFormed.exactIndex
  generalize (offshore.coordinateScope crossing tokens).graph = graph at pushed exactIndex ⊢
  have bearers : graph.bearers "5020N" = [3] := by
    have same : graph.bearers "5020N" = (crossing.addWaypoint literal).bearers "5020N" :=
      Graph.bearers_congr pushed _
    rw [same, Graph.bearers_addWaypoint]
    decide
  have here : graph.waypoints[3]? = some literal := by
    rw [pushed]
    rfl
  have own : (literal == literal) = true := by decide
  have node : graph.byWaypoint? literal = some 3 :=
    Graph.byWaypoint?_of_unique exactIndex bearers here own
  have copied : graph.sameFix? ⟨"5020N", 50, -19⟩ = some 3 :=
    Graph.sameFix?_of_unique exactIndex bearers here (by decide +kernel)
  have meant : (offshore.terminal graph eastbound.destination).waypointOf
      (.coordinate "5020N" .northwestern) = .ok literal := Terminal.waypointOf_of_known node
  exact literalSegment_departs rfl rfl copied here rfl rfl meant rfl rfl own node

/-- **Departures that do not end where they meet the network.** A store that answers with the name asked for may
still answer with a procedure of the other kind, whose end is the runway itself; and where a request names a
position close to the end of a departure, the departure is flown to that position, which is nowhere in the graph
before the request. -/
theorem resolve_legs_elsewhere :
    (misfiled.store.Named ∧ ∃ route,
      (misfiled.resolve crossing ⟨"KAAA", "09", "KBBB", "27", "DEP1 A"⟩ ()).outcome = .ok route ∧
      ¬Genuine misfiled.store crossing (some eastbound.origin) (some eastbound.destination)
        route.spans) ∧
    offshore.store.Named ∧ offshore.store.Kinded ∧ ∃ route,
      (offshore.resolve crossing ⟨"KAAA", "09", "KBBB", "27", "DEP1 5020N"⟩ ()).outcome = .ok route ∧
      ¬Genuine offshore.store crossing (some eastbound.origin) (some eastbound.destination)
        route.spans := by
  refine ⟨⟨misfiled_named, _, misfiled_resolve, ?_⟩, ProcedureTable.store_named _,
    ProcedureTable.store_kinded _, _, offshore_resolve, ?_⟩
  · exact not_genuine_of_elsewhere rfl rfl (by decide) (by decide) (by decide) (by decide)
  · exact not_genuine_of_elsewhere rfl rfl (by decide) (by decide) (by decide) (by decide)

end Resolver

end FlightRoute
