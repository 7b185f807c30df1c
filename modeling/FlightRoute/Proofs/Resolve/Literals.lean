/-
**A literal coordinate is always found.**

What a literal coordinate stands for is looked up in several places: where a departure or an arrival meets the
network, behind an airway, at the end of a direct leg, and again by the waypoint that was found at a seam. By
then it is in the graph, since it is taken in before the tokens are resolved. What is looked up in its stead is
found as well: a seam is the coordinate's own waypoint or the graph's copy of a fix, and either one agrees with
itself (`Graph.Finds`). So whatever else may be missing, it does not bear the name of a literal coordinate
(`SparesLiterals`).

* `waypointOf_finds`, `departure_finds`, `arrival_finds`: what is found where the network is met;
* `nodeOf_spares`, `airwayLeg_spares`, `resolve_spares`: following tokens;
* `literalSegment_spares`: a segment with both its ends;
* `resolve_findsLiterals`: whole requests.
-/

import FlightRoute.Proofs.Distance.GreatCircle
import FlightRoute.Proofs.Resolve.Bounds
import FlightRoute.Proofs.Resolve.Taken

namespace FlightRoute

variable {σ α : Type}

/-! ### Names -/

/-- A text that is read as a literal coordinate. -/
def IsLiteral (text : String) : Prop :=
  ∃ position, Token.classify text = .ok (.coordinate text position)

/-- A token that is written like a literal coordinate is one. -/
theorem Token.IsRead.coordinateWaypoint_isSome {token : Token} (read : token.IsRead)
    (literal : IsLiteral token.text) : token.coordinateWaypoint.isSome := by
  obtain ⟨position, named⟩ := literal
  have same : token = .coordinate token.text position := Except.ok.inj (read.symm.trans named)
  rw [same]
  rfl

/-- A failure that does not say that something is missing in the graph. -/
def MissesNothing (failure : RouteError) : Prop := ∀ text, failure ≠ .unresolvedReference text

/-- A failure that does not say that a literal coordinate is missing. -/
def SparesLiterals (failure : RouteError) : Prop :=
  ∀ text, failure = .unresolvedReference text → ¬IsLiteral text

theorem MissesNothing.spares {failure : RouteError} (misses : MissesNothing failure) :
    SparesLiterals failure :=
  fun text same => absurd same (misses text)

theorem lenient_missesNothing : Lenient MissesNothing where
  malformed _ _ := nofun
  noPath _ _ _ := nofun
  mismatch _ _ _ := nofun
  unknownRunway _ _ _ := nofun
  unpublished _ _ _ := nofun
  store _ _ := nofun
  cancelled _ := nofun

theorem lenient_sparesLiterals : Lenient SparesLiterals :=
  lenient_missesNothing.mono fun _ => MissesNothing.spares

/-- What is missing is no literal coordinate when it is not written like one. -/
theorem sparesLiterals_of_not {text : String} (other : ¬IsLiteral text) :
    SparesLiterals (.unresolvedReference text) := by
  rintro _ ⟨⟩
  exact other

/-- A waypoint that is found if it bears the name of a literal coordinate. -/
def Graph.Finds (graph : Graph α) (waypoint : Waypoint) : Prop :=
  IsLiteral waypoint.ident → (graph.byWaypoint? waypoint).isSome

/-- A token that is what it is read as, and that is found if it is a literal coordinate. -/
structure Token.Known (graph : Graph α) (token : Token) : Prop where
  isRead : token.IsRead
  found : ∀ waypoint, token.coordinateWaypoint = some waypoint → (graph.byWaypoint? waypoint).isSome

theorem Token.Known.not_isLiteral {graph : Graph α} {token : Token} (known : token.Known graph)
    (other : token.coordinateWaypoint = none) : ¬IsLiteral token.text := by
  intro literal
  have position := known.isRead.coordinateWaypoint_isSome literal
  rw [other] at position
  cases position

variable [Distance α]

/-- A waypoint that is close enough to a fix to be the same has coordinates, and agrees with itself. -/
def Graph.Placed (graph : Graph α) : Prop :=
  ∀ own ∈ graph.waypoints, ∀ fix,
    Distance.le (Distance.between own fix : α) Distance.sameFix = true → (own == own) = true

theorem Graph.Comparable.placed {graph : Graph α} (comparable : graph.Comparable) : graph.Placed :=
  fun own member _ _ => comparable own member

/-- **On floats every graph is such a graph**: what has no position is close to nothing. -/
theorem Graph.placed_float (keeps : Distance.TrigonometryKeepsNaN) (graph : Graph Float) : graph.Placed :=
  fun _ _ _ near => Distance.greatCircle_placed keeps (of_decide_eq_true near)

/-! ### Where the network is met -/

namespace Terminal

variable {terminal : Terminal α} {token : Token} {waypoint : Waypoint} {tokens : List Token}
  {extraction : Extraction α}

theorem waypointOf_spares (wellFormed : terminal.graph.WellFormed)
    (known : token.Known terminal.graph) : FailsOnly SparesLiterals (terminal.waypointOf token) := by
  unfold waypointOf
  split
  · dsimp only
    rw [if_pos (known.found _ rfl)]
    exact .ok _
  · split
    · rename_i closest
      obtain ⟨place, here⟩ :=
        Graph.waypoint_of_lt (Graph.lt_of_closestByIdent? wellFormed closest)
      exact .of_ok here
    · exact .error (sparesLiterals_of_not (known.not_isLiteral rfl))
  · exact .error (lenient_sparesLiterals.malformed _)

/-- **What a token stands for** is found if it bears the name of a literal coordinate. -/
theorem waypointOf_finds (exactIndex : terminal.graph.ExactIndex) (known : token.Known terminal.graph)
    (stands : terminal.waypointOf token = .ok waypoint) : terminal.graph.Finds waypoint := by
  have named := (waypointOf_named exactIndex stands).1
  cases literal : token.coordinateWaypoint with
  | none =>
    rw [Graph.Finds, ← named]
    exact fun other => absurd other (known.not_isLiteral literal)
  | some exact =>
    cases token with
    | coordinate text position =>
      unfold waypointOf at stands
      dsimp only at stands
      rw [if_pos (known.found _ rfl)] at stands
      cases stands
      exact fun _ => known.found _ rfl
    | _ => cases literal

/-- **The graph's copy of a fix** is found. -/
theorem graphCopy_finds (exactIndex : terminal.graph.ExactIndex) (placed : terminal.graph.Placed)
    {fix : Waypoint} (found : terminal.graphCopy fix = .ok (some waypoint)) :
    terminal.graph.Finds waypoint := by
  obtain ⟨node, own, here, _, near, same⟩ := graphCopy_copies exactIndex found
  have agrees : (own == waypoint) = true := by
    rcases same with rfl | agrees
    · exact placed own (Array.mem_of_getElem? here) fix near
    · exact agrees
  exact fun _ => Graph.byWaypoint?_isSome exactIndex here agrees

/-- **A departure** meets the network at a waypoint that is found. -/
theorem departure_finds (exactIndex : terminal.graph.ExactIndex) (placed : terminal.graph.Placed)
    (known : ∀ token ∈ tokens, token.Known terminal.graph)
    (found : terminal.departure tokens = .ok extraction) :
    ∃ seam, extraction.route.last? = some seam ∧ terminal.graph.Finds seam := by
  unfold departure at found
  split at found
  · cases found
  · rename_i first rest
    obtain ⟨sid?, _, found⟩ := bind_eq_ok.mp found
    cases sid? with
    | none =>
      -- No departure is named: the route meets the network at the first token.
      obtain ⟨waypoint, stands, found⟩ := bind_eq_ok.mp found
      cases found
      exact ⟨waypoint, rfl, waypointOf_finds exactIndex (known first List.mem_cons_self) stands⟩
    | some sid =>
      obtain ⟨exit, seam, beyond, _, rfl, _, found⟩ := procedureDeparture_eq_ok found
      obtain ⟨copy?, copied, found⟩ := bind_eq_ok.mp found
      cases copy? with
      | some copy =>
        cases found
        exact ⟨copy, rfl, graphCopy_finds exactIndex placed copied⟩
      | none =>
        dsimp only [bridgedDeparture] at found
        -- The graph does not know the end: the route meets the network at the token beyond it.
        split at found
        · cases found
        · rename_i enroute others left
          have listed : enroute ∈ beyond := mem_of_mem_skipDirect (left ▸ List.mem_cons_self)
          obtain ⟨waypoint, stands, found⟩ := bind_eq_ok.mp found
          cases found
          exact ⟨waypoint, rfl, waypointOf_finds exactIndex (known enroute (by simp [listed])) stands⟩

/-- **An arrival** meets the network at a waypoint that is found. -/
theorem arrival_finds (exactIndex : terminal.graph.ExactIndex) (placed : terminal.graph.Placed)
    (known : ∀ token ∈ tokens, token.Known terminal.graph)
    (found : terminal.arrival tokens = .ok extraction) :
    ∃ seam, extraction.route.first? = some seam ∧ terminal.graph.Finds seam := by
  unfold arrival at found
  split at found
  · cases found
  · rename_i last before reversed
    replace known : ∀ token ∈ last :: before, token.Known terminal.graph := fun token member =>
      known token (List.mem_reverse.mp (reversed ▸ member))
    obtain ⟨star?, _, found⟩ := bind_eq_ok.mp found
    cases star? with
    | none =>
      obtain ⟨waypoint, stands, found⟩ := bind_eq_ok.mp found
      cases found
      exact ⟨waypoint, rfl, waypointOf_finds exactIndex (known last List.mem_cons_self) stands⟩
    | some star =>
      obtain ⟨entry, seam, rest, _, rfl, _, found⟩ := procedureArrival_eq_ok found
      obtain ⟨copy?, copied, found⟩ := bind_eq_ok.mp found
      cases copy? with
      | some copy =>
        cases found
        exact ⟨copy, rfl, graphCopy_finds exactIndex placed copied⟩
      | none =>
        dsimp only [bridgedArrival] at found
        split at found
        · cases found
        · rename_i enroute others left
          have listed : enroute ∈ rest := mem_of_mem_skipDirect (left ▸ List.mem_cons_self)
          obtain ⟨waypoint, stands, found⟩ := bind_eq_ok.mp found
          cases found
          exact ⟨waypoint, rfl, waypointOf_finds exactIndex (known enroute (by simp [listed])) stands⟩

end Terminal

/-! ### Following tokens -/

namespace LiteralRun

variable {run : LiteralRun α} {token : Token} {tokens : List Token} {current : Nat} {route : Route α}
  {isLast : Bool}

/-- The tokens are known, and so are the waypoints that the first and the last of them are pinned to. -/
structure Ready (run : LiteralRun α) (tokens : List Token) : Prop where
  tokens : ∀ token ∈ tokens, token.Known run.graph
  firstPin : ∀ pin, run.firstPin = some pin → run.graph.Finds pin
  lastPin : ∀ pin, run.lastPin = some pin → run.graph.Finds pin

omit [Distance α] in
theorem nodeOfWaypoint_spares {waypoint : Waypoint} (finds : run.graph.Finds waypoint) :
    FailsOnly SparesLiterals (run.nodeOfWaypoint waypoint) := by
  unfold nodeOfWaypoint
  split
  · exact .ok _
  · rename_i unknown
    refine .error (sparesLiterals_of_not fun literal => ?_)
    have known := finds literal
    rw [unknown] at known
    cases known

theorem nodeOf_spares (known : token.Known run.graph) (near : Waypoint) {pin : Option Waypoint}
    (finds : ∀ waypoint, pin = some waypoint → run.graph.Finds waypoint) :
    FailsOnly SparesLiterals (run.nodeOf token near pin) := by
  unfold nodeOf
  split
  · exact .error (lenient_sparesLiterals.malformed _)
  · split
    · rename_i pinned
      exact nodeOfWaypoint_spares (finds _ (Option.filter_eq_some_iff.mp pinned).1)
    · rename_i literal
      exact nodeOfWaypoint_spares fun _ => known.found _ literal
    · rename_i other
      split
      · exact .ok _
      · exact .error (sparesLiterals_of_not (known.not_isLiteral other))

omit [Distance α] in
theorem Ready.pinFor (ready : run.Ready tokens) (isLast : Bool) (token : Token) :
    ∀ waypoint, run.pinFor isLast token = some waypoint → run.graph.Finds waypoint :=
  fun waypoint pinned => ready.lastPin waypoint (Option.filter_eq_some_iff.mp pinned).1

theorem directLeg_spares (wellFormed : run.graph.WellFormed) (ready : run.Ready tokens)
    (member : token ∈ tokens) (inside : current < run.graph.size) :
    FailsOnly SparesLiterals (run.directLeg current route token isLast) := by
  obtain ⟨near, here⟩ := Graph.waypoint_of_lt inside
  unfold directLeg
  rw [here, ok_bind]
  refine (nodeOf_spares (ready.tokens token member) near (ready.pinFor isLast token)).bind
    fun node meant => ?_
  obtain ⟨own, there⟩ := Graph.waypoint_of_lt (nodeOf_lt wellFormed meant)
  rw [there]
  exact .ok _

omit [Distance α] in
theorem airwayTargets_spares (ready : run.Ready tokens) (member : token ∈ tokens) :
    FailsOnly SparesLiterals (run.airwayTargets token isLast) := by
  have known := ready.tokens token member
  unfold airwayTargets
  split
  · rename_i pinned
    exact (nodeOfWaypoint_spares (ready.pinFor isLast token _ pinned)).bind fun _ _ => .ok _
  · rename_i literal
    exact (nodeOfWaypoint_spares fun _ => known.found _ literal).bind fun _ _ => .ok _
  · rename_i other
    dsimp only
    split
    · exact .error (sparesLiterals_of_not (known.not_isLiteral other))
    · exact .ok _

omit [Distance α] in
/-- **The node behind an airway** that a literal coordinate may mean has a waypoint that agrees with itself. -/
theorem airwayTargets_comparable (known : token.Known run.graph) (literal : IsLiteral token.text)
    {candidates : List Nat} (meant : run.airwayTargets token isLast = .ok candidates) {candidate : Nat}
    (member : candidate ∈ candidates) {own : Waypoint}
    (place : run.graph.waypoints[candidate]? = some own) : (own == own) = true := by
  have single : ∀ fixed, (do return [← run.nodeOfWaypoint fixed]) = Except.ok candidates →
      (own == own) = true := by
    intro fixed found
    obtain ⟨node, known, found⟩ := bind_eq_ok.mp found
    cases found
    rw [List.mem_singleton.mp member] at place
    obtain ⟨other, here, agrees⟩ := Graph.byWaypoint?_eq_some (nodeOfWaypoint_eq_ok.mp known)
    rw [place] at here
    cases here
    exact BEq.trans agrees (BEq.symm agrees)
  unfold airwayTargets at meant
  split at meant
  · exact single _ meant
  · exact single _ meant
  · rename_i other
    exact absurd literal (known.not_isLiteral other)

theorem airwayLeg_spares (wellFormed : run.graph.WellFormed) (ready : run.Ready tokens)
    (member : token ∈ tokens) (inside : current < run.graph.size) (airway : String) :
    FailsOnly SparesLiterals (run.airwayLeg current route airway token isLast) := by
  unfold airwayLeg
  split
  · exact .error (lenient_sparesLiterals.malformed _)
  · refine (airwayTargets_spares ready member).bind fun candidates meant => ?_
    have within := airwayTargets_lt wellFormed meant
    refine FailsOnly.bind ?_ fun leg along => ?_
    · refine (ShortestRoute.alongAirway_failsOnly wellFormed inside within airway).mono ?_
      rintro failure (⟨left, right, rfl⟩ | off)
      · exact lenient_sparesLiterals.noPath left right
      · exact off.tolerated lenient_sparesLiterals.toTolerant
    · split
      · rename_i lost
        -- The leg ends at one of the candidates, and a candidate for a literal coordinate is found again.
        refine .error (sparesLiterals_of_not fun literal => ?_)
        obtain ⟨_, _, own, _, listed, there, runs, _⟩ := ShortestRoute.alongAirway_runs wellFormed along
        have agrees := airwayTargets_comparable (ready.tokens token member) literal meant listed there
        have known := Graph.byWaypoint?_isSome wellFormed.exactIndex there agrees
        rw [runs.last?, Option.bind_some] at lost
        rw [lost] at known
        cases known
      · refine FailsOnly.bind ?_ fun _ _ => .ok _
        exact (Route.connect_failsOnly route leg).mono fun _ ⟨left, right, same⟩ =>
          same ▸ lenient_sparesLiterals.mismatch left right

/-- **Following tokens** never finds a literal coordinate missing. -/
theorem resolve_spares (wellFormed : run.graph.WellFormed) (ready : run.Ready tokens) :
    FailsOnly SparesLiterals (run.resolve tokens) := by
  rcases run.resolve_refused tokens with
    ⟨_, refused⟩ | ⟨_, _, _, _, refused⟩ | ⟨first, rest, rfl, begins, ends⟩
  · exact refused ▸ .error (lenient_sparesLiterals.malformed _)
  · exact refused ▸ .error (lenient_sparesLiterals.malformed _)
  · have pinned : ∀ waypoint, run.firstPin.or (if rest.isEmpty then run.lastPin else none) =
        some waypoint → run.graph.Finds waypoint := by
      intro waypoint pin
      rcases Option.or_eq_some_iff.mp pin with front | ⟨_, back⟩
      · exact ready.firstPin waypoint front
      · split at back
        · exact ready.lastPin waypoint back
        · cases back
    refine resolve_failsOnly wellFormed begins ends
      (nodeOf_spares (ready.tokens first List.mem_cons_self) _ pinned) fun current route inside => ?_
    refine follow_failsOnly wellFormed inside ends (lenient_sparesLiterals.malformed _) ?_ ?_
    · exact fun _ _ _ _ member here =>
        directLeg_spares wellFormed ready (List.mem_cons_of_mem _ member) here
    · exact fun _ _ airway _ _ member here =>
        airwayLeg_spares wellFormed ready (List.mem_cons_of_mem _ member) here airway

end LiteralRun

/-! ### Requests -/

namespace Resolver

variable {resolver : Resolver σ α} {graph : Graph α} {flight : Flight} {tokens rest : List Token}

theorem head_finds (wellFormed : graph.WellFormed) (placed : graph.Placed)
    (known : ∀ token ∈ tokens, token.Known graph) {isFirst : Bool} {front : Option (Route α)}
    (read : resolver.head graph flight isFirst tokens = .ok (front, rest)) :
    (∀ token ∈ rest, token.Known graph) ∧
      ∀ pin, front.bind (·.last?) = some pin → graph.Finds pin := by
  cases isFirst with
  | true =>
    obtain ⟨sid, found, rfl, rfl⟩ := head_eq_ok.mp read
    obtain ⟨_, _, taken⟩ := Terminal.departure_departs wellFormed.exactIndex found
    obtain ⟨seam, meets, finds⟩ := Terminal.departure_finds wellFormed.exactIndex placed known found
    refine ⟨fun token member => known token (taken.suffix.subset member), fun pin same => ?_⟩
    rw [Option.bind_some, meets] at same
    cases same
    exact finds
  | false =>
    cases read
    exact ⟨known, nofun⟩

theorem tail_finds (wellFormed : graph.WellFormed) (placed : graph.Placed)
    (known : ∀ token ∈ tokens, token.Known graph) {isLast : Bool} {back : Option (Route α)}
    (read : resolver.tail graph flight isLast tokens = .ok (back, rest)) :
    (∀ token ∈ rest, token.Known graph) ∧
      ∀ pin, back.bind (·.first?) = some pin → graph.Finds pin := by
  have kept := (tail_backs wellFormed read).kept
  refine ⟨fun token member => known token (kept.subset member), fun pin same => ?_⟩
  cases isLast with
  | true =>
    obtain ⟨star, found, rfl, rfl⟩ := tail_eq_ok.mp read
    obtain ⟨seam, meets, finds⟩ := Terminal.arrival_finds wellFormed.exactIndex placed known found
    rw [Option.bind_some, meets] at same
    cases same
    exact finds
  | false =>
    cases read
    cases same

/-- **A literal segment** never finds a literal coordinate missing. -/
theorem literalSegment_spares (wellFormed : graph.WellFormed) (placed : graph.Placed)
    (answers : resolver.store.AnswersFor SparesLiterals) (known : ∀ token ∈ tokens, token.Known graph)
    (isFirst isLast : Bool) :
    FailsOnly SparesLiterals (resolver.literalSegment graph flight isFirst isLast tokens) := by
  rw [literalSegment_eq]
  refine FailsOnly.bind ?_ fun ⟨front, behind⟩ departed => ?_
  · exact head_failsOnly lenient_sparesLiterals.toTolerant wellFormed answers isFirst fun token member =>
      Terminal.waypointOf_spares wellFormed (known token member)
  obtain ⟨known, firstPin⟩ := head_finds wellFormed placed known departed
  refine FailsOnly.bind ?_ fun ⟨back, middle⟩ arrived => ?_
  · exact tail_failsOnly lenient_sparesLiterals.toTolerant wellFormed answers isLast fun token member =>
      Terminal.waypointOf_spares wellFormed (known token member)
  obtain ⟨known, lastPin⟩ := tail_finds wellFormed placed known arrived
  have ready : (resolver.bodyRun graph flight isFirst isLast front back).Ready middle :=
    ⟨known, firstPin, lastPin⟩
  exact (LiteralRun.resolve_spares wellFormed ready).bind fun body _ =>
    connectAll_tolerated lenient_sparesLiterals.toTolerant _

/-- Every literal coordinate of a request is in the graph on which its tokens are resolved, and it is found
wherever it is looked for. -/
structure FindsLiterals (resolver : Resolver σ α) (graph : Graph α) (request : RouteRequest) (draws : σ) :
    Prop where
  /-- Each literal coordinate has its own waypoint in the graph. -/
  found : ∀ tokens, tokensOf request = .ok tokens →
    ∀ waypoint ∈ RouteString.coordinates tokens, ∃ node own,
      (resolver.coordinateScope graph tokens).graph.byWaypoint? waypoint = some node ∧
        (resolver.coordinateScope graph tokens).graph.waypoints[node]? = some own ∧
        (own == waypoint) = true
  /-- Those that the graph did not have were taken in, each once, in the order in which they come up. -/
  taken : ∀ tokens, tokensOf request = .ok tokens →
    (resolver.coordinateScope graph tokens).graph.waypoints.toList =
      graph.waypoints.toList ++ graph.missing (RouteString.coordinates tokens)
  /-- No literal coordinate of the text is ever missing. -/
  never : ∀ tokens, RouteString.parse request.route = .ok tokens →
    ∀ text position, Token.coordinate text position ∈ tokens →
      (resolver.resolve graph request draws).outcome ≠ .error (.unresolvedReference text)

/-- **The tokens of a request are known** in the graph on which they are resolved. -/
theorem coordinateScope_known (wellFormed : graph.WellFormed) (resolver : Resolver σ α)
    {request : RouteRequest} (read : tokensOf request = .ok tokens) :
    ∀ token ∈ tokens, token.Known (resolver.coordinateScope graph tokens).graph := by
  have grown := coordinateScope_over wellFormed resolver tokens
  refine fun token member => ⟨tokensOf_isRead read token member, fun waypoint literal => ?_⟩
  have listed : waypoint ∈ RouteString.coordinates tokens := List.mem_filterMap.mpr ⟨token, member, literal⟩
  rw [← Graph.has_eq grown.wellFormed.exactIndex]
  exact scopeOf_has wellFormed _ (tokensOf_comparable read waypoint listed) listed

theorem coordinateScope_placed (placed : graph.Placed) (resolver : Resolver σ α)
    {request : RouteRequest} (read : tokensOf request = .ok tokens) :
    (resolver.coordinateScope graph tokens).graph.Placed :=
  resolver.coordinateScope_forall placed fun waypoint member _ _ =>
    tokensOf_comparable read waypoint member

/-- **A request never finds a literal coordinate missing**, whatever it asks for. -/
theorem resolve_spares (wellFormed : graph.WellFormed) (placed : graph.Placed)
    (answers : resolver.store.FailsFor SparesLiterals) (random : resolver.random.FailsFor SparesLiterals)
    (request : RouteRequest) (draws : σ) :
    FailsOnly SparesLiterals (resolver.resolve graph request draws).outcome := by
  refine resolve_failsOnly lenient_sparesLiterals.toTolerant request draws fun flight tokens read => ?_
  have formed := (coordinateScope_over wellFormed resolver tokens).wellFormed
  have known := coordinateScope_known wellFormed resolver read
  have placed := coordinateScope_placed placed resolver read
  refine resolveTokens_failsOnly lenient_sparesLiterals.toTolerant formed answers.answersFor
    (fun _ _ _ => random _ _ _ _ _ _ formed) ?_ draws
  intro segments grouped isFirst isLast own member
  refine literalSegment_spares formed placed answers.answersFor (fun token listed => ?_) isFirst isLast
  refine known token ?_
  rw [← Segment.flatten_group grouped]
  exact List.mem_flatMap_of_mem member listed

/-- **Every literal coordinate of a request is found**, on any graph whose waypoints are close to a fix only where
they have a position, which on floats is every graph. A store and a source of random routes that are not ours are
taken not to say that something is missing in the graph; a table and a random walk never do. -/
theorem resolve_findsLiterals (wellFormed : graph.WellFormed) (placed : graph.Placed)
    (answers : resolver.store.FailsFor MissesNothing) (random : resolver.random.FailsFor MissesNothing)
    (request : RouteRequest) (draws : σ) : resolver.FindsLiterals graph request draws := by
  refine ⟨fun tokens read waypoint member => ?_, fun tokens _ => ?_,
    fun tokens parsed text position member failed => ?_⟩
  · obtain ⟨token, listed, literal⟩ := List.mem_filterMap.mp member
    have known := (coordinateScope_known wellFormed resolver read token listed).found _ literal
    obtain ⟨node, found⟩ := Option.isSome_iff_exists.mp known
    obtain ⟨own, here, agrees⟩ := Graph.byWaypoint?_eq_some found
    exact ⟨node, own, found, here, agrees⟩
  · exact scopeOf_waypoints wellFormed resolver.settings.coordinateLinks (RouteString.coordinates tokens)
  · have resolved := resolve_spares wellFormed placed
      (fun runway kind name => (answers runway kind name).mono fun _ => MissesNothing.spares)
      (fun own settings cancel start finish draws formed =>
        (random own settings cancel start finish draws formed).mono fun _ => MissesNothing.spares)
      request draws
    exact resolved _ failed text rfl ⟨position, RouteString.parse_isRead parsed _ member⟩

theorem crossing_placed : crossing.Placed := by
  have comparable : crossing.Comparable := by
    show ∀ waypoint ∈ crossing.waypoints, (waypoint == waypoint) = true
    decide
  exact comparable.placed

/-- The one word of a text is taken in behind the crossing, and both ends of the flight find it. -/
theorem resolve_findsLiterals_crossing :
    crossing.WellFormed ∧ crossing.Placed ∧ ∃ position,
      tokensOf ⟨"KAAA", "09", "KBBB", "27", "5020N"⟩ = .ok [.coordinate "5020N" position] ∧
      (planar.coordinateScope crossing [.coordinate "5020N" position]).graph.waypoints.toList =
        [⟨"A", 0, 1⟩, ⟨"B", 0, 2⟩, ⟨"C", 0, 3⟩, ⟨"5020N", position.lat, position.lon⟩] ∧
      (planar.resolve crossing ⟨"KAAA", "09", "KBBB", "27", "5020N"⟩ ()).outcome ≠
        .error (.unresolvedReference "5020N") := by
  have wellFormed : crossing.WellFormed := crossing_built.wellFormed
  have answers : planar.store.FailsFor MissesNothing :=
    ProcedureTable.store_failsFor lenient_missesNothing ProcedureTable.empty
  have random : planar.random.FailsFor MissesNothing := fun _ _ _ _ _ _ _ => .ok _
  have finds : planar.FindsLiterals crossing ⟨"KAAA", "09", "KBBB", "27", "5020N"⟩ () :=
    resolve_findsLiterals wellFormed crossing_placed answers random _ ()
  obtain ⟨position, classified⟩ : ∃ position,
      Token.classify "5020N" = .ok (.coordinate "5020N" position) := ⟨_, Token.classify_literal⟩
  have parsed : RouteString.parse "5020N" = .ok [.coordinate "5020N" position] :=
    RouteString.parse_word rfl rfl classified
  have read : tokensOf ⟨"KAAA", "09", "KBBB", "27", "5020N"⟩ = .ok [.coordinate "5020N" position] :=
    tokensOf_of_parse parsed rfl rfl
  have unknown : crossing.has ⟨"5020N", position.lat, position.lon⟩ = false := by
    rw [Graph.has, ← Array.any_toList]
    rfl
  have pushed : (crossing.addWaypoint ⟨"5020N", position.lat, position.lon⟩).waypoints =
      crossing.waypoints.push ⟨"5020N", position.lat, position.lon⟩ := rfl
  have missing : crossing.missing [⟨"5020N", position.lat, position.lon⟩] =
      [⟨"5020N", position.lat, position.lon⟩] := Graph.missing_cons_of_push unknown pushed
  refine ⟨wellFormed, crossing_placed, position, read, ?_, ?_⟩
  · rw [finds.taken _ read]
    exact congrArg (crossing.waypoints.toList ++ ·) missing
  · exact finds.never _ parsed "5020N" position List.mem_cons_self

end Resolver

end FlightRoute
