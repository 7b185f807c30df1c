/-
**What a command is filled between.**

Two commands never stand side by side, and taking the airports off the ends of a text does not bring any
two together. Its tokens therefore cut into literal segments and commands that alternate, and beside
every command that is not at an end of the route there is a finished route. That route has waypoints, so
that the command is filled from its last one, or up to its first one; the runways are left to the two
ends.

* `Apart.stripAirports`: commands stay apart without the airports;
* `planAfter_getElem?`, `piecesFrom_getElem?`, `fillAll_getElem?`: fills and pieces, by position;
* `commands_between_neighbours`: every fill runs between its neighbours.
-/

import FlightRoute.Proofs.Resolve.Fill
import FlightRoute.Proofs.Resolve.Genuine
import FlightRoute.Proofs.Segment.Canonical

namespace FlightRoute

/-! ### Commands that are apart -/

namespace RouteString

variable {tokens : List Token}

theorem stripOrigin_suffix (origin : String) (tokens : List Token) :
    stripOrigin origin tokens <:+ tokens := by
  unfold stripOrigin
  split
  · split
    · exact List.suffix_cons _ _
    · exact List.suffix_rfl
  · exact List.suffix_rfl

theorem stripDestination_prefix (destination : String) (tokens : List Token) :
    stripDestination destination tokens <+: tokens := by
  unfold stripDestination
  split
  · split
    · exact List.dropLast_prefix tokens
    · exact List.prefix_rfl
  · exact List.prefix_rfl

/-- **Without the airports** the commands are still apart: what stays is one stretch of the tokens. -/
theorem Apart.stripAirports (apart : Apart tokens) (origin destination : String) :
    Apart (stripAirports origin destination tokens) := by
  have behind : Apart (stripOrigin origin tokens) :=
    List.IsChain.suffix apart (stripOrigin_suffix origin tokens)
  exact List.IsChain.prefix behind <| stripDestination_prefix destination _

end RouteString

/-! ### Fills and pieces, by position -/

namespace Piece

variable {α : Type} {previous : Option (Piece α)} {pieces : List (Piece α)}

/-- The piece before a position: the one before all pieces, or one of them. -/
def before (previous : Option (Piece α)) (pieces : List (Piece α)) : Nat → Option (Piece α)
  | 0 => previous
  | position + 1 => pieces[position]?

/-- **What a piece takes**: its gap runs from the piece before it to the piece behind it. -/
theorem planAfter_getElem? (position : Nat) :
    (planAfter previous pieces)[position]? = pieces[position]?.map fun piece =>
      piece.fill ⟨(before previous pieces position).bind last?,
        pieces[position + 1]?.bind first?⟩ := by
  induction pieces generalizing previous position with
  | nil => rfl
  | cons piece rest ih =>
    unfold planAfter
    cases position with
    | zero =>
      rw [List.getElem?_cons_zero, List.getElem?_cons_zero, List.getElem?_cons_succ,
        ← List.head?_eq_getElem?]
      rfl
    | succ position =>
      rw [List.getElem?_cons_succ, ih]
      cases position <;> rfl

end Piece

namespace Fill

variable {α : Type}

/-- The gap that is to be filled, if any. -/
def gap? : Fill α → Option Gap
  | done _ => none
  | auto gap => some gap
  | rand gap => some gap

theorem gap?_fill {gap own : Gap} {piece : Piece α} (unfilled : (piece.fill gap).gap? = some own) :
    piece.isRoute = false ∧ own = gap := by
  cases piece <;> cases unfilled <;> exact ⟨rfl, rfl⟩

end Fill

namespace Resolver

variable {σ α : Type} [Distance α] {resolver : Resolver σ α} {graph : Graph α} {flight : Flight}
  {isFirst : Bool} {segments : List Segment} {pieces : List (Piece α)} {piece other : Piece α}
  {position : Nat} {route : Route α}

/-- **The piece at a position** is that of the segment there. -/
theorem piecesFrom_getElem? (read : resolver.piecesFrom graph flight isFirst segments = .ok pieces) :
    pieces[position]? = some piece ↔ ∃ segment, segments[position]? = some segment ∧
      resolver.pieceOf graph flight (isFirst && position == 0) (position + 1 == segments.length)
        segment = .ok piece := by
  induction segments generalizing isFirst pieces position with
  | nil =>
    cases read
    simp
  | cons segment rest ih =>
    rw [piecesFrom_cons] at read
    obtain ⟨first, here, read⟩ := bind_eq_ok.mp read
    obtain ⟨others, there, whole⟩ := bind_eq_ok.mp read
    cases whole
    cases position with
    | zero =>
      have last : (0 + 1 == (segment :: rest).length) = rest.isEmpty := by cases rest <;> rfl
      rw [last, beq_self_eq_true, Bool.and_true]
      simp [here, eq_comm]
    | succ position =>
      have later : (isFirst && position + 1 == 0) = (false && position == 0) := by simp
      have last : (position + 1 + 1 == (segment :: rest).length) =
          (position + 1 == rest.length) := by simp
      rw [last, later, List.getElem?_cons_succ, List.getElem?_cons_succ]
      exact ih there

theorem piecesFrom_length
    (read : resolver.piecesFrom graph flight isFirst segments = .ok pieces) :
    pieces.length = segments.length := by
  induction segments generalizing isFirst pieces with
  | nil =>
    cases read
    rfl
  | cons first rest ih =>
    rw [piecesFrom_cons] at read
    obtain ⟨piece, _, read⟩ := bind_eq_ok.mp read
    obtain ⟨others, further, whole⟩ := bind_eq_ok.mp read
    cases whole
    rw [List.length_cons, List.length_cons, ih further]

/-- There is a piece for each segment, and it was resolved. -/
theorem piecesFrom_pieceOf {segment : Segment}
    (read : resolver.piecesFrom graph flight isFirst segments = .ok pieces)
    (here : segments[position]? = some segment) :
    ∃ piece, resolver.pieceOf graph flight (isFirst && position == 0) (position + 1 == segments.length)
      segment = .ok piece ∧ pieces[position]? = some piece := by
  have within : position < pieces.length :=
    piecesFrom_length read ▸ (List.getElem?_eq_some_iff.mp here).choose
  have found : pieces[position]? = some pieces[position] := List.getElem?_eq_getElem within
  obtain ⟨own, there, resolved⟩ := (piecesFrom_getElem? read).mp found
  cases here.symm.trans there
  exact ⟨_, resolved, found⟩

/-- Each of the fills has been made. -/
theorem fillAll_getElem? {draws draws' : σ} {fills : List (Fill α)} {routes : List (Route α)}
    (filled : resolver.fillAll graph flight draws fills = (.ok routes, draws'))
    {fill : Fill α} (here : fills[position]? = some fill) :
    ∃ own behind route, resolver.fill graph flight own fill = (.ok route, behind) := by
  induction fills generalizing draws routes position with
  | nil => cases here
  | cons first rest ih =>
    obtain ⟨route, middle, others, made, further, _⟩ := fillAll_cons filled
    cases position with
    | zero =>
      cases here
      exact ⟨draws, middle, route, made⟩
    | succ position => exact ih further here

/-- Each command for a shortest path has been filled with one. -/
theorem autoFill_of_fillAll {draws draws' : σ} {routes : List (Route α)}
    (filled : resolver.fillAll graph flight draws (Piece.plan pieces) = (.ok routes, draws'))
    (here : pieces[position]? = some .auto) :
    ∃ route, resolver.autoFill graph flight
      ⟨(Piece.before none pieces position).bind Piece.last?, pieces[position + 1]?.bind Piece.first?⟩ =
        .ok route := by
  have planned : (Piece.plan pieces)[position]? = _ := Piece.planAfter_getElem? position
  rw [here] at planned
  obtain ⟨own, _, route, made⟩ := fillAll_getElem? filled planned
  exact ⟨route, (Prod.mk.inj made).1⟩

/-- The route that the literal segment at a position is resolved to. -/
def LiteralAt (resolver : Resolver σ α) (graph : Graph α) (flight : Flight) (segments : List Segment)
    (position : Nat) (route : Route α) : Prop :=
  ∃ run, segments[position]? = some (.literal run) ∧
    resolver.literalSegment graph flight (position == 0) (position + 1 == segments.length) run =
      .ok route

/-- A finished route is that of a literal segment, and it has waypoints. -/
theorem pieces_literalAt (wellFormed : graph.WellFormed)
    (read : resolver.pieces graph flight segments = .ok pieces)
    (here : pieces[position]? = some (.route route)) :
    resolver.LiteralAt graph flight segments position route ∧ route.IsPath := by
  obtain ⟨segment, there, resolved⟩ := (piecesFrom_getElem? read).mp here
  cases segment with
  | literal run =>
    obtain ⟨own, resolved, same⟩ := bind_eq_ok.mp resolved
    cases same
    exact ⟨⟨run, there, resolved⟩, (literalSegment_span wellFormed resolved).path⟩
  | auto => cases resolved
  | rand => cases resolved

omit [Distance α] in
/-- Of two pieces side by side one is a finished route. -/
theorem isRoute_ne (alternate : (pieces.map Piece.isRoute).IsChain (· ≠ ·))
    (here : pieces[position]? = some piece) (there : pieces[position + 1]? = some other) :
    piece.isRoute ≠ other.isRoute := by
  obtain ⟨within, rfl⟩ := List.getElem?_eq_some_iff.mp there
  obtain ⟨_, rfl⟩ := List.getElem?_eq_some_iff.mp here
  have differ := List.isChain_iff_getElem.mp alternate position (by rwa [List.length_map])
  rwa [List.getElem_map, List.getElem_map] at differ

omit [Distance α] in
theorem exists_route (finished : piece.isRoute = true) : ∃ route, piece = .route route := by
  cases piece with
  | route own => exact ⟨own, rfl⟩
  | auto => cases finished
  | rand => cases finished

omit [Distance α] in
/-- Before a command that is not the first piece there is a finished route. -/
theorem exists_route_before (alternate : (pieces.map Piece.isRoute).IsChain (· ≠ ·))
    (command : piece.isRoute = false) (here : pieces[position + 1]? = some piece) :
    ∃ route, pieces[position]? = some (.route route) := by
  have within : position < pieces.length :=
    Nat.lt_of_succ_lt (List.getElem?_eq_some_iff.mp here).choose
  have before := List.getElem?_eq_getElem within
  have differ := isRoute_ne alternate before here
  rw [command, ne_eq, Bool.not_eq_false] at differ
  obtain ⟨route, same⟩ := exists_route differ
  exact ⟨route, same ▸ before⟩

omit [Distance α] in
/-- Behind a command that is not the last piece there is one too. -/
theorem exists_route_behind (alternate : (pieces.map Piece.isRoute).IsChain (· ≠ ·))
    (command : piece.isRoute = false) (here : pieces[position]? = some piece)
    (more : position + 1 < pieces.length) :
    ∃ route, pieces[position + 1]? = some (.route route) := by
  have behind := List.getElem?_eq_getElem more
  have differ := isRoute_ne alternate here behind
  rw [command, ne_eq, eq_comm, Bool.not_eq_false] at differ
  obtain ⟨route, same⟩ := exists_route differ
  exact ⟨route, same ▸ behind⟩

/-! ### What a command is filled between -/

/-- What the command at a position of the segments is filled between. -/
structure Between (resolver : Resolver σ α) (graph : Graph α) (flight : Flight)
    (segments : List Segment) (position : Nat) (fill : Fill α) (gap : Gap) : Prop where
  /-- Nothing is before the first segment, and something is before every other one. -/
  first : gap.before = none ↔ position = 0
  last : gap.after = none ↔ position + 1 = segments.length
  /-- The gap begins where the literal route before it ends. -/
  before : position ≠ 0 → ∃ route, resolver.LiteralAt graph flight segments (position - 1) route ∧
    gap.before = route.last?
  /-- It ends where the literal route behind it begins. -/
  after : position + 1 ≠ segments.length → ∃ route,
    resolver.LiteralAt graph flight segments (position + 1) route ∧ gap.after = route.first?
  /-- The origin does not matter to a fill that is not the first. -/
  origin : position ≠ 0 → ∀ runway draws,
    resolver.fill graph { flight with origin := runway } draws fill = resolver.fill graph flight draws fill
  /-- The destination does not matter to a fill that is not the last. -/
  destination : position + 1 ≠ segments.length → ∀ runway draws,
    resolver.fill graph { flight with destination := runway } draws fill =
      resolver.fill graph flight draws fill
  /-- The fill runs from the one end of the gap to the other. -/
  ends : fill = .auto gap ∨ resolver.random.Spans → ∀ draws draws' route,
    resolver.fill graph flight draws fill = (.ok route, draws') →
      route.StartsAt (gap.start flight) ∧ route.EndsAt (gap.finish flight)

/-- A fill behind a waypoint does not ask for the origin. -/
theorem fill_origin {gap : Gap} {draws : σ} {runway : Runway} (preceded : gap.before ≠ none)
    (command : piece.isRoute = false) :
    resolver.fill graph { flight with origin := runway } draws (piece.fill gap) =
      resolver.fill graph flight draws (piece.fill gap) := by
  obtain ⟨before, after⟩ := gap
  obtain ⟨waypoint, rfl⟩ := Option.ne_none_iff_exists'.mp preceded
  cases piece with
  | route own => cases command
  | auto => rfl
  | rand => rfl

/-- A fill in front of a waypoint does not ask for the destination. -/
theorem fill_destination {gap : Gap} {draws : σ} {runway : Runway} (followed : gap.after ≠ none)
    (command : piece.isRoute = false) :
    resolver.fill graph { flight with destination := runway } draws (piece.fill gap) =
      resolver.fill graph flight draws (piece.fill gap) := by
  obtain ⟨before, after⟩ := gap
  obtain ⟨waypoint, rfl⟩ := Option.ne_none_iff_exists'.mp followed
  cases piece with
  | route own => cases command
  | auto => rfl
  | rand => rfl

/-- The gap of a later command begins where a literal route ends. -/
theorem gap_before (wellFormed : graph.WellFormed)
    (read : resolver.pieces graph flight segments = .ok pieces)
    (alternate : (pieces.map Piece.isRoute).IsChain (· ≠ ·)) (command : piece.isRoute = false)
    (here : pieces[position]? = some piece) (later : position ≠ 0) :
    ∃ route exit, resolver.LiteralAt graph flight segments (position - 1) route ∧
      route.last? = some exit ∧ (Piece.before none pieces position).bind Piece.last? = some exit := by
  obtain ⟨earlier, rfl⟩ := Nat.exists_eq_succ_of_ne_zero later
  obtain ⟨route, there⟩ := exists_route_before alternate command here
  obtain ⟨literal, path⟩ := pieces_literalAt wellFormed read there
  obtain ⟨exit, ends⟩ := Option.isSome_iff_exists.mp path.last?_isSome
  refine ⟨route, exit, literal, ends, ?_⟩
  rw [Piece.before, there]
  exact ends

/-- The gap of an earlier command ends where a literal route begins. -/
theorem gap_after (wellFormed : graph.WellFormed)
    (read : resolver.pieces graph flight segments = .ok pieces)
    (alternate : (pieces.map Piece.isRoute).IsChain (· ≠ ·)) (command : piece.isRoute = false)
    (here : pieces[position]? = some piece) (earlier : position + 1 < pieces.length) :
    ∃ route entry, resolver.LiteralAt graph flight segments (position + 1) route ∧
      route.first? = some entry ∧ pieces[position + 1]?.bind Piece.first? = some entry := by
  obtain ⟨route, there⟩ := exists_route_behind alternate command here earlier
  obtain ⟨literal, path⟩ := pieces_literalAt wellFormed read there
  obtain ⟨entry, begins⟩ := Option.isSome_iff_exists.mp path.first?_isSome
  refine ⟨route, entry, literal, begins, ?_⟩
  rw [there]
  exact begins

/-- The gap of a command begins and ends where its neighbours do. -/
theorem plan_between (wellFormed : graph.WellFormed) {tokens : List Token} {fill : Fill α} {gap : Gap}
    (grouped : Segment.group tokens = .ok segments)
    (read : resolver.pieces graph flight segments = .ok pieces)
    (planned : (Piece.plan pieces)[position]? = some fill) (unfilled : fill.gap? = some gap) :
    resolver.Between graph flight segments position fill gap := by
  obtain ⟨lengths, alternate⟩ := pieces_alternate wellFormed grouped read
  rw [Piece.plan, Piece.planAfter_getElem?] at planned
  obtain ⟨piece, here, rfl⟩ := Option.map_eq_some_iff.mp planned
  obtain ⟨command, rfl⟩ := Fill.gap?_fill unfilled
  have within : position < segments.length :=
    lengths ▸ (List.getElem?_eq_some_iff.mp here).choose
  have before := gap_before wellFormed read alternate command here
  have after : position + 1 ≠ segments.length → _ := fun earlier =>
    gap_after wellFormed read alternate command here
      (lengths ▸ Nat.lt_of_le_of_ne within earlier)
  have starts : position ≠ 0 → (Piece.before none pieces position).bind Piece.last? ≠ none := by
    intro later
    obtain ⟨_, exit, _, _, ends⟩ := before later
    exact ends ▸ Option.some_ne_none exit
  have finishes : position + 1 ≠ segments.length →
      pieces[position + 1]?.bind Piece.first? ≠ none := by
    intro earlier
    obtain ⟨_, entry, _, _, begins⟩ := after earlier
    exact begins ▸ Option.some_ne_none entry
  refine {
    first := ⟨fun gapEnd => ?_, fun first => ?_⟩
    last := ⟨fun gapEnd => ?_, fun last => ?_⟩
    before := fun later => ?_
    after := fun earlier => ?_
    origin := fun later _ _ => fill_origin (starts later) command
    destination := fun earlier _ _ => fill_destination (finishes earlier) command
    ends := fun spans draws draws' route filled => ?_ }
  · by_contra later
    exact starts later gapEnd
  · subst first
    rfl
  · by_contra earlier
    exact finishes earlier gapEnd
  · have beyond : pieces[position + 1]? = none :=
      List.getElem?_eq_none (by rw [lengths, last])
    exact congrArg (·.bind Piece.first?) beyond
  · obtain ⟨route, exit, literal, ends, begins⟩ := before later
    exact ⟨route, literal, begins.trans ends.symm⟩
  · obtain ⟨route, entry, literal, begins, ends⟩ := after earlier
    exact ⟨route, literal, ends.trans begins.symm⟩
  · rcases spans with auto | random
    · rw [auto] at filled
      obtain ⟨starts, finishes, _⟩ := autoFill_runs wellFormed (Prod.mk.inj filled).1
      exact ⟨starts, finishes⟩
    · obtain ⟨starts, finishes, _⟩ := fill_command wellFormed random command filled
      exact ⟨starts, finishes⟩

omit [Distance α] in
/-- **Every command is filled between its neighbours.** Tokens that pass the check can be grouped without
the airports. Whatever their literal segments are resolved to, a command at either end of the route is
filled from or to the runway, and every other one from where the literal route before it ends to where
the literal route behind it begins. -/
theorem commands_between_neighbours (origin destination : String) {tokens : List Token}
    (checked : RouteString.checkCommands tokens = .ok ()) :
    ∃ segments,
      Segment.group (RouteString.stripAirports origin destination tokens) = .ok segments ∧
      ∀ (σ α : Type) [Distance α] (resolver : Resolver σ α) (graph : Graph α) (flight : Flight)
        (pieces : List (Piece α)), graph.WellFormed →
        resolver.pieces graph flight segments = .ok pieces → ∀ position fill gap,
        (Piece.plan pieces)[position]? = some fill → fill.gap? = some gap →
        resolver.Between graph flight segments position fill gap := by
  have apart := (RouteString.checkCommands_eq_ok.mp checked).stripAirports origin destination
  obtain ⟨segments, grouped⟩ := Segment.exists_group apart
  exact ⟨segments, grouped, fun σ α _ resolver graph flight pieces wellFormed read position fill gap =>
    plan_between wellFormed grouped read⟩

omit [Distance α] in
/-- Between two commands the one waypoint stands for itself. -/
theorem planar_literal_between :
    planar.literalSegment crossing eastbound false false [.ident "A"] = .ok (.single ⟨"A", 0, 1⟩) := by
  have meant : (planar.bodyRun crossing eastbound false false none none).nodeOf (.ident "A")
      eastbound.origin.threshold none = .ok 0 :=
    LiteralRun.nodeOf_of_unique crossing_exactIndex (by decide) _
  have body : (planar.bodyRun crossing eastbound false false none none).resolve [.ident "A"] =
      .ok (.single ⟨"A", 0, 1⟩) := by
    show LiteralRun.nodeOf _ (.ident "A") eastbound.origin.threshold none >>= _ = _
    rw [meant]
    rfl
  rw [literalSegment_eq]
  show LiteralRun.resolve _ [.ident "A"] >>= _ = _
  rw [body]
  rfl

omit [Distance α] in
/-- A random route from the runway to a waypoint, and the shortest one on to the other runway. -/
theorem commands_between_neighbours_planar :
    RouteString.checkCommands [.ident "KAAA", .rand, .ident "A", .auto, .ident "KBBB"] = .ok () ∧
      Segment.group (RouteString.stripAirports "KAAA" "KBBB"
        [.ident "KAAA", .rand, .ident "A", .auto, .ident "KBBB"]) =
          .ok [.rand, .literal [.ident "A"], .auto] ∧
      ∃ pieces, crossing.WellFormed ∧
        planar.pieces crossing eastbound [.rand, .literal [.ident "A"], .auto] = .ok pieces ∧
        ∃ gap, (Piece.plan pieces)[2]? = some (.auto gap) ∧ gap.before = some ⟨"A", 0, 1⟩ ∧
          planar.Between crossing eastbound [.rand, .literal [.ident "A"], .auto] 2 (.auto gap)
            gap := by
  have checked :
      RouteString.checkCommands [.ident "KAAA", .rand, .ident "A", .auto, .ident "KBBB"] = .ok () :=
    rfl
  have grouped : Segment.group (RouteString.stripAirports "KAAA" "KBBB"
      [.ident "KAAA", .rand, .ident "A", .auto, .ident "KBBB"]) =
        .ok [.rand, .literal [.ident "A"], .auto] :=
    rfl
  have read : planar.pieces crossing eastbound [.rand, .literal [.ident "A"], .auto] =
      .ok [.rand, .route (.single ⟨"A", 0, 1⟩), .auto] := by
    show (planar.literalSegment crossing eastbound false false [.ident "A"] >>= _) >>= _ = _
    rw [planar_literal_between]
    rfl
  obtain ⟨segments, same, between⟩ := commands_between_neighbours "KAAA" "KBBB" checked
  cases grouped.symm.trans same
  exact ⟨checked, grouped, _, crossing_built.wellFormed, read, _, rfl, rfl,
    between Unit ℚ planar crossing eastbound _ crossing_built.wellFormed read 2 _ _ rfl rfl⟩

end Resolver

end FlightRoute
