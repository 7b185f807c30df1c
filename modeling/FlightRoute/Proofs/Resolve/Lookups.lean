/-
**No failure of the store is masked.**

A request asks for procedures in few places: for the departure that its first token may name, for the arrival
that the last token behind the departure may name, and for all procedures of a runway when a shortest path
begins or ends there (`Resolver.Asks`). That a name is not published only means that it names something else,
or nothing. Every other failure of the store ends the request.

* `Asks.answered`: pieces that are read and filled in have had an answer to everything that was asked;
* `resolve_departure_failed`: what the store says about the first token is what the request says;
* `resolve_tolerant`: no request fails for a name that is not published;
* `resolve_congr`: a store that answers alike wherever it is asked resolves alike;
* `resolve_heedsStore`: whole requests.
-/

import FlightRoute.Proofs.Resolve.Bounds
import FlightRoute.Proofs.Resolve.Neighbours

namespace FlightRoute

/-- The name is not published for the runway. -/
def Unpublished (failure : RouteError) : Prop := ∃ name runway, failure = .procedureNotFound name runway

/-- All failures but that of a name that is not published are reasons enough. -/
theorem tolerant_of_not_unpublished {reason : RouteError → Prop}
    (holds : ∀ failure, ¬Unpublished failure → reason failure) : Tolerant reason where
  malformed _ := holds _ nofun
  noPath _ _ := holds _ nofun
  mismatch _ _ := holds _ nofun
  unknownRunway _ _ := holds _ nofun
  store _ := holds _ nofun
  cancelled := holds _ nofun

/-! ### What a store answers -/

namespace ProcedureStore

variable {α : Type} {store : ProcedureStore α} {runway : Runway} {kind : ProcedureKind} {name : String}

/-- A store has an answer unless it fails for more than a name that is not published. -/
theorem failsOnly_unpublished {answer : Option (Procedure α)}
    (answered : store.procedure? runway kind name = .ok answer) :
    FailsOnly Unpublished (store.procedure runway kind name) := by
  intro failure failed
  unfold procedure? at answered
  rw [failed] at answered
  cases failure with
  | procedureNotFound own other => exact ⟨own, other, rfl⟩
  | _ => cases answered

theorem procedure?_eq_error {failure : RouteError}
    (failed : store.procedure runway kind name = .error failure) (other : ¬Unpublished failure) :
    store.procedure? runway kind name = .error failure := by
  unfold procedure?
  rw [failed]
  cases failure with
  | procedureNotFound own runway => exact absurd ⟨own, runway, rfl⟩ other
  | _ => rfl

/-- What is left of the failures of a store once names that are not published are no failures. -/
theorem answersFor (store : ProcedureStore α) : store.AnswersFor (¬Unpublished ·) := by
  intro runway kind name failure failed
  unfold procedure? at failed
  rintro ⟨own, other, rfl⟩
  split at failed
  · cases failed
  · cases failed
  · rename_i apart _
    exact apart own other (Except.error.inj failed)

end ProcedureStore

/-! ### The ends of a flight -/

section Ends

variable {α : Type} [Distance α] {terminal : Terminal α} {store : ProcedureStore α}
  {kind : ProcedureKind} {count : Nat}

namespace Terminal

/-- A departure that is read has had an answer for its first token. -/
theorem departure_answered {name : String} {rest : List Token} {extraction : Extraction α}
    (read : terminal.departure (.ident name :: rest) = .ok extraction) :
    ∃ answer, terminal.store.procedure? terminal.runway .sid name = .ok answer := by
  obtain ⟨answer, asked, _⟩ := bind_eq_ok.mp read
  exact ⟨answer, asked⟩

theorem arrival_answered {name : String} {tokens : List Token} {extraction : Extraction α}
    (last : tokens.getLast? = some (.ident name)) (read : terminal.arrival tokens = .ok extraction) :
    ∃ answer, terminal.store.procedure? terminal.runway .star name = .ok answer := by
  rw [← List.head?_reverse] at last
  unfold arrival at read
  split at read
  · cases read
  · rename_i token before reversed
    rw [reversed] at last
    cases last
    obtain ⟨answer, asked, _⟩ := bind_eq_ok.mp read
    exact ⟨answer, asked⟩

/-- A departure asks the store for its first token, and for nothing else. -/
theorem departure_congr (terminal : Terminal α) {tokens : List Token}
    (same : ∀ name, tokens.head? = some (.ident name) →
      store.procedure? terminal.runway .sid name = terminal.store.procedure? terminal.runway .sid name) :
    ({ terminal with store } : Terminal α).departure tokens = terminal.departure tokens := by
  cases tokens with
  | nil => rfl
  | cons first rest =>
    cases first with
    | ident name =>
      show (store.procedure? terminal.runway .sid name >>= _) = terminal.store.procedure? _ _ _ >>= _
      rw [same name rfl]
      rfl
    | _ => rfl

/-- An arrival asks the store for its last token, and for nothing else. -/
theorem arrival_congr (terminal : Terminal α) {tokens : List Token}
    (same : ∀ name, tokens.getLast? = some (.ident name) →
      store.procedure? terminal.runway .star name = terminal.store.procedure? terminal.runway .star name) :
    ({ terminal with store } : Terminal α).arrival tokens = terminal.arrival tokens := by
  unfold arrival
  rw [← List.head?_reverse] at same
  cases reversed : tokens.reverse with
  | nil => rfl
  | cons last before =>
    rw [reversed] at same
    cases last with
    | ident name =>
      show (store.procedure? terminal.runway .star name >>= _) = terminal.store.procedure? _ _ _ >>= _
      rw [same name rfl]
      rfl
    | _ => rfl

end Terminal

namespace Endpoint

/-- A runway at which a shortest path begins or ends has had an answer for every listed name. -/
theorem ofRunway_answered {endpoint : Endpoint α} (found : ofRunway terminal kind count = .ok endpoint) :
    ∀ name ∈ terminal.store.names terminal.runway kind,
      ∃ answer, terminal.store.procedure? terminal.runway kind name = .ok answer := by
  have each : ∀ names links, linksOfNames terminal kind count names = .ok links → ∀ name ∈ names,
      ∃ answer, terminal.store.procedure? terminal.runway kind name = .ok answer := by
    intro names
    induction names with
    | nil => exact fun _ _ => nofun
    | cons first rest ih =>
      intro links named name member
      obtain ⟨answer, asked, named⟩ := bind_eq_ok.mp named
      obtain ⟨others, further, _⟩ := bind_eq_ok.mp named
      rcases List.mem_cons.mp member with rfl | member
      · exact ⟨answer, asked⟩
      · exact ih others further name member
  obtain ⟨links, named, _⟩ := bind_eq_ok.mp found
  exact each _ links named

/-- It asks the store for the listed names, and for nothing else. -/
theorem ofRunway_congr (terminal : Terminal α)
    (names : store.names terminal.runway kind = terminal.store.names terminal.runway kind)
    (same : ∀ name ∈ terminal.store.names terminal.runway kind,
      store.procedure? terminal.runway kind name = terminal.store.procedure? terminal.runway kind name) :
    ofRunway { terminal with store } kind count = ofRunway terminal kind count := by
  have links : ∀ listed, (∀ name ∈ listed, name ∈ terminal.store.names terminal.runway kind) →
      linksOfNames { terminal with store } kind count listed =
        linksOfNames terminal kind count listed := by
    intro listed within
    induction listed with
    | nil => rfl
    | cons name rest ih =>
      unfold linksOfNames
      rw [ih fun other member => within other (List.mem_cons_of_mem _ member)]
      dsimp only
      rw [same name (within name List.mem_cons_self)]
  unfold ofRunway
  dsimp only
  rw [names, links _ fun _ => id]

end Endpoint

end Ends

namespace Resolver

variable {σ α : Type} [Distance α] {resolver : Resolver σ α} {graph : Graph α} {flight : Flight}
  {segments : List Segment} {pieces : List (Piece α)} {tokens : List Token} {store : ProcedureStore α}
  {request : RouteRequest} {draws : σ} {runway : Runway} {kind : ProcedureKind} {name : String}

/-! ### What is asked for -/

/-- The procedures that are asked for while segments are resolved. -/
inductive Asks (resolver : Resolver σ α) (graph : Graph α) (flight : Flight)
    (segments : List Segment) : Runway → ProcedureKind → String → Prop
  /-- The first token of the route may name a departure. -/
  | departure {name : String} {rest : List Token} :
      segments.head? = some (.literal (.ident name :: rest)) →
      Asks resolver graph flight segments flight.origin .sid name
  /-- The last token of what the departure leaves may name an arrival. -/
  | arrival {name : String} {tokens middle : List Token} {front : Option (Route α)} :
      segments.getLast? = some (.literal tokens) →
      resolver.head graph flight (segments.length == 1) tokens = .ok (front, middle) →
      middle.getLast? = some (.ident name) →
      Asks resolver graph flight segments flight.destination .star name
  /-- A shortest path from the runway may begin with any departure. -/
  | everyDeparture {name : String} : segments.head? = some .auto →
      name ∈ resolver.store.names flight.origin .sid →
      Asks resolver graph flight segments flight.origin .sid name
  /-- A shortest path to the runway may end with any arrival. -/
  | everyArrival {name : String} : segments.getLast? = some .auto →
      name ∈ resolver.store.names flight.destination .star →
      Asks resolver graph flight segments flight.destination .star name

/-! ### What was asked has been answered -/

/-- The position of the last segment. -/
theorem exists_last {segment : Segment} (last : segments.getLast? = some segment) :
    ∃ position, segments[position]? = some segment ∧ position + 1 = segments.length ∧
      (position == 0) = (segments.length == 1) := by
  have nonempty : segments ≠ [] := by
    rintro rfl
    cases last
  have positive : 0 < segments.length := List.length_pos_iff.mpr nonempty
  refine ⟨segments.length - 1, List.getLast?_eq_getElem? ▸ last, Nat.sub_add_cancel positive, ?_⟩
  rw [Bool.eq_iff_iff, beq_iff_eq, beq_iff_eq]
  omega

/-- The parts of a literal segment were read. -/
theorem pieceOf_literal {isFirst isLast : Bool} {piece : Piece α}
    (read : resolver.pieceOf graph flight isFirst isLast (.literal tokens) = .ok piece) :
    ∃ front behind back, resolver.head graph flight isFirst tokens = .ok (front, behind) ∧
      resolver.tail graph flight isLast behind = .ok back := by
  obtain ⟨route, resolved, _⟩ := bind_eq_ok.mp read
  obtain ⟨⟨front, behind⟩, head, resolved⟩ := bind_eq_ok.mp resolved
  obtain ⟨back, tail, _⟩ := bind_eq_ok.mp resolved
  exact ⟨front, behind, back, head, tail⟩

/-- Both ends of a shortest path were found. -/
theorem auto_gapEnds {position : Nat} {routes : List (Route α)} {behind : σ}
    (filled : resolver.fillAll graph flight draws (Piece.plan pieces) = (.ok routes, behind))
    (here : pieces[position]? = some .auto) :
    ∃ start finish,
      resolver.gapEnd graph flight.origin .sid
        ((Piece.before none pieces position).bind Piece.last?) = .ok start ∧
      resolver.gapEnd graph flight.destination .star (pieces[position + 1]?.bind Piece.first?) =
        .ok finish := by
  obtain ⟨route, found⟩ := autoFill_of_fillAll filled here
  rw [autoFill_eq] at found
  obtain ⟨start, entered, found⟩ := bind_eq_ok.mp found
  obtain ⟨finish, left, _⟩ := bind_eq_ok.mp found
  exact ⟨start, finish, entered, left⟩

/-- **What was asked has been answered** once all pieces are read and filled in. -/
theorem Asks.answered (asked : resolver.Asks graph flight segments runway kind name)
    (read : resolver.pieces graph flight segments = .ok pieces) {routes : List (Route α)} {behind : σ}
    (filled : resolver.fillAll graph flight draws (Piece.plan pieces) = (.ok routes, behind)) :
    ∃ answer, resolver.store.procedure? runway kind name = .ok answer := by
  cases asked with
  | departure first =>
    rw [List.head?_eq_getElem?] at first
    obtain ⟨piece, resolved, _⟩ := piecesFrom_pieceOf read first
    obtain ⟨front, middle, back, head, _⟩ := pieceOf_literal resolved
    obtain ⟨sid, departed, _⟩ := head_eq_ok.mp head
    exact Terminal.departure_answered departed
  | arrival last left stands =>
    obtain ⟨position, here, final, only⟩ := exists_last last
    obtain ⟨piece, resolved, _⟩ := piecesFrom_pieceOf read here
    rw [beq_iff_eq.mpr final, Bool.true_and, only] at resolved
    obtain ⟨front, middle, ⟨back, rest⟩, head, tail⟩ := pieceOf_literal resolved
    cases head.symm.trans left
    obtain ⟨star, arrived, _⟩ := tail_eq_ok.mp tail
    exact Terminal.arrival_answered stands arrived
  | everyDeparture first listed =>
    rw [List.head?_eq_getElem?] at first
    obtain ⟨piece, resolved, found⟩ := piecesFrom_pieceOf read first
    cases resolved
    obtain ⟨start, finish, entered, _⟩ := auto_gapEnds filled found
    exact Endpoint.ofRunway_answered entered name listed
  | everyArrival last listed =>
    obtain ⟨position, here, final, _⟩ := exists_last last
    obtain ⟨piece, resolved, found⟩ := piecesFrom_pieceOf read here
    cases resolved
    obtain ⟨start, finish, _, left⟩ := auto_gapEnds filled found
    have beyond : pieces[position + 1]? = none :=
      List.getElem?_eq_none (by rw [piecesFrom_length read, final])
    rw [beyond] at left
    exact Endpoint.ofRunway_answered left name listed

/-! ### Nothing else is asked for -/

/-- A store with the same names that answers alike wherever it is asked. -/
structure AnswersLike (resolver : Resolver σ α) (graph : Graph α) (flight : Flight)
    (segments : List Segment) (store : ProcedureStore α) : Prop where
  names : store.names = resolver.store.names
  answers : ∀ runway kind name, resolver.Asks graph flight segments runway kind name →
    store.procedure? runway kind name = resolver.store.procedure? runway kind name

theorem head_congr {isFirst : Bool}
    (same : isFirst = true → ∀ name, tokens.head? = some (.ident name) →
      store.procedure? flight.origin .sid name = resolver.store.procedure? flight.origin .sid name) :
    ({ resolver with store } : Resolver σ α).head graph flight isFirst tokens =
      resolver.head graph flight isFirst tokens := by
  cases isFirst with
  | true =>
    have departs := (resolver.terminal graph flight.origin).departure_congr (same rfl)
    exact congrArg (· >>= fun extraction : Extraction α =>
      .ok (some extraction.route, extraction.remaining)) departs
  | false => rfl

theorem tail_congr {isLast : Bool}
    (same : isLast = true → ∀ name, tokens.getLast? = some (.ident name) →
      store.procedure? flight.destination .star name =
        resolver.store.procedure? flight.destination .star name) :
    ({ resolver with store } : Resolver σ α).tail graph flight isLast tokens =
      resolver.tail graph flight isLast tokens := by
  cases isLast with
  | true =>
    have arrives := (resolver.terminal graph flight.destination).arrival_congr (same rfl)
    exact congrArg (· >>= fun extraction : Extraction α =>
      .ok (some extraction.route, extraction.remaining)) arrives
  | false => rfl

/-- A literal segment asks for its first token, and for the last one behind the departure. -/
theorem literalSegment_congr {isFirst isLast : Bool}
    (departs : isFirst = true → ∀ name, tokens.head? = some (.ident name) →
      store.procedure? flight.origin .sid name = resolver.store.procedure? flight.origin .sid name)
    (arrives : isLast = true → ∀ front middle,
      resolver.head graph flight isFirst tokens = .ok (front, middle) →
      ∀ name, middle.getLast? = some (.ident name) →
      store.procedure? flight.destination .star name =
        resolver.store.procedure? flight.destination .star name) :
    ({ resolver with store } : Resolver σ α).literalSegment graph flight isFirst isLast tokens =
      resolver.literalSegment graph flight isFirst isLast tokens := by
  rw [literalSegment_eq, literalSegment_eq, head_congr departs]
  cases left : resolver.head graph flight isFirst tokens with
  | error failure => rfl
  | ok parts =>
    obtain ⟨front, middle⟩ := parts
    rw [ok_bind, ok_bind]
    dsimp only
    rw [tail_congr fun isLast => arrives isLast front middle left]
    rfl

/-- Segments that are resolved alike are resolved to the same pieces. -/
theorem piecesFrom_congr {other : Resolver σ α} {isFirst : Bool}
    (same : ∀ position segment, segments[position]? = some segment →
      other.pieceOf graph flight (isFirst && position == 0) (position + 1 == segments.length) segment =
        resolver.pieceOf graph flight (isFirst && position == 0) (position + 1 == segments.length)
          segment) :
    other.piecesFrom graph flight isFirst segments =
      resolver.piecesFrom graph flight isFirst segments := by
  induction segments generalizing isFirst with
  | nil => rfl
  | cons segment rest ih =>
    have here := same 0 segment rfl
    have last : (0 + 1 == (segment :: rest).length) = rest.isEmpty := by cases rest <;> rfl
    rw [last, beq_self_eq_true, Bool.and_true] at here
    have behind : other.piecesFrom graph flight false rest =
        resolver.piecesFrom graph flight false rest := by
      refine ih fun position other there => ?_
      have first : (isFirst && position + 1 == 0) = (false && position == 0) := by simp
      have last : (position + 1 + 1 == (segment :: rest).length) = (position + 1 == rest.length) := by
        simp
      rw [← first, ← last]
      exact same (position + 1) other there
    rw [piecesFrom_cons, piecesFrom_cons, here, behind]

/-- The pieces of a route depend on what is asked for only. -/
theorem pieces_congr (alike : resolver.AnswersLike graph flight segments store) :
    ({ resolver with store } : Resolver σ α).pieces graph flight segments =
      resolver.pieces graph flight segments := by
  refine piecesFrom_congr fun position segment here => ?_
  cases segment with
  | literal tokens =>
    have same : ({ resolver with store } : Resolver σ α).literalSegment graph flight
        (true && position == 0) (position + 1 == segments.length) tokens =
          resolver.literalSegment graph flight (true && position == 0)
            (position + 1 == segments.length) tokens := by
      rw [Bool.true_and]
      refine literalSegment_congr (fun first name stands => ?_)
        fun last front middle left name stands => ?_
      · obtain rfl := beq_iff_eq.mp first
        obtain ⟨rest, rfl⟩ := List.head?_eq_some_iff.mp stands
        exact alike.answers _ _ _ (.departure (List.head?_eq_getElem? ▸ here))
      · have final : position + 1 = segments.length := beq_iff_eq.mp last
        have only : (position == 0) = (segments.length == 1) := by
          rw [Bool.eq_iff_iff, beq_iff_eq, beq_iff_eq]
          omega
        have ends : segments.getLast? = some (.literal tokens) := by
          rw [List.getLast?_eq_getElem?, ← final]
          exact here
        exact alike.answers _ _ _ (.arrival ends (only ▸ left) stands)
    show (Resolver.literalSegment _ _ _ _ _ _ >>= _) = Resolver.literalSegment _ _ _ _ _ _ >>= _
    rw [same]
  | auto => rfl
  | rand => rfl

/-- The end of a shortest path at a waypoint asks for nothing. -/
theorem gapEnd_congr {side : Option Waypoint}
    (names : store.names runway kind = resolver.store.names runway kind)
    (same : side = none → ∀ name ∈ resolver.store.names runway kind,
      store.procedure? runway kind name = resolver.store.procedure? runway kind name) :
    ({ resolver with store } : Resolver σ α).gapEnd graph runway kind side =
      resolver.gapEnd graph runway kind side := by
  cases side with
  | some waypoint => rfl
  | none => exact Endpoint.ofRunway_congr (resolver.terminal graph runway) names (same rfl)

/-- What is filled with a shortest path comes from a command. -/
theorem auto_segment {position : Nat} {gap : Gap}
    (read : resolver.pieces graph flight segments = .ok pieces)
    (planned : (Piece.plan pieces)[position]? = some (.auto gap)) : segments[position]? = some .auto := by
  rw [Piece.plan, Piece.planAfter_getElem?] at planned
  obtain ⟨piece, here, command⟩ := Option.map_eq_some_iff.mp planned
  obtain ⟨segment, there, resolved⟩ := (piecesFrom_getElem? read).mp here
  cases segment with
  | auto => exact there
  | rand =>
    cases resolved
    cases command
  | literal tokens =>
    obtain ⟨route, _, same⟩ := bind_eq_ok.mp resolved
    cases same
    cases command

/-- Fills that are made alike are made to the same routes. -/
theorem fillAll_congr {other : Resolver σ α} {fills : List (Fill α)}
    (same : ∀ fill ∈ fills, ∀ draws,
      other.fill graph flight draws fill = resolver.fill graph flight draws fill) :
    other.fillAll graph flight draws fills = resolver.fillAll graph flight draws fills := by
  induction fills generalizing draws with
  | nil => rfl
  | cons first rest ih =>
    have further : ∀ draws, other.fillAll graph flight draws rest =
        resolver.fillAll graph flight draws rest :=
      fun _ => ih fun fill member => same fill (List.mem_cons_of_mem _ member)
    unfold fillAll
    rw [same first List.mem_cons_self]
    simp only [further]

/-- The fills of a route depend on what is asked for only. -/
theorem plan_congr (wellFormed : graph.WellFormed) (grouped : Segment.group tokens = .ok segments)
    (read : resolver.pieces graph flight segments = .ok pieces)
    (alike : resolver.AnswersLike graph flight segments store) :
    ({ resolver with store } : Resolver σ α).fillAll graph flight draws (Piece.plan pieces) =
      resolver.fillAll graph flight draws (Piece.plan pieces) := by
  refine fillAll_congr fun fill member draws => ?_
  cases fill with
  | done route => rfl
  | rand gap => rfl
  | auto gap =>
    obtain ⟨position, planned⟩ := List.mem_iff_getElem?.mp member
    have between := plan_between wellFormed grouped read planned rfl
    have auto := auto_segment read planned
    have entered : ({ resolver with store } : Resolver σ α).gapEnd graph flight.origin .sid gap.before =
        resolver.gapEnd graph flight.origin .sid gap.before := by
      refine gapEnd_congr (congrFun₂ alike.names _ _) fun outermost name listed => ?_
      obtain rfl := between.first.mp outermost
      exact alike.answers _ _ _ (.everyDeparture (List.head?_eq_getElem? ▸ auto) listed)
    have left : ({ resolver with store } : Resolver σ α).gapEnd graph flight.destination .star gap.after =
        resolver.gapEnd graph flight.destination .star gap.after := by
      refine gapEnd_congr (congrFun₂ alike.names _ _) fun outermost name listed => ?_
      have last : segments.getLast? = some .auto := by
        rw [List.getLast?_eq_getElem?, ← between.last.mp outermost]
        exact auto
      exact alike.answers _ _ _ (.everyArrival last listed)
    show (Resolver.autoFill _ _ _ _, _) = (Resolver.autoFill _ _ _ _, _)
    rw [autoFill_eq, autoFill_eq, entered, left]

/-- Tokens are resolved alike by stores that answer alike. -/
theorem resolveTokens_congr (wellFormed : graph.WellFormed) (draws : σ)
    (alike : ∀ segments, Segment.group tokens = .ok segments →
      resolver.AnswersLike graph flight segments store) :
    ({ resolver with store } : Resolver σ α).resolveTokens graph flight tokens draws =
      resolver.resolveTokens graph flight tokens draws := by
  unfold resolveTokens
  cases grouped : Segment.group tokens with
  | error failure => rfl
  | ok segments =>
    rw [ok_bind, ok_bind, pieces_congr (alike segments grouped)]
    cases read : resolver.pieces graph flight segments with
    | error failure => rfl
    | ok pieces =>
      dsimp only
      rw [plan_congr wellFormed grouped read (alike segments grouped)]

/-! ### Whole requests -/

/-- The procedures that are asked for while a request is resolved. -/
def Requests (resolver : Resolver σ α) (graph : Graph α) (request : RouteRequest) (runway : Runway)
    (kind : ProcedureKind) (name : String) : Prop :=
  ∃ flight tokens segments, resolver.flight request = .ok flight ∧ tokensOf request = .ok tokens ∧
    Segment.group tokens = .ok segments ∧
    resolver.Asks (resolver.coordinateScope graph tokens).graph flight segments runway kind name

/-- The source of random routes fails so while a request is resolved. -/
def Drawn (resolver : Resolver σ α) (graph : Graph α) (failure : RouteError) : Prop :=
  ∃ tokens start finish draws, (resolver.random (resolver.coordinateScope graph tokens).graph
    resolver.settings resolver.cancel start finish draws).1 = .error failure

/-- What the store says is heeded: no failure of it is masked, and a name that is not published is no
failure. -/
structure HeedsStore (resolver : Resolver σ α) (graph : Graph α) (request : RouteRequest) (draws : σ) :
    Prop where
  /-- A request that ends well has asked for nothing at which the store failed, but for names that are not
  published. -/
  heeded : ∀ route, (resolver.resolve graph request draws).outcome = .ok route →
    ∀ runway kind name, resolver.Requests graph request runway kind name →
      FailsOnly Unpublished (resolver.store.procedure runway kind name)
  /-- Where the store fails at the departure that the first token may name, the request fails with that. -/
  surfaces : ∀ flight name rest failure, resolver.flight request = .ok flight →
    tokensOf request = .ok (.ident name :: rest) →
    resolver.store.procedure flight.origin .sid name = .error failure → ¬Unpublished failure →
      (resolver.resolve graph request draws).outcome = .error failure
  /-- That a name is not published is said by none but the source of random routes. -/
  swallowed : ∀ failure, (resolver.resolve graph request draws).outcome = .error failure →
    Unpublished failure → resolver.Drawn graph failure
  /-- Nothing else is asked for: a store that answers alike there resolves alike. -/
  complete : ∀ store : ProcedureStore α, store.names = resolver.store.names →
    (∀ runway kind name, resolver.Requests graph request runway kind name →
      store.procedure? runway kind name = resolver.store.procedure? runway kind name) →
    ({ resolver with store } : Resolver σ α).resolve graph request draws =
      resolver.resolve graph request draws

/-- No two commands of a request stand side by side. -/
theorem tokensOf_apart (read : tokensOf request = .ok tokens) : RouteString.Apart tokens := by
  obtain ⟨all, _, read⟩ := bind_eq_ok.mp read
  obtain ⟨_, checked, whole⟩ := bind_eq_ok.mp read
  cases whole
  exact (RouteString.checkCommands_eq_ok.mp checked).stripAirports _ _

/-- What a request that ends well has asked for has been answered. -/
theorem Requests.answered (requested : resolver.Requests graph request runway kind name)
    {route : Route α} (resolved : (resolver.resolve graph request draws).outcome = .ok route) :
    ∃ answer, resolver.store.procedure? runway kind name = .ok answer := by
  obtain ⟨flight, tokens, segments, known, read, grouped, asked⟩ := requested
  unfold resolve at resolved
  rw [known] at resolved
  dsimp only at resolved
  rw [read] at resolved
  cases tokens with
  | nil =>
    cases grouped
    cases asked with
    | departure first => cases first
    | arrival last => cases last
    | everyDeparture first => cases first
    | everyArrival last => cases last
  | cons token rest =>
    obtain ⟨own, pieces, routes, behind, again, found, filled, _⟩ := resolveTokens_eq_ok.mp resolved
    cases grouped.symm.trans again
    exact asked.answered found filled

/-- **What the store says about the first token** is what the request says. -/
theorem resolve_departure_failed {rest : List Token} {failure : RouteError}
    (known : resolver.flight request = .ok flight) (read : tokensOf request = .ok (.ident name :: rest))
    (failed : resolver.store.procedure? flight.origin .sid name = .error failure) :
    (resolver.resolve graph request draws).outcome = .error failure := by
  obtain ⟨segments, grouped⟩ := Segment.exists_group (tokensOf_apart read)
  obtain ⟨inner, others, rfl⟩ := Segment.group_cons rfl grouped
  have unread : resolver.pieces (resolver.coordinateScope graph (.ident name :: rest)).graph flight
      (.literal (.ident name :: inner) :: others) = .error failure := by
    show (((resolver.store.procedure? flight.origin .sid name >>= _) >>= _) >>= _) >>= _ = _
    rw [failed]
    rfl
  unfold resolve
  rw [known]
  dsimp only
  rw [read]
  dsimp only [resolveTokens]
  rw [grouped, ok_bind, unread]

/-- **No request fails for a name that is not published**, unless the source of random routes does. -/
theorem resolve_tolerant (wellFormed : graph.WellFormed) :
    FailsOnly (fun failure => ¬Unpublished failure ∨ resolver.Drawn graph failure)
      (resolver.resolve graph request draws).outcome := by
  let reason failure := ¬Unpublished failure ∨ resolver.Drawn graph failure
  have tolerant : Tolerant reason := tolerant_of_not_unpublished fun _ => Or.inl
  have answers : resolver.store.AnswersFor reason := fun runway kind name =>
    (resolver.store.answersFor runway kind name).mono fun _ => Or.inl
  refine resolve_failsOnly tolerant request draws fun flight tokens _ => ?_
  have formed := (coordinateScope_over wellFormed resolver tokens).wellFormed
  refine resolveTokens_failsOnly tolerant formed answers (fun start finish own failure failed => ?_)
    (fun _ _ isFirst isLast own _ => ?_) draws
  · exact Or.inr ⟨tokens, start, finish, own, failed⟩
  · refine literalSegment_failsOnly tolerant (fun ident => ?_) formed answers isFirst isLast own
    exact Or.inl fun ⟨_, _, same⟩ => nomatch same

/-- A request asks for nothing else: stores that answer alike there resolve alike. -/
theorem resolve_congr (wellFormed : graph.WellFormed) (names : store.names = resolver.store.names)
    (answers : ∀ runway kind name, resolver.Requests graph request runway kind name →
      store.procedure? runway kind name = resolver.store.procedure? runway kind name) :
    ({ resolver with store } : Resolver σ α).resolve graph request draws =
      resolver.resolve graph request draws := by
  unfold resolve
  have known : ({ resolver with store } : Resolver σ α).flight request = resolver.flight request := rfl
  rw [known]
  cases found : resolver.flight request with
  | error failure => rfl
  | ok flight =>
    dsimp only
    cases read : tokensOf request with
    | error failure => rfl
    | ok tokens =>
      cases tokens with
      | nil => rfl
      | cons first rest =>
        have formed := (coordinateScope_over wellFormed resolver (first :: rest)).wellFormed
        have same := resolveTokens_congr formed draws fun segments grouped =>
          ⟨names, fun runway kind name asked =>
            answers runway kind name ⟨flight, first :: rest, segments, found, read, grouped, asked⟩⟩
        let scope := resolver.coordinateScope graph (first :: rest)
        exact congrArg (fun result => (⟨result.1, scope.close, result.2⟩ : Resolution σ α)) same

/-- **No failure of the store is masked**, whatever it answers. -/
theorem resolve_heedsStore (wellFormed : graph.WellFormed) (resolver : Resolver σ α)
    (request : RouteRequest) (draws : σ) : resolver.HeedsStore graph request draws where
  heeded route resolved runway kind name requested := by
    obtain ⟨answer, answered⟩ := requested.answered resolved
    exact ProcedureStore.failsOnly_unpublished answered
  surfaces flight name rest failure known read failed other :=
    resolve_departure_failed known read (ProcedureStore.procedure?_eq_error failed other)
  swallowed failure failed unpublished :=
    (resolve_tolerant wellFormed failure failed).resolve_left (not_not_intro unpublished)
  complete store names answers := resolve_congr wellFormed names answers

/-- A store that is out of reach. -/
def outOfReach : ProcedureStore ℚ where
  procedure _ _ _ := .error (.store (.unavailable "out of reach"))
  names _ _ := []

omit [Distance α] in
/-- The one token of a text names a waypoint once the store says that it is no departure; when the store is
out of reach, the request says so. -/
theorem resolve_heedsStore_crossing :
    crossing.WellFormed ∧ planar.flight ⟨"KAAA", "09", "KBBB", "27", "A"⟩ = .ok eastbound ∧
      tokensOf ⟨"KAAA", "09", "KBBB", "27", "A"⟩ = .ok [.ident "A"] ∧
      (∃ route, (planar.resolve crossing ⟨"KAAA", "09", "KBBB", "27", "A"⟩ ()).outcome = .ok route) ∧
      planar.Requests crossing ⟨"KAAA", "09", "KBBB", "27", "A"⟩ eastbound.origin .sid "A" ∧
      FailsOnly Unpublished (planar.store.procedure eastbound.origin .sid "A") ∧
      (({ planar with store := outOfReach } : Resolver Unit ℚ).resolve crossing
        ⟨"KAAA", "09", "KBBB", "27", "A"⟩ ()).outcome = .error (.store (.unavailable "out of reach")) := by
  have wellFormed : crossing.WellFormed := crossing_built.wellFormed
  have known := planar_flight "A"
  obtain ⟨route, resolved⟩ := planar_resolve
  have requested : planar.Requests crossing ⟨"KAAA", "09", "KBBB", "27", "A"⟩ eastbound.origin .sid "A" :=
    ⟨eastbound, _, [.literal [.ident "A"]], known, tokensOf_single, rfl, .departure rfl⟩
  have near := resolve_heedsStore wellFormed planar ⟨"KAAA", "09", "KBBB", "27", "A"⟩ ()
  have far := resolve_heedsStore wellFormed { planar with store := outOfReach }
    ⟨"KAAA", "09", "KBBB", "27", "A"⟩ ()
  refine ⟨wellFormed, known, tokensOf_single, ⟨route, resolved⟩, requested,
    near.heeded route resolved _ _ _ requested, ?_⟩
  exact far.surfaces eastbound "A" [] _ known tokensOf_single rfl nofun

end Resolver

end FlightRoute
