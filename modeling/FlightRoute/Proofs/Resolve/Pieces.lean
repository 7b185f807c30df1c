/-
**The pieces of a route.**

Once its literal segments are resolved a route consists of finished routes and commands, in the order of
the segments. Every finished route spans its part of the flight, and only a single segment that is the
whole route can fail at a seam.

* `piecesFrom_spans`: each piece is of the kind of its segment and spans its part of the flight;
* `pieces_alternate`: finished routes and commands alternate;
* `piecesFrom_mismatch_iff`: when pieces fail at a seam.
-/

import FlightRoute.Proofs.Resolve.LiteralSegment
import FlightRoute.Proofs.Segment

namespace FlightRoute

variable {σ α : Type}

namespace Piece

/-- Whether a piece is a finished route. -/
def isRoute : Piece α → Bool
  | route _ => true
  | _ => false

variable [Distance α]

/-- A finished route spans its part of the flight; a command is still to be filled in. -/
def Spans (graph : Graph α) (flight : Flight) (isFirst isLast : Bool) : Piece α → Prop
  | route r => r.Spans graph flight isFirst isLast
  | _ => True

/-- Every piece spans its part of the flight; the first of them is the first of the route or not. -/
def AllSpan (graph : Graph α) (flight : Flight) (isFirst : Bool) : List (Piece α) → Prop
  | [] => True
  | piece :: rest => piece.Spans graph flight isFirst rest.isEmpty ∧ AllSpan graph flight false rest

end Piece

namespace Resolver

variable [Distance α] {resolver : Resolver σ α} {graph : Graph α} {flight : Flight} {isFirst : Bool}
  {segments : List Segment} {pieces : List (Piece α)}

/-- The piece of a segment. -/
def pieceOf (resolver : Resolver σ α) (graph : Graph α) (flight : Flight) (isFirst isLast : Bool) :
    Segment → Except RouteError (Piece α)
  | .auto => .ok .auto
  | .rand => .ok .rand
  | .literal tokens => do
    return .route (← resolver.literalSegment graph flight isFirst isLast tokens)

theorem piecesFrom_cons (segment : Segment) (rest : List Segment) :
    resolver.piecesFrom graph flight isFirst (segment :: rest) =
      (do
        let piece ← resolver.pieceOf graph flight isFirst rest.isEmpty segment
        return piece :: (← resolver.piecesFrom graph flight false rest)) := by
  cases segment with
  | literal tokens => exact (bind_assoc (resolver.literalSegment _ _ _ _ tokens) _ _).symm
  | auto => rfl
  | rand => rfl

/-- There is a piece for every segment. -/
theorem piecesFrom_isEmpty (read : resolver.piecesFrom graph flight isFirst segments = .ok pieces) :
    pieces.isEmpty = segments.isEmpty := by
  cases segments with
  | nil =>
    cases read
    rfl
  | cons segment rest =>
    rw [piecesFrom_cons] at read
    obtain ⟨piece, _, read⟩ := bind_eq_ok.mp read
    obtain ⟨others, _, whole⟩ := bind_eq_ok.mp read
    cases whole
    rfl

/-- The piece of a segment is of its kind and spans its part of the flight. -/
theorem pieceOf_spans (wellFormed : graph.WellFormed) {isLast : Bool} {segment : Segment}
    {piece : Piece α} (read : resolver.pieceOf graph flight isFirst isLast segment = .ok piece) :
    piece.isRoute = segment.isLiteral ∧ piece.Spans graph flight isFirst isLast := by
  cases segment with
  | literal tokens =>
    obtain ⟨route, resolved, whole⟩ := bind_eq_ok.mp read
    cases whole
    exact ⟨rfl, literalSegment_span wellFormed resolved⟩
  | auto =>
    cases read
    exact ⟨rfl, trivial⟩
  | rand =>
    cases read
    exact ⟨rfl, trivial⟩

/-- **The pieces of segments** are of the kinds of the segments and span their parts of the flight. -/
theorem piecesFrom_spans (wellFormed : graph.WellFormed)
    (read : resolver.piecesFrom graph flight isFirst segments = .ok pieces) :
    pieces.map Piece.isRoute = segments.map Segment.isLiteral ∧
      Piece.AllSpan graph flight isFirst pieces := by
  induction segments generalizing isFirst pieces with
  | nil =>
    cases read
    exact ⟨rfl, trivial⟩
  | cons segment rest ih =>
    rw [piecesFrom_cons] at read
    obtain ⟨piece, here, read⟩ := bind_eq_ok.mp read
    obtain ⟨others, there, whole⟩ := bind_eq_ok.mp read
    cases whole
    obtain ⟨kinds, behind⟩ := ih there
    obtain ⟨kind, spans⟩ := pieceOf_spans wellFormed here
    refine ⟨?_, piecesFrom_isEmpty there ▸ spans, behind⟩
    rw [List.map_cons, List.map_cons, kind, kinds]

/-- There is a piece for every segment, and finished routes and commands alternate. -/
theorem pieces_alternate (wellFormed : graph.WellFormed) {tokens : List Token}
    (grouped : Segment.group tokens = .ok segments)
    (read : resolver.pieces graph flight segments = .ok pieces) :
    pieces.length = segments.length ∧ (pieces.map Piece.isRoute).IsChain (· ≠ ·) := by
  obtain ⟨kinds, _⟩ := piecesFrom_spans wellFormed read
  refine ⟨?_, kinds ▸ Segment.group_alternates grouped⟩
  rw [← List.length_map Piece.isRoute, kinds, List.length_map]

/-- **Pieces fail at a seam** exactly when the whole route is one literal segment that does. -/
theorem piecesFrom_mismatch_iff (wellFormed : graph.WellFormed) (comparable : graph.Comparable)
    (store : resolver.store.Seamless) {left right : String} :
    resolver.piecesFrom graph flight isFirst segments = .error (.connectionMismatch left right) ↔
      isFirst = true ∧ ∃ tokens token, segments = [.literal tokens] ∧
        SeamClash resolver graph flight tokens token ∧ left = token.text ∧ right = token.text := by
  induction segments generalizing isFirst with
  | nil =>
    constructor
    · nofun
    · rintro ⟨_, _, _, nothing, _⟩
      cases nothing
  | cons segment rest ih =>
    rw [piecesFrom_cons]
    constructor
    · intro failed
      rcases bind_eq_error.mp failed with here | ⟨piece, _, failed⟩
      · cases segment with
        | literal tokens =>
          rcases bind_eq_error.mp here with here | ⟨_, _, done⟩
          · obtain ⟨first, last, token, clash, texts⟩ :=
              (literalSegment_mismatch_iff wellFormed comparable store).mp here
            exact ⟨first, tokens, token, by rw [List.isEmpty_iff.mp last], clash, texts⟩
          · cases done
        | auto => cases here
        | rand => cases here
      · rcases bind_eq_error.mp failed with there | ⟨_, _, done⟩
        · obtain ⟨first, _⟩ := ih.mp there
          cases first
        · cases done
    · rintro ⟨rfl, tokens, token, whole, clash, rfl, rfl⟩
      cases whole
      have failed : resolver.literalSegment graph flight true true tokens = _ :=
        clash.fails wellFormed comparable
      show (resolver.literalSegment graph flight true true tokens >>= _) >>= _ = _
      rw [failed]
      rfl

end Resolver

end FlightRoute
