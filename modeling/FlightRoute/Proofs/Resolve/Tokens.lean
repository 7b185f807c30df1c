/-
**The tokens of a request and their coordinates.**

A word becomes a literal coordinate only when its position is on the globe, and then both degrees are
numbers. Taking the coordinates into a graph therefore leaves it one whose waypoints agree with
themselves.

* `parse_words`: a text of words in capitals has the tokens of these words;
* `parse_isRead`, `tokensOf_isRead`: tokens are what their texts are read as;
* `tokensOf_comparable`: the literal coordinates of a request agree with themselves;
* `coordinateScope_comparable`: so do the waypoints of the graph that holds them;
* `flight_failsOnly`, `tokensOf_failsOnly`, `group_failsOnly`: why a request cannot be read.
-/

import FlightRoute.Proofs.Graph.Lookup
import FlightRoute.Proofs.Graph.Rollback
import FlightRoute.Proofs.Seamless

namespace FlightRoute

/-! ### Tokens -/

/-- A position on the globe agrees with itself. -/
theorem Position.onGlobe_beq {position : Position} (onGlobe : position.onGlobe = true) :
    (position.lat == position.lat) = true ∧ (position.lon == position.lon) = true := by
  unfold Position.onGlobe at onGlobe
  obtain ⟨lat, lon⟩ := Bool.and_eq_true_iff.mp onGlobe
  exact ⟨float_beq_self (of_decide_eq_true lat), float_beq_self (of_decide_eq_true lon)⟩

/-- A token is written as the word that it was read from. -/
theorem Token.classify_text {word : String} {token : Token} (read : Token.classify word = .ok token) :
    token.text = word := by
  unfold classify at read
  split at read
  · rename_i same
    cases read
    exact same.symm
  · split at read
    · rename_i same
      cases read
      exact same.symm
    · split at read
      · rename_i same
        cases read
        exact same.symm
      · obtain ⟨answer, _, read⟩ := bind_eq_ok.mp read
        cases answer with
        | none =>
          cases read
          rfl
        | some position =>
          cases read
          rfl

/-- A token that is what its text is read as. -/
def Token.IsRead (token : Token) : Prop := Token.classify token.text = .ok token

/-- A literal coordinate agrees with itself. -/
theorem Token.classify_comparable {word : String} {token : Token}
    (read : Token.classify word = .ok token) {waypoint : Waypoint}
    (literal : token.coordinateWaypoint = some waypoint) : (waypoint == waypoint) = true := by
  unfold classify at read
  split at read
  · cases read
    cases literal
  · split at read
    · cases read
      cases literal
    · split at read
      · cases read
        cases literal
      · obtain ⟨answer, parsed, read⟩ := bind_eq_ok.mp read
        cases answer with
        | none =>
          cases read
          cases literal
        | some position =>
          cases read
          cases literal
          unfold Position.parse at parsed
          split at parsed
          · cases parsed
          · split at parsed
            · rename_i onGlobe
              cases parsed
              exact Waypoint.beq_iff.mpr ⟨rfl, Position.onGlobe_beq onGlobe⟩
            · cases parsed

/-- Fifty degrees north and twenty degrees west. -/
def Position.northwestern : Position :=
  ⟨Text.Digits.decimal ['5', '0'] [], -Text.Digits.decimal ['2', '0'] []⟩

/-- A word of four digits and a letter is a literal coordinate. -/
theorem Token.classify_literal :
    Token.classify "5020N" = .ok (.coordinate "5020N" .northwestern) := by
  have onGlobe : Position.northwestern.onGlobe = true := by decide
  have shaped : Position.shaped? "5020N" = some .northwestern := rfl
  have parsed : Position.parse "5020N" = .ok (some .northwestern) := by
    rw [Position.parse, shaped]
    exact if_pos onGlobe
  show (Position.parse "5020N" >>= _) = _
  rw [parsed]
  rfl

theorem Token.classify_failsOnly (word : String) : FailsOnly Malformed (Token.classify word) := by
  unfold classify
  split
  · exact .ok _
  · split
    · exact .ok _
    · split
      · exact .ok _
      · refine .bind ?_ fun answer _ => ?_
        · unfold Position.parse
          split
          · exact .ok _
          · split
            · exact .ok _
            · exact .error ⟨_, rfl⟩
        · split <;> exact .ok _

/-! ### Texts in capitals -/

namespace Text

/-- A character that is no small letter stays as it is. -/
theorem toUpper_of_not_isLower {c : Char} (other : ¬c.isLower = true) : c.toUpper = c := by
  unfold Char.isLower at other
  rw [Bool.and_eq_true, decide_eq_true_iff, decide_eq_true_iff] at other
  exact dif_neg other

/-- Whether a word has no small letter. -/
def inCapitals (word : String) : Bool := word.toList.all fun c => !c.isLower

/-- A word in capitals stays as it is. -/
theorem toUpper_eq_self {word : String} (capitals : inCapitals word = true) :
    word.toUpper = word := by
  have same : word.toList.map Char.toUpper = word.toList.map id := by
    refine List.map_congr_left fun c member => toUpper_of_not_isLower ?_
    have other : (!c.isLower) = true := List.all_eq_true.mp capitals c member
    exact Bool.eq_false_iff.mp (Bool.not_eq_true' _ ▸ other)
  rw [← String.toList_inj]
  unfold String.toUpper
  rw [String.toList_map, same, List.map_id]

end Text

namespace RouteString

/-- The tokens that stay without the airports are tokens of the text. -/
theorem mem_of_mem_stripAirports {origin destination : String} {tokens : List Token} {token : Token}
    (member : token ∈ stripAirports origin destination tokens) : token ∈ tokens := by
  have front : token ∈ stripOrigin origin tokens := by
    unfold stripAirports stripDestination at member
    split at member
    · split at member
      · exact List.dropLast_subset _ member
      · exact member
    · exact member
  unfold stripOrigin at front
  split at front
  · split at front
    · exact List.mem_cons_of_mem _ front
    · exact front
  · exact front

/-- A text of words in capitals has the tokens of these words. -/
theorem parse_words {text : String} {words : List String} {tokens : List Token}
    (split : Text.words text = words) (capitals : words.all Text.inCapitals = true)
    (read : words.mapM Token.classify = .ok tokens) : parse text = .ok tokens := by
  unfold parse
  rw [split, ← read]
  exact mapM_congr fun word member => by
    rw [Text.toUpper_eq_self (List.all_eq_true.mp capitals word member)]

/-- A text of one word in capitals is one token. -/
theorem parse_word {word : String} {token : Token} (only : Text.words word = [word])
    (capitals : Text.inCapitals word = true) (read : Token.classify word = .ok token) :
    parse word = .ok [token] := by
  refine parse_words only (List.all_eq_true.mpr (List.forall_mem_singleton.mpr capitals)) ?_
  rw [List.mapM_cons, read]
  rfl

/-- **The tokens of a text** are what they are read as. -/
theorem parse_isRead {text : String} {tokens : List Token} (parsed : parse text = .ok tokens) :
    ∀ token ∈ tokens, token.IsRead := by
  intro token member
  obtain ⟨position, here⟩ := List.mem_iff_getElem?.mp member
  obtain ⟨word, _, classified⟩ := (mapM_getElem? parsed).mp here
  rw [Token.IsRead, Token.classify_text classified]
  exact classified

theorem parse_failsOnly (text : String) : FailsOnly Malformed (parse text) :=
  .mapM fun word _ => Token.classify_failsOnly word.toUpper

theorem checkCommands_failsOnly (tokens : List Token) : FailsOnly Malformed (checkCommands tokens) := by
  unfold checkCommands
  split
  · exact .error ⟨_, rfl⟩
  · exact .ok _

end RouteString

/-- **Grouping tokens fails** only when they are malformed. -/
theorem Segment.group_failsOnly (tokens : List Token) : FailsOnly Malformed (Segment.group tokens) := by
  unfold group
  generalize (none : Option Token) = previous
  generalize ([] : List Token) = run
  induction tokens generalizing previous run with
  | nil => exact .ok _
  | cons token rest ih =>
    unfold groupAfter
    split
    · split
      · exact .error ⟨_, rfl⟩
      · exact (ih _ _).bind fun _ _ => .ok _
    · exact ih _ _

/-- A request for a runway that the airport does not have. -/
def UnknownRunway (failure : RouteError) : Prop :=
  ∃ icao runway, failure = .unknownRunway icao runway

/-- **Looking up the runways of a request fails** only when there is no such runway. -/
theorem Resolver.flight_failsOnly {σ α : Type} (resolver : Resolver σ α) (request : RouteRequest) :
    FailsOnly UnknownRunway (resolver.flight request) := by
  have runway : ∀ icao designator,
      FailsOnly UnknownRunway (resolver.airports.runway icao designator) := by
    intro icao designator
    unfold AirportTable.runway
    split
    · exact .ok _
    · exact .error ⟨_, _, rfl⟩
  exact (runway _ _).bind fun _ _ => (runway _ _).bind fun _ _ => .ok _

/-- **Reading the tokens of a request fails** only when its text is malformed. -/
theorem Resolver.tokensOf_failsOnly (request : RouteRequest) :
    FailsOnly Malformed (tokensOf request) :=
  (RouteString.parse_failsOnly _).bind fun tokens _ =>
    (RouteString.checkCommands_failsOnly tokens).bind fun _ _ => .ok _

/-! ### The graph of a request -/

variable {σ α : Type} [Distance α]

namespace Resolver

/-- The tokens of a text whose commands stand apart, without the airports of the request. -/
theorem tokensOf_of_parse {request : RouteRequest} {tokens inner : List Token}
    (parsed : RouteString.parse request.route = .ok tokens)
    (checked : RouteString.checkCommands tokens = .ok ())
    (stripped : RouteString.stripAirports request.originIcao request.destinationIcao tokens = inner) :
    tokensOf request = .ok inner := by
  unfold tokensOf
  rw [parsed, ok_bind, checked, ← stripped]
  rfl

/-- The tokens of a request are tokens of its text. -/
theorem tokensOf_parse {request : RouteRequest} {tokens : List Token}
    (read : tokensOf request = .ok tokens) :
    ∃ all, RouteString.parse request.route = .ok all ∧ ∀ token ∈ tokens, token ∈ all := by
  obtain ⟨all, parsed, read⟩ := bind_eq_ok.mp read
  obtain ⟨_, _, read⟩ := bind_eq_ok.mp read
  cases read
  exact ⟨all, parsed, fun _ => RouteString.mem_of_mem_stripAirports⟩

theorem tokensOf_isRead {request : RouteRequest} {tokens : List Token}
    (read : tokensOf request = .ok tokens) : ∀ token ∈ tokens, token.IsRead := by
  obtain ⟨all, parsed, listed⟩ := tokensOf_parse read
  exact fun token member => RouteString.parse_isRead parsed token (listed token member)

/-- **The literal coordinates of a request** agree with themselves. -/
theorem tokensOf_comparable {request : RouteRequest} {tokens : List Token}
    (read : tokensOf request = .ok tokens) :
    ∀ waypoint ∈ RouteString.coordinates tokens, (waypoint == waypoint) = true := by
  intro waypoint member
  obtain ⟨token, listed, literal⟩ := List.mem_filterMap.mp member
  exact Token.classify_comparable (tokensOf_isRead read token listed) literal

/-- **What holds of the waypoints of a graph and of the literal coordinates** holds of the waypoints of the graph
of a request. -/
theorem coordinateScope_forall (resolver : Resolver σ α) {graph : Graph α} {tokens : List Token}
    {P : Waypoint → Prop} (old : ∀ waypoint ∈ graph.waypoints, P waypoint)
    (literal : ∀ waypoint ∈ RouteString.coordinates tokens, P waypoint) :
    ∀ waypoint ∈ (resolver.coordinateScope graph tokens).graph.waypoints, P waypoint := by
  refine List.foldlRecOn (motive := fun scope : Scope α => ∀ waypoint ∈ scope.graph.waypoints, P waypoint)
    _ _ old fun scope before first listed => ?_
  unfold injectMissing
  split
  · exact before
  · intro waypoint member
    rw [Scope.waypoints_inject, Array.mem_push] at member
    rcases member with earlier | rfl
    · exact before waypoint earlier
    · exact literal waypoint listed

/-- **The graph of a request** has waypoints that agree with themselves, if the old one has and the
literal coordinates do. -/
theorem coordinateScope_comparable (resolver : Resolver σ α) {graph : Graph α} {tokens : List Token}
    (comparable : graph.Comparable)
    (literal : ∀ waypoint ∈ RouteString.coordinates tokens, (waypoint == waypoint) = true) :
    (resolver.coordinateScope graph tokens).graph.Comparable :=
  resolver.coordinateScope_forall comparable literal

end Resolver

end FlightRoute
