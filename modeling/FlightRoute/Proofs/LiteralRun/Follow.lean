/-
**One leg of a literal run.**

What a token means is fixed by the pin that it bears, by its coordinate or by its identifier, and it is a
waypoint of the graph (`Means`). A direct leg leads to what its token means; a leg along an airway is
made of edges of that airway and leads to what the token behind it means. A run that has come to a node
has a route up to a waypoint that agrees with the one of the node (`Reaches`), and every leg keeps that.

* `nodeOf_means`: the node that a token means;
* `directLeg_eq_ok`, `airwayLeg_steps`, `airwayLeg_eq_ok`: what one leg consists of;
* `directLeg_reaches`, `airwayLeg_reaches`: one leg further.
-/

import FlightRoute.LiteralRun
import FlightRoute.Proofs.Graph.Lookup
import FlightRoute.Proofs.Route.Connect
import FlightRoute.Proofs.ShortestRoute.Assembly

namespace FlightRoute

namespace LiteralRun

variable {α : Type}

/-- The run has come to a node by a route. -/
structure Reaches (run : LiteralRun α) (current : Nat) (route : Route α) (start finish : Waypoint) :
    Prop where
  runs : Route.Runs start route.nodes finish
  node : ∃ own, run.graph.waypoints[current]? = some own ∧ own.Same finish

/-- A pin that a token bears, if there is one, is the waypoint. -/
def Pins (pin : Option Waypoint) (token : Token) (waypoint : Waypoint) : Prop :=
  ∀ fixed, pin = some fixed → fixed.ident = token.text → fixed.Same waypoint

/-- A waypoint that a token may mean: one of the graph that bears its identifier, which is the pin if
the pin bears it too, and otherwise the own waypoint of a literal coordinate. -/
structure Means (graph : Graph α) (pin : Option Waypoint) (token : Token) (waypoint : Waypoint) :
    Prop where
  stands : token.isWaypoint = true
  named : token.text = waypoint.ident
  holds : graph.Holds waypoint
  pinned : ∀ fixed, pin = some fixed → fixed.ident = token.text → (fixed == waypoint) = true
  literal : ∀ exact, token.coordinateWaypoint = some exact →
    (∀ fixed, pin = some fixed → fixed.ident ≠ token.text) → (exact == waypoint) = true

variable {graph : Graph α} {run : LiteralRun α} {current next : Nat} {route more : Route α}
  {token : Token} {pin : Option Waypoint} {waypoint other : Waypoint}

theorem Means.pins (means : Means graph pin token waypoint) : Pins pin token waypoint :=
  fun fixed given bears => Or.inr (means.pinned fixed given bears)

/-- What agrees with a meaning is one too. -/
theorem Means.same (means : Means graph pin token waypoint) (same : waypoint.Same other) :
    Means graph pin token other := by
  rcases same with rfl | same
  · exact means
  · refine ⟨means.stands, means.named.trans (Waypoint.ident_eq_of_beq same), ?_, ?_, ?_⟩
    · obtain ⟨node, own, place, agrees⟩ := means.holds
      exact ⟨node, own, place, agrees.trans (Or.inr same)⟩
    · exact fun fixed given bears => BEq.trans (means.pinned fixed given bears) same
    · exact fun exact reads free => BEq.trans (means.literal exact reads free) same

/-- A literal coordinate bears its text. -/
theorem ident_of_coordinateWaypoint {exact : Waypoint}
    (reads : token.coordinateWaypoint = some exact) :
    token.isWaypoint = true ∧ exact.ident = token.text := by
  cases token <;> cases reads
  exact ⟨rfl, rfl⟩

theorem nodeOfWaypoint_eq_ok :
    run.nodeOfWaypoint waypoint = .ok next ↔ run.graph.byWaypoint? waypoint = some next := by
  unfold nodeOfWaypoint
  cases run.graph.byWaypoint? waypoint with
  | none => simp
  | some node => simp

/-! ### Three ways to a meaning -/

/-- A pin that the token bears. -/
theorem means_pin (stands : token.isWaypoint = true) (known : pin = some waypoint)
    (bears : waypoint.ident = token.text) (found : run.nodeOfWaypoint waypoint = .ok next) :
    ∃ own, run.graph.waypoints[next]? = some own ∧ Means run.graph pin token own := by
  obtain ⟨own, place, agrees⟩ := Graph.byWaypoint?_eq_some (nodeOfWaypoint_eq_ok.mp found)
  have named : own.ident = waypoint.ident := Waypoint.ident_eq_of_beq agrees
  refine ⟨own, place, stands, (named.trans bears).symm, ⟨next, own, place, .refl _⟩, ?_, ?_⟩
  · intro fixed given _
    rw [known] at given
    cases given
    exact BEq.symm agrees
  · exact fun exact _ free => absurd bears (free waypoint known)

/-- The own waypoint of a literal coordinate. -/
theorem means_literal {exact : Waypoint} (free : ∀ fixed, pin = some fixed → fixed.ident ≠ token.text)
    (reads : token.coordinateWaypoint = some exact) (found : run.nodeOfWaypoint exact = .ok next) :
    ∃ own, run.graph.waypoints[next]? = some own ∧ Means run.graph pin token own := by
  obtain ⟨stands, bears⟩ := ident_of_coordinateWaypoint reads
  obtain ⟨own, place, agrees⟩ := Graph.byWaypoint?_eq_some (nodeOfWaypoint_eq_ok.mp found)
  have named : own.ident = exact.ident := Waypoint.ident_eq_of_beq agrees
  refine ⟨own, place, stands, (named.trans bears).symm, ⟨next, own, place, .refl _⟩, ?_, ?_⟩
  · exact fun fixed given bears => absurd bears (free fixed given)
  · intro other same _
    rw [reads] at same
    cases same
    exact BEq.symm agrees

/-- A waypoint of the graph that bears the identifier. -/
theorem means_ident {own : Waypoint} (stands : token.isWaypoint = true)
    (free : ∀ fixed, pin = some fixed → fixed.ident ≠ token.text)
    (other : token.coordinateWaypoint = none) (place : run.graph.waypoints[next]? = some own)
    (named : own.ident = token.text) : Means run.graph pin token own where
  stands := stands
  named := named.symm
  holds := ⟨next, own, place, .refl _⟩
  pinned fixed given bears := absurd bears (free fixed given)
  literal exact reads _ := by
    rw [other] at reads
    cases reads

/-- A meaning under the pin of a token is one under the last pin, which counts for the last token
only. -/
theorem Means.of_pinFor {isLast : Bool} (means : Means graph (run.pinFor isLast token) token waypoint) :
    Means graph (if isLast then run.lastPin else none) token waypoint := by
  have same : ∀ fixed, fixed.ident = token.text →
      ((if isLast then run.lastPin else none) = some fixed ↔ run.pinFor isLast token = some fixed) := by
    intro fixed bears
    unfold pinFor
    cases isLast with
    | false => simp
    | true => simp [Option.filter_eq_some_iff, bears]
  refine ⟨means.stands, means.named, means.holds, fun fixed given bears => ?_, fun exact reads free => ?_⟩
  · exact means.pinned fixed ((same fixed bears).mp given) bears
  · refine means.literal exact reads fun fixed given bears => ?_
    exact free fixed ((same fixed bears).mpr given) bears

variable [Distance α]

/-- An identifier without a pin means the closest node of that name. -/
theorem nodeOf_ident (run : LiteralRun α) (name : String) (near : Waypoint) :
    run.nodeOf (.ident name) near none =
      match run.graph.closestByIdent? name near with
      | some node => .ok node
      | none => .error (.unresolvedReference name) := rfl

/-- So it does where one node alone bears the name. -/
theorem nodeOf_of_unique (exactIndex : run.graph.ExactIndex) {name : String}
    (bearers : run.graph.bearers name = [next]) (near : Waypoint) :
    run.nodeOf (.ident name) near none = .ok next := by
  rw [nodeOf_ident, Graph.closestByIdent?_of_unique exactIndex bearers]

/-- **The node that a token means** has a waypoint that the token means. -/
theorem nodeOf_means (exactIndex : run.graph.ExactIndex) {near : Waypoint}
    (found : run.nodeOf token near pin = .ok next) :
    ∃ own, run.graph.waypoints[next]? = some own ∧ Means run.graph pin token own := by
  unfold nodeOf at found
  split at found
  · cases found
  · rename_i stands
    rw [Bool.not_eq_true, Bool.not_eq_false'] at stands
    cases bears : pin.filter (fun pin => pin.ident == token.text) with
    | some fixed =>
      rw [bears] at found
      obtain ⟨known, named⟩ := Option.filter_eq_some_iff.mp bears
      exact means_pin stands known (beq_iff_eq.mp named) found
    | none =>
      rw [bears] at found
      have free : ∀ fixed, pin = some fixed → fixed.ident ≠ token.text := by
        intro fixed given named
        rw [given, Option.filter_some, beq_iff_eq.mpr named] at bears
        cases bears
      cases reads : token.coordinateWaypoint with
      | some exact =>
        rw [reads] at found
        exact means_literal free reads found
      | none =>
        rw [reads] at found
        dsimp only at found
        split at found
        · rename_i closest
          cases found
          obtain ⟨own, place, named⟩ := Graph.closestByIdent?_eq_some exactIndex closest
          exact ⟨own, place, means_ident stands free reads place named⟩
        · cases found

/-- **What a direct leg consists of.** -/
theorem directLeg_eq_ok (exactIndex : run.graph.ExactIndex) {isLast : Bool}
    (found : run.directLeg current route token isLast = .ok (next, more)) :
    ∃ own, run.graph.waypoints[next]? = some own ∧ more = route.pushBack own direct none ∧
      Means run.graph (if isLast then run.lastPin else none) token own := by
  obtain ⟨near, _, found⟩ := bind_eq_ok.mp found
  obtain ⟨node, meant, found⟩ := bind_eq_ok.mp found
  obtain ⟨waypoint, place, found⟩ := bind_eq_ok.mp found
  cases found
  obtain ⟨own, here, means⟩ := nodeOf_means exactIndex meant
  rw [Graph.waypoint_eq_ok, here] at place
  cases place
  exact ⟨waypoint, here, rfl, means.of_pinFor⟩

omit [Distance α] in
/-- The waypoint of a node that a token behind an airway may mean is a meaning of the token. -/
theorem airwayTargets_means (exactIndex : run.graph.ExactIndex) {isLast : Bool}
    {candidates : List Nat} (stands : token.isWaypoint = true)
    (found : run.airwayTargets token isLast = .ok candidates) (member : next ∈ candidates)
    (place : run.graph.waypoints[next]? = some waypoint) :
    Means run.graph (run.pinFor isLast token) token waypoint := by
  have only : ∀ fixed, (do return [← run.nodeOfWaypoint fixed]) = Except.ok candidates →
      run.nodeOfWaypoint fixed = .ok next := by
    intro fixed found
    obtain ⟨node, known, found⟩ := bind_eq_ok.mp found
    cases found
    rw [List.mem_singleton.mp member]
    exact known
  unfold airwayTargets at found
  cases pinned : run.pinFor isLast token with
  | some fixed =>
    rw [pinned] at found
    have bears : fixed.ident = token.text := by
      obtain ⟨_, both⟩ := Option.filter_eq_some_iff.mp pinned
      exact beq_iff_eq.mp (Bool.and_eq_true_iff.mp both).2
    obtain ⟨own, here, means⟩ := means_pin stands rfl bears (only fixed found)
    rw [place] at here
    cases here
    exact means
  | none =>
    rw [pinned] at found
    have free : ∀ fixed : Waypoint, none = some fixed → fixed.ident ≠ token.text := by
      intro fixed given
      cases given
    cases reads : token.coordinateWaypoint with
    | some exact =>
      rw [reads] at found
      obtain ⟨own, here, means⟩ := means_literal free reads (only exact found)
      rw [place] at here
      cases here
      exact means
    | none =>
      rw [reads] at found
      dsimp only at found
      split at found
      · cases found
      · cases found
        rw [exactIndex] at member
        obtain ⟨own, here, named⟩ := Graph.mem_bearers.mp member
        rw [place] at here
        cases here
        exact means_ident stands free reads place named

/-- The steps of a leg along an airway. -/
theorem airwayLeg_steps {airway : String} {isLast : Bool}
    (found : run.airwayLeg current route airway token isLast = .ok (next, more)) :
    token.isWaypoint = true ∧ ∃ candidates leg, run.airwayTargets token isLast = .ok candidates ∧
      ShortestRoute.alongAirway run.graph current candidates airway run.cancel = .ok leg ∧
      leg.last?.bind run.graph.byWaypoint? = some next ∧ route.connect leg = .ok more := by
  unfold airwayLeg at found
  split at found
  · obtain ⟨_, failed, _⟩ := bind_eq_ok.mp found
    cases failed
  · rename_i stands
    rw [Bool.not_eq_true, Bool.not_eq_false'] at stands
    obtain ⟨candidates, meant, found⟩ := bind_eq_ok.mp found
    obtain ⟨leg, along, found⟩ := bind_eq_ok.mp found
    split at found
    · cases found
    · rename_i reached known
      obtain ⟨joined, connected, found⟩ := bind_eq_ok.mp found
      cases found
      exact ⟨stands, candidates, leg, meant, along, known, connected⟩

/-- **What a leg along an airway consists of.** -/
theorem airwayLeg_eq_ok (wellFormed : run.graph.WellFormed) {airway : String} {isLast : Bool}
    (found : run.airwayLeg current route airway token isLast = .ok (next, more)) :
    ∃ leg first last own, run.graph.waypoints[current]? = some first ∧
      Route.Runs first leg.nodes last ∧ run.graph.waypoints[next]? = some own ∧
      own.Same last ∧ route.connect leg = .ok more ∧
      Means run.graph (if isLast then run.lastPin else none) token last ∧
      ∀ span ∈ leg.spans, ∃ edge, span.Along run.graph edge ∧ edge.airway = airway := by
  obtain ⟨stands, candidates, leg, meant, along, known, connected⟩ := airwayLeg_steps found
  obtain ⟨first, node, last, place, member, there, runs, spans⟩ :=
    ShortestRoute.alongAirway_runs wellFormed along
  rw [runs.last?, Option.bind_some] at known
  obtain ⟨own, here, agrees⟩ := Graph.byWaypoint?_eq_some known
  have means := airwayTargets_means wellFormed.exactIndex stands meant member there
  exact ⟨leg, first, last, own, place, runs, here, Or.inr agrees, connected, means.of_pinFor, spans⟩

/-! ### One leg further -/

variable {start finish : Waypoint}

/-- **A direct leg** leads to the node of the token. -/
theorem directLeg_reaches (exactIndex : run.graph.ExactIndex)
    (reaches : run.Reaches current route start finish) {isLast : Bool}
    (found : run.directLeg current route token isLast = .ok (next, more)) :
    ∃ last, run.Reaches next more start last := by
  obtain ⟨own, place, rfl, _⟩ := directLeg_eq_ok exactIndex found
  exact ⟨own, reaches.runs.pushBack own direct none, own, place, .refl _⟩

/-- **A leg along an airway** leads to a node that the token may mean. -/
theorem airwayLeg_reaches (wellFormed : run.graph.WellFormed)
    (reaches : run.Reaches current route start finish) {airway : String} {isLast : Bool}
    (found : run.airwayLeg current route airway token isLast = .ok (next, more)) :
    ∃ first last, start.Same first ∧ run.Reaches next more first last := by
  obtain ⟨leg, _, last, own, _, runs, here, agrees, connected, _⟩ := airwayLeg_eq_ok wellFormed found
  obtain ⟨first, same, joined⟩ := reaches.runs.connect runs connected
  exact ⟨first, last, same, joined, own, here, agrees⟩

end LiteralRun

end FlightRoute
