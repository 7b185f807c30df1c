/-
**Literal runs read no token that is not there.**

Behind a direct leg or an airway the next token is read at once. Whether there is one is asked only in the
beginning: a run whose last token is a direct leg is refused (`LiteralRun.Ends`). That is enough, since every
leg takes tokens off the front and leaves the last one where it is. Nor does a run ever leave the nodes of its
graph, so that following tokens fails for what they say and for nothing else (`LiteralRun.Fault`).

* `nodeOf_lt`, `airwayTargets_lt`, `directLeg_lt`, `airwayLeg_lt`: what a token means is a node;
* `Ends.tail`: each leg leaves the last token in place;
* `follow_failsOnly`: following tokens never looks for one behind the last;
* `resolve_refused`, `resolve_cases`: what is refused before any token is followed.
-/

import FlightRoute.Proofs.Graph.Bounds
import FlightRoute.Proofs.LiteralRun.Follow
import FlightRoute.Proofs.Route.Connect
import FlightRoute.Proofs.ShortestRoute.Bounds

namespace FlightRoute.LiteralRun

variable {α : Type} {run : LiteralRun α} {current next : Nat} {route more : Route α} {token : Token}
  {tokens : List Token} {isLast : Bool}

/-- The tokens do not end with a direct leg. -/
def Ends (tokens : List Token) : Prop := tokens.getLast?.any isDirect = false

/-- **Each leg leaves the last token in place.** -/
theorem Ends.tail (ends : Ends (token :: tokens)) : Ends tokens := by
  cases tokens with
  | nil => rfl
  | cons second rest =>
    unfold Ends at ends
    rwa [List.getLast?_cons_cons] at ends

theorem Ends.cons (begins : isDirect token = false) (ends : Ends tokens) : Ends (token :: tokens) := by
  cases tokens with
  | nil => exact begins
  | cons second rest =>
    unfold Ends
    rwa [List.getLast?_cons_cons]

/-- A direct leg is followed by something. -/
theorem not_ends_direct : ¬Ends [.direct] := by simp [Ends, isDirect]

/-- What the tokens of a run can do wrong behind the first one. -/
inductive Fault (cancel : Option CancelFlag) : RouteError → Prop
  | expectedWaypoint (text : String) : Fault cancel (.grammar (.expectedWaypoint text))
  | airwayTarget (airway text : String) : Fault cancel (.grammar (.airwayTarget airway text))
  | repeatedDirect : Fault cancel (.grammar .repeatedDirect)
  | unresolved (ident : String) : Fault cancel (.unresolvedReference ident)
  | noPath (left right : String) : Fault cancel (.noPath left right)
  | mismatch (left right : String) : Fault cancel (.connectionMismatch left right)
  | calledOff {failure : RouteError} : CalledOff cancel failure → Fault cancel failure

/-- What the tokens of a run do wrong is left out by no reasons that leave out nothing but procedures. -/
theorem Fault.tolerated {reason : RouteError → Prop} {cancel : Option CancelFlag} {failure : RouteError}
    (tolerant : Tolerant reason) (unresolved : ∀ ident, reason (.unresolvedReference ident))
    (fault : Fault cancel failure) : reason failure := by
  cases fault with
  | expectedWaypoint | airwayTarget | repeatedDirect => exact tolerant.malformed _
  | unresolved ident => exact unresolved ident
  | noPath left right => exact tolerant.noPath left right
  | mismatch left right => exact tolerant.mismatch left right
  | calledOff off => exact off.tolerated tolerant

/-! ### What a token means -/

theorem nodeOfWaypoint_failsOnly (run : LiteralRun α) (waypoint : Waypoint) :
    FailsOnly (Fault run.cancel) (run.nodeOfWaypoint waypoint) := by
  unfold nodeOfWaypoint
  split
  · exact .ok _
  · exact .error (.unresolved _)

theorem airwayTargets_failsOnly (run : LiteralRun α) (token : Token) (isLast : Bool) :
    FailsOnly (Fault run.cancel) (run.airwayTargets token isLast) := by
  unfold airwayTargets
  split
  · exact (nodeOfWaypoint_failsOnly run _).bind fun _ _ => .ok _
  · exact (nodeOfWaypoint_failsOnly run _).bind fun _ _ => .ok _
  · dsimp only
    split
    · exact .error (.unresolved _)
    · exact .ok _

theorem airwayTargets_lt (wellFormed : run.graph.WellFormed) {candidates : List Nat}
    (found : run.airwayTargets token isLast = .ok candidates) :
    ∀ candidate ∈ candidates, candidate < run.graph.size := by
  have single : ∀ fixed, (do return [← run.nodeOfWaypoint fixed]) = Except.ok candidates →
      ∀ candidate ∈ candidates, candidate < run.graph.size := by
    intro fixed found candidate member
    obtain ⟨node, known, found⟩ := bind_eq_ok.mp found
    cases found
    rw [List.mem_singleton.mp member]
    exact Graph.lt_of_byWaypoint? (nodeOfWaypoint_eq_ok.mp known)
  unfold airwayTargets at found
  split at found
  · exact single _ found
  · exact single _ found
  · dsimp only at found
    split at found
    · cases found
    · cases found
      exact fun candidate member =>
        Graph.lt_of_mem_allByIdent wellFormed.exactIndex (Array.mem_toList_iff.mp member)

variable [Distance α]

theorem nodeOf_failsOnly (run : LiteralRun α) (token : Token) (near : Waypoint)
    (pin : Option Waypoint) : FailsOnly (Fault run.cancel) (run.nodeOf token near pin) := by
  unfold nodeOf
  split
  · exact .error (.expectedWaypoint _)
  · split
    · exact nodeOfWaypoint_failsOnly run _
    · exact nodeOfWaypoint_failsOnly run _
    · split
      · exact .ok _
      · exact .error (.unresolved _)

/-- **What a token means is a node.** -/
theorem nodeOf_lt (wellFormed : run.graph.WellFormed) {near : Waypoint} {pin : Option Waypoint}
    (found : run.nodeOf token near pin = .ok next) : next < run.graph.size := by
  obtain ⟨own, here, _⟩ := nodeOf_means wellFormed.exactIndex found
  exact Graph.lt_of_waypoints here

/-! ### One leg -/

theorem directLeg_failsOnly (wellFormed : run.graph.WellFormed) (inside : current < run.graph.size) :
    FailsOnly (Fault run.cancel) (run.directLeg current route token isLast) := by
  obtain ⟨near, here⟩ := Graph.waypoint_of_lt inside
  rw [directLeg, here, ok_bind]
  refine (nodeOf_failsOnly run token near _).bind fun node meant => ?_
  obtain ⟨own, there⟩ := Graph.waypoint_of_lt (nodeOf_lt wellFormed meant)
  rw [there]
  exact .ok _

theorem directLeg_lt (wellFormed : run.graph.WellFormed)
    (found : run.directLeg current route token isLast = .ok (next, more)) : next < run.graph.size := by
  obtain ⟨own, here, _⟩ := directLeg_eq_ok wellFormed.exactIndex found
  exact Graph.lt_of_waypoints here

theorem airwayLeg_failsOnly (wellFormed : run.graph.WellFormed) (inside : current < run.graph.size)
    (airway : String) :
    FailsOnly (Fault run.cancel) (run.airwayLeg current route airway token isLast) := by
  unfold airwayLeg
  split
  · exact .error (.airwayTarget _ _)
  · refine (airwayTargets_failsOnly run token isLast).bind fun candidates meant => ?_
    have within := airwayTargets_lt wellFormed meant
    refine FailsOnly.bind ?_ fun leg _ => ?_
    · refine (ShortestRoute.alongAirway_failsOnly wellFormed inside within airway).mono ?_
      rintro failure (⟨left, right, rfl⟩ | off)
      · exact .noPath left right
      · exact .calledOff off
    · split
      · exact .error (.unresolved _)
      · refine FailsOnly.bind ?_ fun _ _ => .ok _
        exact (Route.connect_failsOnly route leg).mono fun _ ⟨left, right, same⟩ =>
          same ▸ .mismatch left right

theorem airwayLeg_lt (wellFormed : run.graph.WellFormed) {airway : String}
    (found : run.airwayLeg current route airway token isLast = .ok (next, more)) :
    next < run.graph.size := by
  obtain ⟨_, _, _, _, _, _, here, _⟩ := airwayLeg_eq_ok wellFormed found
  exact Graph.lt_of_waypoints here

/-! ### All tokens -/

/-- **Following tokens** that do not end with a direct leg never looks for a token behind the last, and never
leaves the nodes: it fails for what one of its legs fails for. -/
theorem follow_failsOnly {reason : RouteError → Prop} (wellFormed : run.graph.WellFormed)
    (inside : current < run.graph.size) (ends : Ends tokens)
    (repeated : reason (.grammar .repeatedDirect))
    (directs : ∀ current route token isLast, token ∈ tokens → current < run.graph.size →
      FailsOnly reason (run.directLeg current route token isLast))
    (airways : ∀ current route airway token isLast, token ∈ tokens → current < run.graph.size →
      FailsOnly reason (run.airwayLeg current route airway token isLast)) :
    FailsOnly reason (run.follow current route tokens) := by
  -- By the reader's own cases; whatever holds of the tokens holds of those that a leg leaves.
  induction current, route, tokens using LiteralRun.follow.induct with
  | case1 current route => exact .ok _
  | case2 current route => exact absurd ends not_ends_direct
  | case3 current route rest => exact .error repeated
  | case4 current route next rest other ih =>
    rw [follow]
    · refine (directs current route next rest.isEmpty (by simp) inside).bind fun ⟨node, longer⟩ leg => ?_
      refine ih node longer (directLeg_lt wellFormed leg) ends.tail.tail
        (fun place way token isLast member => directs place way token isLast ?_)
        (fun place way airway token isLast member => airways place way airway token isLast ?_)
      all_goals exact List.mem_cons_of_mem _ (List.mem_cons_of_mem _ member)
    · exact other
  | case5 current route airway target rest ih again =>
    obtain ⟨known, asked⟩ := Graph.hasAirway_ok wellFormed inside airway
    rw [follow, asked, ok_bind]
    split
    · refine (airways current route airway target rest.isEmpty (by simp) inside).bind
        fun ⟨node, longer⟩ leg => ?_
      refine ih node longer (airwayLeg_lt wellFormed leg) ends.tail.tail
        (fun place way token isLast member => directs place way token isLast ?_)
        (fun place way name token isLast member => airways place way name token isLast ?_)
      all_goals exact List.mem_cons_of_mem _ (List.mem_cons_of_mem _ member)
    · refine (directs current route (.ident airway) false (by simp) inside).bind
        fun ⟨node, longer⟩ leg => ?_
      refine again node longer (directLeg_lt wellFormed leg) ends.tail
        (fun place way token isLast member => directs place way token isLast ?_)
        (fun place way name token isLast member => airways place way name token isLast ?_)
      all_goals exact List.mem_cons_of_mem _ member
  | case6 current route token rest alone twice onward named ih =>
    rw [follow]
    · refine (directs current route token rest.isEmpty (by simp) inside).bind fun ⟨node, longer⟩ leg => ?_
      refine ih node longer (directLeg_lt wellFormed leg) ends.tail
        (fun place way token isLast member => directs place way token isLast ?_)
        (fun place way name token isLast member => airways place way name token isLast ?_)
      all_goals exact List.mem_cons_of_mem _ member
    all_goals assumption

/-- Following tokens fails for what they say. -/
theorem follow_fault (wellFormed : run.graph.WellFormed) (inside : current < run.graph.size)
    (ends : Ends tokens) : FailsOnly (Fault run.cancel) (run.follow current route tokens) :=
  follow_failsOnly wellFormed inside ends .repeatedDirect
    (fun _ _ _ _ _ here => directLeg_failsOnly wellFormed here)
    (fun _ _ airway _ _ _ here => airwayLeg_failsOnly wellFormed here airway)

/-- A run whose first and last tokens are no direct legs fails for what its first token or one of its legs
fails for. -/
theorem resolve_failsOnly {reason : RouteError → Prop} (wellFormed : run.graph.WellFormed)
    {first : Token} {rest : List Token} (begins : isDirect first = false) (ends : Ends rest)
    (starts : FailsOnly reason (run.nodeOf first run.reference
      (run.firstPin.or (if rest.isEmpty then run.lastPin else none))))
    (follows : ∀ current route, current < run.graph.size →
      FailsOnly reason (run.follow current route rest)) :
    FailsOnly reason (run.resolve (first :: rest)) := by
  unfold Ends at ends
  unfold resolve
  dsimp only
  rw [begins, ends, Bool.or_false, if_neg Bool.false_ne_true]
  refine starts.bind fun node meant => ?_
  have inside := nodeOf_lt wellFormed meant
  obtain ⟨place, here⟩ := Graph.waypoint_of_lt inside
  rw [here]
  exact follows node _ inside

/-- **A run is refused** for being empty, or for a direct leg at one of its ends. -/
theorem resolve_refused (run : LiteralRun α) (tokens : List Token) :
    tokens = [] ∧ run.resolve tokens = .error (.grammar .emptySegment) ∨
      (∃ first rest, tokens = first :: rest ∧ (isDirect first ∨ rest.getLast?.any isDirect) ∧
        run.resolve tokens = .error (.grammar .danglingDirect)) ∨
      ∃ first rest, tokens = first :: rest ∧ isDirect first = false ∧ Ends rest := by
  cases tokens with
  | nil => exact Or.inl ⟨rfl, rfl⟩
  | cons first rest =>
    by_cases dangling : (isDirect first || rest.getLast?.any isDirect) = true
    · refine Or.inr (Or.inl ⟨first, rest, rfl, Bool.or_eq_true_iff.mp dangling, ?_⟩)
      rw [resolve, if_pos dangling]
      rfl
    · rw [Bool.not_eq_true, Bool.or_eq_false_iff] at dangling
      exact Or.inr (Or.inr ⟨first, rest, rfl, dangling⟩)

/-- **Whatever a literal run is**, it is refused for being empty, or for a direct leg at one of its ends, before
any token is followed; or it has a last token, and fails for what its tokens say. -/
theorem resolve_cases (wellFormed : run.graph.WellFormed) (tokens : List Token) :
    tokens = [] ∧ run.resolve tokens = .error (.grammar .emptySegment) ∨
      (∃ last, tokens.length = last + 1) ∧
        ((tokens.head?.any isDirect ∨ tokens.getLast?.any isDirect) ∧
            run.resolve tokens = .error (.grammar .danglingDirect) ∨
          Ends tokens ∧ FailsOnly (Fault run.cancel) (run.resolve tokens)) := by
  rcases run.resolve_refused tokens with
    empty | ⟨first, rest, rfl, dangling, refused⟩ | ⟨first, rest, rfl, begins, ends⟩
  · exact Or.inl empty
  · refine Or.inr ⟨⟨rest.length, rfl⟩, Or.inl ⟨dangling.imp id fun back => ?_, refused⟩⟩
    cases rest with
    | nil => cases back
    | cons second others => rwa [List.getLast?_cons_cons]
  · refine Or.inr ⟨⟨rest.length, rfl⟩, Or.inr ⟨Ends.cons begins ends, ?_⟩⟩
    exact resolve_failsOnly wellFormed begins ends (nodeOf_failsOnly run first _ _)
      fun _ _ inside => follow_fault wellFormed inside ends

end FlightRoute.LiteralRun
