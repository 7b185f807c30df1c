/-
**Literal runs follow their tokens.**

The tokens behind the first one lay out the spans of the route (`Course`): a token that stands for a
waypoint, with or without `DCT` before it, is one direct span to what it means, and an airway with a
token behind it is any number of edges of that airway, up to what the token means. Every leg of a run
adds the spans of its tokens to those before it, the last of which may then end at another waypoint that
agrees (`Continues`).

* `directLeg_continues`, `airwayLeg_continues`: the spans of one leg;
* `follow_continues`: the spans of the rest of the tokens;
* `resolve_follows_tokens`: the spans of a literal run.
-/

import FlightRoute.Proofs.Distance.Planar
import FlightRoute.Proofs.LiteralRun.Follow

namespace FlightRoute.LiteralRun

variable {α : Type} {run : LiteralRun α} {current next : Nat} {route more whole : Route α}
  {start finish : Waypoint} {token : Token} {tokens : List Token}

/-- The pin of a token with these tokens behind it: the last pin, if there are none. -/
def pinBefore (run : LiteralRun α) (tokens : List Token) : Option Waypoint :=
  if tokens.isEmpty then run.lastPin else none

/-- Spans that the tokens behind a waypoint lay out from there. -/
inductive Course [Distance α] (run : LiteralRun α) :
    Waypoint → List Token → List (Span α) → Waypoint → Prop
  /-- No tokens are left. -/
  | done {start : Waypoint} : Course run start [] [] start
  /-- A waypoint behind a waypoint is a direct leg. -/
  | next {start finish : Waypoint} {target : Token} {rest : List Token} {span : Span α}
      {spans : List (Span α)} :
      span.IsDirect → Means run.graph (run.pinBefore rest) target span.finish →
      Course run span.finish rest spans finish → Course run start (target :: rest) (span :: spans) finish
  /-- So is a waypoint behind `DCT`. -/
  | direct {start finish : Waypoint} {target : Token} {rest : List Token} {span : Span α}
      {spans : List (Span α)} :
      span.IsDirect → Means run.graph (run.pinBefore rest) target span.finish →
      Course run span.finish rest spans finish →
      Course run start (.direct :: target :: rest) (span :: spans) finish
  /-- A waypoint behind an airway is reached along edges of that airway. -/
  | airway {start middle finish : Waypoint} {name : String} {target : Token} {rest : List Token}
      {along spans : List (Span α)} :
      (∀ span ∈ along, ∃ edge, span.Along run.graph edge ∧ edge.airway = name) →
      Span.endOf start along = middle → Means run.graph (run.pinBefore rest) target middle →
      Course run middle rest spans finish →
      Course run start (.ident name :: target :: rest) (along ++ spans) finish

variable [Distance α]

/-- Without tokens nothing is laid out. -/
theorem Course.stays {spans : List (Span α)} (course : run.Course start [] spans finish) :
    start = finish := by
  cases course
  rfl

theorem Course.last_cons {middle : Waypoint} {target : Token} {rest : List Token}
    {spans : List (Span α)} (means : Means run.graph (run.pinBefore rest) target middle)
    (course : run.Course middle rest spans finish)
    (later : ∀ last ∈ rest.getLast?, Means run.graph run.lastPin last finish) :
    ∀ last ∈ (target :: rest).getLast?, Means run.graph run.lastPin last finish := by
  intro last member
  cases rest with
  | nil =>
    cases member
    exact course.stays ▸ means
  | cons second rest => exact later last member

/-- The last token means where the spans end. -/
theorem Course.last_means {spans : List (Span α)} (course : run.Course start tokens spans finish) :
    ∀ last ∈ tokens.getLast?, Means run.graph run.lastPin last finish := by
  induction course with
  | done => exact fun last member => nomatch member
  | next _ means course ih => exact course.last_cons means ih
  | direct _ means course ih | airway _ _ means course ih =>
    rw [List.getLast?_cons_cons]
    exact course.last_cons means ih

/-- Every span is a direct leg or an edge of the graph. -/
theorem Course.spans {spans : List (Span α)} (course : run.Course start tokens spans finish) :
    ∀ span ∈ spans, span.IsDirect ∨ ∃ edge, span.Along run.graph edge := by
  induction course with
  | done => exact fun span member => absurd member List.not_mem_nil
  | next isDirect _ _ ih | direct isDirect _ _ ih =>
    intro span member
    rcases List.mem_cons.mp member with rfl | member
    · exact Or.inl isDirect
    · exact ih span member
  | airway along _ _ _ ih =>
    intro span member
    rcases List.mem_append.mp member with inside | member
    · obtain ⟨edge, follows, _⟩ := along span inside
      exact Or.inr ⟨edge, follows⟩
    · exact ih span member

/-! ### One leg further -/

/-- The whole goes on from where the route has come to, along spans that the tokens lay out. -/
def Continues (run : LiteralRun α) (route : Route α) (finish : Waypoint) (tokens : List Token)
    (whole : Route α) : Prop :=
  ∃ seam rest last, whole.nodes = route.nodes.dropLast ++ rest ∧ finish.Same seam ∧
    Route.Runs seam rest last ∧ run.Course seam tokens (spansOf rest) last

/-- **A direct leg adds a direct span** to what its token means. -/
theorem directLeg_continues (exactIndex : run.graph.ExactIndex)
    (reaches : run.Reaches current route start finish)
    (found : run.directLeg current route token tokens.isEmpty = .ok (next, more)) :
    ∃ middle, run.Reaches next more start middle ∧ (run.Continues more middle tokens whole →
      run.Continues route finish (token :: tokens) whole ∧
        run.Continues route finish (.direct :: token :: tokens) whole) := by
  obtain ⟨own, place, rfl, means⟩ := directLeg_eq_ok exactIndex found
  refine ⟨own, ⟨reaches.runs.pushBack own direct none, own, place, .refl _⟩, ?_⟩
  rintro ⟨seam, rest, last, nodes, same, runs, course⟩
  let leg : Leg α := .direct (Distance.between finish own)
  have longer : whole.nodes =
      route.nodes.dropLast ++ { waypoint := finish, leg := some leg } :: rest := by
    rw [nodes, reaches.runs.pushBack_nodes, List.dropLast_concat, List.append_assoc]
    rfl
  have isDirect : (⟨finish, leg, seam⟩ : Span α).IsDirect :=
    (Span.isDirect_direct finish own).like ⟨.refl _, rfl, same⟩
  have means : Means run.graph (run.pinBefore tokens) token seam := means.same same
  refine ⟨⟨finish, _, last, longer, .refl _, .leg leg runs, ?_⟩,
    finish, _, last, longer, .refl _, .leg leg runs, ?_⟩
  · rw [runs.spansOf_leg]
    exact .next isDirect means course
  · rw [runs.spansOf_leg]
    exact .direct isDirect means course

/-- **A leg along an airway adds edges of the airway** up to what its token means. -/
theorem airwayLeg_continues (wellFormed : run.graph.WellFormed)
    (reaches : run.Reaches current route start finish) {airway : String}
    (found : run.airwayLeg current route airway token tokens.isEmpty = .ok (next, more)) :
    ∃ first middle, start.Same first ∧ run.Reaches next more first middle ∧
      (run.Continues more middle tokens whole →
        run.Continues route finish (.ident airway :: token :: tokens) whole) := by
  obtain ⟨leg, entry, last, own, _, leads, here, agrees, connected, means, along⟩ :=
    airwayLeg_eq_ok wellFormed found
  obtain ⟨first, begins, joined⟩ := reaches.runs.connect leads connected
  refine ⟨first, last, begins, ⟨joined, own, here, agrees⟩, ?_⟩
  rintro ⟨seam, rest, final, nodes, same, runs, course⟩
  rw [Route.connect_eq reaches.runs.last? leads.first?] at connected
  split at connected
  · rename_i meets
    cases connected
    obtain ⟨first, spans, moved, joined, split, like, ends⟩ := leads.spansOf_append runs same
    have longer : whole.nodes = route.nodes.dropLast ++ (leg.nodes.dropLast ++ rest) := by
      rw [nodes, List.dropLast_append_of_ne_nil leads.ne_nil, List.append_assoc]
    refine ⟨first, _, final, longer, .trans (Or.inr meets) moved, joined, ?_⟩
    rw [split]
    refine .airway (Span.forall_of_like ?_ like along) ends (means.same same) course
    rintro span other like ⟨edge, follows, named⟩
    exact ⟨edge, follows.like like, named⟩
  · cases connected

/-! ### The route along tokens -/

/-- **The rest of the tokens** is followed from where the run has come to. -/
theorem follow_continues (wellFormed : run.graph.WellFormed)
    (reaches : run.Reaches current route start finish)
    (followed : run.follow current route tokens = .ok whole) :
    run.Continues route finish tokens whole := by
  induction current, route, tokens using LiteralRun.follow.induct generalizing start finish with
  | case1 current route =>
    cases followed
    refine ⟨finish, [.final finish], finish, ?_, .refl _, .final finish, .done⟩
    exact (List.dropLast_append_getLast? _ reaches.runs.getLast?).symm
  | case2 current route => cases followed
  | case3 current route rest => cases followed
  | case4 current route next rest other ih =>
    rw [follow] at followed
    · obtain ⟨⟨node, longer⟩, leg, followed⟩ := bind_eq_ok.mp followed
      obtain ⟨middle, further, adds⟩ := directLeg_continues wellFormed.exactIndex reaches leg
      exact (adds (ih node longer further followed)).2
    · exact other
  | case5 current route airway target rest ih again =>
    rw [follow] at followed
    obtain ⟨known, _, followed⟩ := bind_eq_ok.mp followed
    split at followed
    · obtain ⟨⟨node, longer⟩, leg, followed⟩ := bind_eq_ok.mp followed
      obtain ⟨_, middle, _, further, adds⟩ := airwayLeg_continues wellFormed reaches leg
      exact adds (ih node longer further followed)
    · obtain ⟨⟨node, longer⟩, leg, followed⟩ := bind_eq_ok.mp followed
      have inside : run.directLeg current route (.ident airway) (target :: rest).isEmpty =
          .ok (node, longer) := leg
      obtain ⟨middle, further, adds⟩ := directLeg_continues wellFormed.exactIndex reaches inside
      exact (adds (again node longer further followed)).1
  | case6 current route token rest alone twice onward named ih =>
    rw [follow] at followed
    · obtain ⟨⟨node, longer⟩, leg, followed⟩ := bind_eq_ok.mp followed
      obtain ⟨middle, further, adds⟩ := directLeg_continues wellFormed.exactIndex reaches leg
      exact (adds (ih node longer further followed)).1
    all_goals assumption

/-- **What a literal run consists of**: a first token that means where the route begins, and spans that
the other tokens lay out from there. -/
theorem resolve_course (wellFormed : run.graph.WellFormed) (resolved : run.resolve tokens = .ok whole) :
    ∃ token rest start finish, tokens = token :: rest ∧ Route.Runs start whole.nodes finish ∧
      Means run.graph (run.firstPin.or (run.pinBefore rest)) token start ∧
      run.Course start rest whole.spans finish := by
  unfold resolve at resolved
  split at resolved
  · cases resolved
  · rename_i token rest
    dsimp only at resolved
    split at resolved
    · cases resolved
    · obtain ⟨node, meant, resolved⟩ := bind_eq_ok.mp resolved
      obtain ⟨waypoint, place, resolved⟩ := bind_eq_ok.mp resolved
      obtain ⟨own, here, means⟩ := nodeOf_means wellFormed.exactIndex meant
      rw [Graph.waypoint_eq_ok, here] at place
      cases place
      have begins : run.Reaches node (.single waypoint) waypoint waypoint :=
        ⟨.final waypoint, waypoint, here, .refl waypoint⟩
      obtain ⟨start, nodes, finish, all, same, runs, course⟩ :=
        follow_continues wellFormed begins resolved
      obtain rfl : whole.nodes = nodes := all
      exact ⟨token, rest, start, finish, rfl, runs, means.same same, course⟩

/-- **The route along all tokens** begins at the first pin and ends at the last one, where the tokens
bear them. A single token bears the last pin only when there is no first one. -/
theorem resolve_runs (wellFormed : run.graph.WellFormed) (resolved : run.resolve tokens = .ok whole) :
    ∃ token rest first last, tokens = token :: rest ∧ token.isWaypoint = true ∧
      Route.Runs first whole.nodes last ∧ run.graph.Holds first ∧ run.graph.Holds last ∧
      Pins run.firstPin token first ∧
      (∀ other, rest.getLast? = some other → Pins run.lastPin other last) ∧
      (rest = [] → first = last ∧ (run.firstPin = none → Pins run.lastPin token last)) := by
  obtain ⟨token, rest, first, last, split, runs, means, course⟩ := resolve_course wellFormed resolved
  have fixed : Pins run.firstPin token first := by
    intro pin given
    refine means.pins pin ?_
    rw [given, Option.some_or]
  refine ⟨token, rest, first, last, split, means.stands, runs, means.holds, ?_, fixed, ?_, ?_⟩
  · cases behind : rest.getLast? with
    | none =>
      cases List.getLast?_eq_none_iff.mp behind
      exact course.stays ▸ means.holds
    | some other => exact (course.last_means other behind).holds
  · exact fun other behind => (course.last_means other behind).pins
  · rintro rfl
    refine ⟨course.stays, fun free => ?_⟩
    rw [free, Option.none_or] at means
    exact course.stays ▸ means.pins

/-- **Literal runs follow their tokens.** The first token means where the route begins and, of several,
the last one where it ends; the spans in between are those that the other tokens lay out, in order. -/
theorem resolve_follows_tokens (wellFormed : run.graph.WellFormed)
    (resolved : run.resolve tokens = .ok route) :
    ∃ token rest start finish, tokens = token :: rest ∧ route.WellFormed ∧
      route.first? = some start ∧ route.last? = some finish ∧
      Means run.graph (run.firstPin.or (run.pinBefore rest)) token start ∧
      (∀ last ∈ rest.getLast?, Means run.graph run.lastPin last finish) ∧
      run.Course start rest route.spans finish := by
  obtain ⟨token, rest, start, finish, split, runs, means, course⟩ := resolve_course wellFormed resolved
  exact ⟨token, rest, start, finish, split, runs.wellFormed, runs.first?, runs.last?, means,
    course.last_means, course⟩

/-- An airway leads from the first waypoint to the second. -/
theorem crossing_alongAirway : ∃ leg : Leg ℚ, leg.airway = "Y" ∧
    ShortestRoute.alongAirway crossing 0 [1] "Y" none =
      .ok (.ofLeg ⟨"A", 0, 1⟩ leg ⟨"B", 0, 2⟩) := by
  obtain ⟨⟨nodes⟩, found, labels⟩ := Option.map_eq_some_iff.mp
    (show (ShortestRoute.alongAirway crossing 0 [1] "Y" none).toOption.map
      (·.nodes.map fun node => node.leg.map (·.airway)) = some [some "Y", none] by decide +kernel)
  have along := toOption_eq_some.mp found
  obtain ⟨first, target, last, place, member, there, runs, _⟩ :=
    ShortestRoute.alongAirway_runs crossing_built.wellFormed along
  cases List.mem_singleton.mp member
  cases place
  cases there
  obtain ⟨leg, rfl⟩ := runs.eq_ofLeg (by simpa using congrArg List.length labels)
  exact ⟨leg, Option.some.inj (List.cons.inj labels).1, along⟩

/-- The airway leaves the first waypoint. -/
theorem crossing_hasAirway : crossing.hasAirway 0 "Y" = .ok true :=
  toOption_eq_some.mp (by decide +kernel)

/-- The leg along that airway, up to the token behind it. -/
theorem crossing_airwayLeg {run : LiteralRun ℚ} {leg : Leg ℚ}
    (along : ShortestRoute.alongAirway crossing 0 [1] "Y" none =
      .ok (.ofLeg ⟨"A", 0, 1⟩ leg ⟨"B", 0, 2⟩))
    (crosses : run.graph = crossing) (free : run.cancel = none)
    (targets : run.airwayTargets (.ident "B") true = .ok [1]) :
    run.airwayLeg 0 (.single ⟨"A", 0, 1⟩) "Y" (.ident "B") true =
      .ok (1, .ofLeg ⟨"A", 0, 1⟩ leg ⟨"B", 0, 2⟩) := by
  have known : crossing.byWaypoint? ⟨"B", 0, 2⟩ = some 1 :=
    Graph.byWaypoint?_of_unique crossing_exactIndex (by decide) rfl (by decide)
  have joined : (Route.single ⟨"A", 0, 1⟩).connect (.ofLeg ⟨"A", 0, 1⟩ leg ⟨"B", 0, 2⟩) =
      .ok (.ofLeg ⟨"A", 0, 1⟩ leg ⟨"B", 0, 2⟩) := by
    have agrees : ((⟨"A", 0, 1⟩ : Waypoint) == ⟨"A", 0, 1⟩) = true := by decide
    rw [Route.connect_eq rfl rfl]
    exact if_pos agrees
  have ends : (Route.ofLeg ⟨"A", 0, 1⟩ leg ⟨"B", 0, 2⟩).last? = some ⟨"B", 0, 2⟩ := rfl
  show (run.airwayTargets (.ident "B") true >>= _) = _
  rw [targets, ok_bind, crosses, free, along, ok_bind, ends, Option.bind_some, known]
  dsimp only
  rw [joined]
  rfl

/-- Any run over the crossing that means its first two waypoints follows the airway between them. -/
theorem crossing_follows {run : LiteralRun ℚ} {leg : Leg ℚ}
    (along : ShortestRoute.alongAirway crossing 0 [1] "Y" none =
      .ok (.ofLeg ⟨"A", 0, 1⟩ leg ⟨"B", 0, 2⟩))
    (crosses : run.graph = crossing) (free : run.cancel = none)
    (start : run.nodeOf (.ident "A") run.reference (run.firstPin.or none) = .ok 0)
    (targets : run.airwayTargets (.ident "B") true = .ok [1]) :
    run.resolve [.ident "A", .ident "Y", .ident "B"] =
      .ok (.ofLeg ⟨"A", 0, 1⟩ leg ⟨"B", 0, 2⟩) := by
  show (run.nodeOf (.ident "A") run.reference (run.firstPin.or none) >>= _) = _
  rw [start, ok_bind, crosses]
  show run.follow 0 (.single ⟨"A", 0, 1⟩) [.ident "Y", .ident "B"] = _
  rw [follow, crosses, crossing_hasAirway, ok_bind, if_pos rfl]
  show (run.airwayLeg 0 (.single ⟨"A", 0, 1⟩) "Y" (.ident "B") true >>= _) = _
  rw [crossing_airwayLeg along crosses free targets]
  rfl

/-- A run on the crossing. -/
def crossingRun : LiteralRun ℚ where
  graph := crossing
  reference := ⟨"KAAA09", 0, 0⟩

/-- The run begins at the first waypoint. -/
theorem crossingRun_start : crossingRun.nodeOf (.ident "A") crossingRun.reference none = .ok 0 :=
  nodeOf_of_unique crossing_exactIndex (by decide) _

/-- It ends at the second. -/
theorem crossingRun_targets : crossingRun.airwayTargets (.ident "B") true = .ok [1] := by
  have listed : (crossing.allByIdent "B").toList = [1] :=
    (crossing_exactIndex "B").trans (by decide)
  unfold airwayTargets crossingRun
  dsimp only [pinFor, Token.text, Token.coordinateWaypoint, Option.filter]
  rw [listed]
  rfl

theorem crossingRun_runs : ∃ route,
    crossingRun.resolve [.ident "A", .ident "Y", .ident "B"] = .ok route ∧
      Route.Runs ⟨"A", 0, 1⟩ route.nodes ⟨"B", 0, 2⟩ := by
  obtain ⟨leg, _, along⟩ := crossing_alongAirway
  exact ⟨_, crossing_follows along rfl rfl crossingRun_start crossingRun_targets, .leg leg (.final _)⟩

theorem crossingRun_resolve :
    ∃ route, crossingRun.resolve [.ident "A", .ident "Y", .ident "B"] = .ok route := by
  obtain ⟨route, resolved, _⟩ := crossingRun_runs
  exact ⟨route, resolved⟩

/-- From the first waypoint along an airway to the second. -/
theorem resolve_follows_tokens_crossing :
    crossingRun.graph.WellFormed ∧ ∃ route start finish,
      crossingRun.resolve [.ident "A", .ident "Y", .ident "B"] = .ok route ∧
        route.first? = some start ∧ route.last? = some finish ∧
        crossingRun.Course start [.ident "Y", .ident "B"] route.spans finish := by
  have wellFormed : crossingRun.graph.WellFormed := crossing_built.wellFormed
  obtain ⟨route, resolved⟩ := crossingRun_resolve
  obtain ⟨_, _, begins, ends, split, _, opens, closes, _, _, course⟩ :=
    resolve_follows_tokens wellFormed resolved
  cases split
  exact ⟨wellFormed, route, begins, ends, resolved, opens, closes, course⟩

end FlightRoute.LiteralRun
