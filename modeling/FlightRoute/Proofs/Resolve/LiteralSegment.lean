/-
**Literal segments, from end to end.**

A literal segment is a body between the ends of the flight, where it has them: a departure in front of
the first one, an arrival behind the last one. The body begins at the seam of the departure and ends at
the seam of the arrival; only when one single token has to be both is the arrival on its own.

* `literalSegment_eq_ok`: the parts of a literal segment;
* `literalSegment_span`: where a literal segment begins and ends;
* `Parts.front_meets`, `Parts.back_meets`: the parts of a segment meet;
* `SeamClash`: one token names two different seams;
* `literalSegment_mismatch_iff`: a segment fails at a seam exactly then.
-/

import FlightRoute.Proofs.LiteralRun.Course
import FlightRoute.Proofs.LiteralRun.Seams
import FlightRoute.Proofs.Terminal.Seam

namespace FlightRoute

open LiteralRun (Pins)

variable {σ α : Type} [Distance α]

/-- A route that begins at the origin or at a waypoint of the graph, and ends at the destination or at
a waypoint of the graph. -/
structure Route.Spans (route : Route α) (graph : Graph α) (flight : Flight) (isFirst isLast : Bool) :
    Prop where
  path : route.IsPath
  origin : isFirst = true → route.StartsAt flight.origin.threshold
  destination : isLast = true → route.EndsAt flight.destination.threshold
  entry : isFirst = false → ∃ waypoint, graph.Holds waypoint ∧ route.StartsAt waypoint
  exit : isLast = false → ∃ waypoint, graph.Holds waypoint ∧ route.EndsAt waypoint

omit [Distance α] in
/-- A route that is not the first begins at a waypoint that the graph has. -/
theorem Route.Spans.holds_first {route : Route α} {graph : Graph α} {flight : Flight} {isLast : Bool}
    (spans : route.Spans graph flight false isLast) :
    ∃ first, route.first? = some first ∧ graph.Holds first := by
  obtain ⟨waypoint, ⟨node, own, place, same⟩, first, begins, agrees⟩ := spans.entry rfl
  exact ⟨first, begins, node, own, place, same.trans agrees⟩

omit [Distance α] in
/-- A route that is not the last ends at a waypoint that the graph has. -/
theorem Route.Spans.holds_last {route : Route α} {graph : Graph α} {flight : Flight} {isFirst : Bool}
    (spans : route.Spans graph flight isFirst false) :
    ∃ last, route.last? = some last ∧ graph.Holds last := by
  obtain ⟨waypoint, ⟨node, own, place, same⟩, last, ends, agrees⟩ := spans.exit rfl
  exact ⟨last, ends, node, own, place, same.trans agrees⟩

namespace Resolver

variable {resolver : Resolver σ α} {graph : Graph α} {flight : Flight} {isFirst isLast : Bool}
  {tokens middle : List Token} {front back : Option (Route α)} {body route : Route α}

/-! ### The parts of a segment -/

/-- The literal run of a segment between its ends. -/
def bodyRun (resolver : Resolver σ α) (graph : Graph α) (flight : Flight) (isFirst isLast : Bool)
    (front back : Option (Route α)) : LiteralRun α where
  graph := graph
  reference := (if isLast && !isFirst then flight.destination else flight.origin).threshold
  firstPin := front.bind (·.last?)
  lastPin := back.bind (·.first?)
  cancel := resolver.cancel

/-- A literal segment is read at its ends first, and what stays is followed. -/
theorem literalSegment_eq :
    resolver.literalSegment graph flight isFirst isLast tokens =
      (do
        let (front, middle) ← resolver.head graph flight isFirst tokens
        let (back, middle) ← resolver.tail graph flight isLast middle
        let body ← (resolver.bodyRun graph flight isFirst isLast front back).resolve middle
        Route.connectAll (front.toList ++ [body] ++ back.toList)) :=
  rfl

theorem head_eq_ok :
    resolver.head graph flight true tokens = .ok (front, middle) ↔
      ∃ sid, (resolver.terminal graph flight.origin).departure tokens = .ok sid ∧
        front = some sid.route ∧ middle = sid.remaining := by
  unfold head
  rw [if_pos rfl, bind_eq_ok]
  refine exists_congr fun sid => and_congr_right fun _ => ⟨fun same => ?_, ?_⟩
  · cases same
    exact ⟨rfl, rfl⟩
  · rintro ⟨rfl, rfl⟩
    rfl

theorem tail_eq_ok :
    resolver.tail graph flight true tokens = .ok (back, middle) ↔
      ∃ star, (resolver.terminal graph flight.destination).arrival tokens = .ok star ∧
        back = some star.route ∧ middle = star.remaining := by
  unfold tail
  rw [if_pos rfl, bind_eq_ok]
  refine exists_congr fun star => and_congr_right fun _ => ⟨fun same => ?_, ?_⟩
  · cases same
    exact ⟨rfl, rfl⟩
  · rintro ⟨rfl, rfl⟩
    rfl

/-- What stands in front of the body of a segment. -/
structure Fronts (graph : Graph α) (flight : Flight) (isFirst : Bool) (front : Option (Route α))
    (middle : List Token) : Prop where
  given : front.isSome = isFirst
  seam : ∀ part, front = some part → ∃ seam, Route.Runs flight.origin.threshold part.nodes seam ∧
    graph.Holds seam ∧ ∃ token rest, middle = token :: rest ∧ token.text = seam.ident

theorem head_fronts (wellFormed : graph.WellFormed)
    (read : resolver.head graph flight isFirst tokens = .ok (front, middle)) :
    Fronts graph flight isFirst front middle := by
  unfold head at read
  split at read
  · rename_i first
    obtain ⟨extraction, found, read⟩ := bind_eq_ok.mp read
    cases read
    obtain ⟨seam, departs, _⟩ := Terminal.departure_departs wellFormed.exactIndex found
    refine ⟨first.symm, fun part same => ?_⟩
    cases same
    exact ⟨seam, departs.runs, departs.holds, departs.named⟩
  · rename_i later
    cases read
    exact ⟨(Bool.not_eq_true _ ▸ later).symm, fun part same => by cases same⟩

/-- What stands behind the body of a segment. -/
structure Backs (graph : Graph α) (flight : Flight) (isLast : Bool) (back : Option (Route α))
    (tokens middle : List Token) : Prop where
  given : back.isSome = isLast
  kept : middle <+: tokens
  seam : ∀ part, back = some part → ∃ seam,
    Route.Runs seam part.nodes flight.destination.threshold ∧ graph.Holds seam ∧
      ∃ token rest, middle = rest ++ [token] ∧ token.text = seam.ident

theorem tail_backs (wellFormed : graph.WellFormed)
    (read : resolver.tail graph flight isLast tokens = .ok (back, middle)) :
    Backs graph flight isLast back tokens middle := by
  unfold tail at read
  split at read
  · rename_i last
    obtain ⟨extraction, found, read⟩ := bind_eq_ok.mp read
    cases read
    obtain ⟨seam, arrives, taken⟩ := Terminal.arrival_arrives wellFormed.exactIndex found
    refine ⟨last.symm, List.reverse_suffix.mp taken.suffix, fun part same => ?_⟩
    cases same
    exact ⟨seam, arrives.runs, arrives.holds, arrives.named⟩
  · rename_i earlier
    cases read
    exact ⟨(Bool.not_eq_true _ ▸ earlier).symm, List.prefix_refl _, fun part same => by cases same⟩

/-- The ends and the body of a segment that was read. -/
structure Parts (resolver : Resolver σ α) (graph : Graph α) (flight : Flight) (isFirst isLast : Bool)
    (tokens : List Token) (front back : Option (Route α)) (body : Route α) (middle : List Token) :
    Prop where
  read : ∃ behind, resolver.head graph flight isFirst tokens = .ok (front, behind) ∧
    resolver.tail graph flight isLast behind = .ok (back, middle)
  resolved : (resolver.bodyRun graph flight isFirst isLast front back).resolve middle = .ok body

/-- The parts of a literal segment are all that is connected to its route. -/
theorem Parts.literalSegment_eq
    (parts : Parts resolver graph flight isFirst isLast tokens front back body middle) :
    resolver.literalSegment graph flight isFirst isLast tokens =
      Route.connectAll (front.toList ++ [body] ++ back.toList) := by
  obtain ⟨⟨rest, head, tail⟩, resolved⟩ := parts
  rw [Resolver.literalSegment_eq, head, ok_bind]
  dsimp only
  rw [tail, ok_bind]
  dsimp only
  rw [resolved, ok_bind]

/-- **The parts of a literal segment.** -/
theorem literalSegment_eq_ok :
    resolver.literalSegment graph flight isFirst isLast tokens = .ok route ↔
      ∃ front back body middle,
        Parts resolver graph flight isFirst isLast tokens front back body middle ∧
        Route.connectAll (front.toList ++ [body] ++ back.toList) = .ok route := by
  constructor
  · intro resolved
    rw [literalSegment_eq] at resolved
    obtain ⟨⟨front, behind⟩, head, resolved⟩ := bind_eq_ok.mp resolved
    obtain ⟨⟨back, middle⟩, tail, resolved⟩ := bind_eq_ok.mp resolved
    obtain ⟨body, followed, connected⟩ := bind_eq_ok.mp resolved
    exact ⟨front, back, body, middle, ⟨⟨behind, head, tail⟩, followed⟩, connected⟩
  · rintro ⟨front, back, body, middle, parts, connected⟩
    rw [parts.literalSegment_eq, connected]

/-- The body of a segment that was read. -/
theorem Parts.body_runs (wellFormed : graph.WellFormed)
    (parts : Parts resolver graph flight isFirst isLast tokens front back body middle) :
    ∃ token rest first last, middle = token :: rest ∧ token.isWaypoint = true ∧
      Route.Runs first body.nodes last ∧ graph.Holds first ∧ graph.Holds last ∧
      Pins (front.bind (·.last?)) token first ∧
      (∀ token, rest.getLast? = some token → Pins (back.bind (·.first?)) token last) ∧
      (rest = [] → first = last ∧
        (front.bind (·.last?) = none → Pins (back.bind (·.first?)) token last)) :=
  LiteralRun.resolve_runs wellFormed parts.resolved

theorem Parts.fronts (wellFormed : graph.WellFormed)
    (parts : Parts resolver graph flight isFirst isLast tokens front back body middle) :
    ∃ behind, Fronts graph flight isFirst front behind ∧
      Backs graph flight isLast back behind middle := by
  obtain ⟨behind, head, tail⟩ := parts.read
  exact ⟨behind, head_fronts wellFormed head, tail_backs wellFormed tail⟩

/-- All parts of a segment are paths. -/
theorem Parts.paths (wellFormed : graph.WellFormed)
    (parts : Parts resolver graph flight isFirst isLast tokens front back body middle) :
    ∀ route ∈ front.toList ++ [body] ++ back.toList, route.IsPath := by
  obtain ⟨behind, fronts, backs⟩ := parts.fronts wellFormed
  obtain ⟨_, _, _, _, _, _, runs, _⟩ := parts.body_runs wellFormed
  intro route member
  rw [List.mem_append, List.mem_append, Option.mem_toList, List.mem_singleton,
    Option.mem_toList] at member
  rcases member with (here | rfl) | here
  · obtain ⟨seam, leaves, _⟩ := fronts.seam route here
    exact leaves.isPath
  · exact runs.isPath
  · obtain ⟨seam, comes, _⟩ := backs.seam route here
    exact comes.isPath

/-- **A literal segment** begins at the origin if it is the first, ends at the destination if it is the
last, and otherwise begins and ends at waypoints of the graph. -/
theorem literalSegment_span (wellFormed : graph.WellFormed)
    (resolved : resolver.literalSegment graph flight isFirst isLast tokens = .ok route) :
    route.Spans graph flight isFirst isLast := by
  obtain ⟨front, back, body, middle, parts, connected⟩ := literalSegment_eq_ok.mp resolved
  obtain ⟨behind, fronts, backs⟩ := parts.fronts wellFormed
  obtain ⟨_, _, first, last, _, _, runs, begins, finishes, _⟩ := parts.body_runs wellFormed
  obtain ⟨path, starts, ends⟩ := Route.connectAll_runs (parts.paths wellFormed) (by simp) connected
  refine ⟨path, fun isFirst => ?_, fun isLast => ?_, fun later => ?_, fun earlier => ?_⟩
  · obtain ⟨part, here⟩ := Option.isSome_iff_exists.mp (fronts.given.trans isFirst)
    obtain ⟨seam, leaves, _⟩ := fronts.seam part here
    exact starts part _ (by rw [here]; rfl) leaves.startsAt
  · obtain ⟨part, here⟩ := Option.isSome_iff_exists.mp (backs.given.trans isLast)
    obtain ⟨seam, comes, _⟩ := backs.seam part here
    exact ends part _ (by rw [here]; simp) comes.endsAt
  · have noFront : front = none := Option.not_isSome_iff_eq_none.mp (by rw [fronts.given, later]; simp)
    exact ⟨first, begins, starts body _ (by rw [noFront]; rfl) runs.startsAt⟩
  · have noBack : back = none := Option.not_isSome_iff_eq_none.mp (by rw [backs.given, earlier]; simp)
    exact ⟨last, finishes, ends body _ (by rw [noBack]; simp) runs.endsAt⟩

/-! ### Seams within a segment -/

/-- The departure meets the body. -/
theorem Parts.front_meets (wellFormed : graph.WellFormed) (comparable : graph.Comparable)
    (parts : Parts resolver graph flight isFirst isLast tokens front back body middle)
    {part : Route α} (here : front = some part) : part.Meets body := by
  obtain ⟨behind, fronts, backs⟩ := parts.fronts wellFormed
  obtain ⟨token, rest, first, last, whole, _, runs, _, _, pins, _⟩ := parts.body_runs wellFormed
  obtain ⟨seam, leaves, holds, other, more, listed, named⟩ := fronts.seam part here
  have kept := backs.kept
  rw [whole, listed] at kept
  have same : token = other := (List.cons_prefix_cons.mp kept).1
  have pinned : seam.Same first := by
    refine pins seam ?_ (same ▸ named.symm)
    rw [here, Option.bind_some, leaves.last?]
  exact ⟨seam, first, leaves.last?, runs.first?, comparable.holds_beq holds pinned⟩

/-- The body meets the arrival, unless a single token is the seam of a departure as well. -/
theorem Parts.back_meets (wellFormed : graph.WellFormed) (comparable : graph.Comparable)
    (parts : Parts resolver graph flight isFirst isLast tokens front back body middle)
    {part : Route α} (here : back = some part) (free : front = none ∨ middle.length ≠ 1) :
    body.Meets part := by
  obtain ⟨behind, fronts, backs⟩ := parts.fronts wellFormed
  obtain ⟨token, rest, first, last, whole, _, runs, _, _, _, ends, only⟩ :=
    parts.body_runs wellFormed
  obtain ⟨seam, comes, holds, other, before, listed, named⟩ := backs.seam part here
  have pin : back.bind (·.first?) = some seam := by rw [here, Option.bind_some, comes.first?]
  have pinned : seam.Same last := by
    rw [whole] at listed
    by_cases alone : rest = []
    · subst alone
      have single : front = none := by
        rcases free with none | long
        · exact none
        · exact absurd (by rw [whole]; rfl) long
      obtain ⟨_, pins⟩ := only rfl
      have same : token = other := by simpa using congrArg List.getLast? listed
      exact pins (by rw [single]; rfl) seam pin (same ▸ named.symm)
    · have final : rest.getLast? = some other := by
        rw [← List.getLast?_cons_of_ne_nil (x := token) alone, listed]
        simp
      exact ends other final seam pin named.symm
  exact ⟨last, seam, runs.last?, comes.first?, BEq.symm (comparable.holds_beq holds pinned)⟩

/-- A single token is left between a departure and an arrival, and it names two waypoints: the
departure ends at the one and the arrival begins at the other. -/
structure SeamClash (resolver : Resolver σ α) (graph : Graph α) (flight : Flight)
    (tokens : List Token) (token : Token) : Prop where
  stands : token.isWaypoint = true
  read : ∃ sid star : Extraction α, (resolver.terminal graph flight.origin).departure tokens = .ok sid ∧
    (resolver.terminal graph flight.destination).arrival sid.remaining = .ok star ∧
    star.remaining = [token] ∧ ∃ exit entry, sid.route.last? = some exit ∧
      star.route.first? = some entry ∧ (exit == entry) = false

/-- The parts of a segment connect, unless a single token is between a departure and an arrival. -/
theorem Parts.connected (wellFormed : graph.WellFormed) (comparable : graph.Comparable)
    (parts : Parts resolver graph flight isFirst isLast tokens front back body middle)
    (free : back = none ∨ front = none ∨ middle.length ≠ 1) :
    ∃ route, Route.connectAll (front.toList ++ [body] ++ back.toList) = .ok route := by
  refine Route.connectAll_eq_ok ?_
  have behind : ∀ part, back = some part → body.Meets part := by
    intro part here
    refine parts.back_meets wellFormed comparable here ?_
    rcases free with none | free
    · rw [none] at here
      cases here
    · exact free
  have rest : (body :: back.toList).IsChain Route.Meets := by
    cases back with
    | none => exact List.isChain_singleton _
    | some last => exact List.isChain_cons_cons.mpr ⟨behind last rfl, List.isChain_singleton _⟩
  cases front with
  | none => exact rest
  | some first =>
    exact List.isChain_cons_cons.mpr ⟨parts.front_meets wellFormed comparable rfl, rest⟩

/-- The single token between a departure and an arrival names both seams, and the body is the waypoint at
which the departure ends. -/
theorem Parts.single (wellFormed : graph.WellFormed) (comparable : graph.Comparable)
    {first last : Route α}
    (parts : Parts resolver graph flight isFirst isLast tokens (some first) (some last) body middle)
    (length : middle.length = 1) :
    ∃ token start exit entry, middle = [token] ∧ token.isWaypoint = true ∧
      Route.Runs start body.nodes start ∧ first.last? = some exit ∧ last.first? = some entry ∧
      token.text = exit.ident ∧ token.text = entry.ident ∧ (exit == start) = true := by
  obtain ⟨behind, fronts, backs⟩ := parts.fronts wellFormed
  obtain ⟨token, rest, start, finish, whole, stands, runs, _, _, pins, _, only⟩ :=
    parts.body_runs wellFormed
  obtain ⟨exit, leaves, holds, other, more, listed, named⟩ := fronts.seam first rfl
  obtain ⟨entry, comes, _, another, before, final, names⟩ := backs.seam last rfl
  obtain rfl : rest = [] := by simpa [whole] using length
  obtain ⟨rfl, _⟩ := only rfl
  rw [whole] at final
  obtain rfl : token = another := by simpa using congrArg List.getLast? final
  have kept := backs.kept
  rw [whole, listed] at kept
  obtain rfl : token = other := (List.cons_prefix_cons.mp kept).1
  have agrees : exit.Same start := pins exit (by rw [Option.bind_some, leaves.last?]) named.symm
  exact ⟨token, start, exit, entry, whole, stands, runs, leaves.last?, comes.first?, named, names,
    comparable.holds_beq holds agrees⟩

/-- Parts that do not connect are a departure, a single token and an arrival that clash. -/
theorem Parts.clash (wellFormed : graph.WellFormed) (comparable : graph.Comparable)
    (parts : Parts resolver graph flight isFirst isLast tokens front back body middle)
    {left right : String} (failed : Route.connectAll (front.toList ++ [body] ++ back.toList) =
      .error (.connectionMismatch left right)) :
    isFirst = true ∧ isLast = true ∧
      ∃ token, SeamClash resolver graph flight tokens token ∧ left = token.text ∧
        right = token.text := by
  by_cases free : back = none ∨ front = none ∨ middle.length ≠ 1
  · obtain ⟨route, connected⟩ := parts.connected wellFormed comparable free
    rw [connected] at failed
    cases failed
  · rw [not_or, not_or, not_not] at free
    obtain ⟨noBack, noFront, length⟩ := free
    obtain ⟨first, rfl⟩ := Option.ne_none_iff_exists'.mp noFront
    obtain ⟨last, rfl⟩ := Option.ne_none_iff_exists'.mp noBack
    change Route.connectAll [first, body, last] = _ at failed
    obtain ⟨behind, fronts, backs⟩ := parts.fronts wellFormed
    obtain rfl : isFirst = true := fronts.given.symm
    obtain rfl : isLast = true := backs.given.symm
    have meets : first.Meets body := parts.front_meets wellFormed comparable rfl
    obtain ⟨token, start, exit, entry, whole, stands, runs, leaves, comes, named, names, agrees⟩ :=
      parts.single wellFormed comparable length
    have apart : (start == entry) = false := by
      rw [← Bool.not_eq_true]
      intro same
      have chain : [first, body, last].IsChain Route.Meets := by
        refine List.isChain_cons_cons.mpr ⟨meets, List.isChain_cons_cons.mpr ⟨?_, ?_⟩⟩
        · exact ⟨start, entry, runs.last?, comes, same⟩
        · exact List.isChain_singleton _
      obtain ⟨route, connected⟩ := Route.connectAll_eq_ok chain
      rw [connected] at failed
      cases failed
    have mismatch := (Route.connectAll_three meets runs.last? comes).mp apart
    have both := mismatch.symm.trans failed
    cases both
    refine ⟨rfl, rfl, token, ⟨stands, ?_⟩, ?_, names.symm⟩
    · obtain ⟨behind, head, tail⟩ := parts.read
      obtain ⟨sid, departed, here, rfl⟩ := head_eq_ok.mp head
      obtain ⟨star, arrived, there, remaining⟩ := tail_eq_ok.mp tail
      cases here
      cases there
      refine ⟨sid, star, departed, arrived, remaining.symm.trans whole, exit, entry, leaves, comes, ?_⟩
      rw [← Bool.not_eq_true] at apart ⊢
      exact fun same => apart (BEq.trans (BEq.symm agrees) same)
    · rw [named, Waypoint.ident_eq_of_beq agrees]

/-- A departure and an arrival that clash do not connect. -/
theorem SeamClash.fails (wellFormed : graph.WellFormed) (comparable : graph.Comparable)
    {token : Token} (clash : SeamClash resolver graph flight tokens token) :
    resolver.literalSegment graph flight true true tokens =
      .error (.connectionMismatch token.text token.text) := by
  obtain ⟨stands, sid, star, departed, arrived, remaining, exit, entry, leaves, comes, differs⟩ :=
    clash
  obtain ⟨seam, departs, _⟩ := Terminal.departure_departs wellFormed.exactIndex departed
  obtain ⟨entry', arrives, taken⟩ := Terminal.arrival_arrives wellFormed.exactIndex arrived
  rw [departs.runs.last?] at leaves
  rw [arrives.runs.first?] at comes
  cases leaves
  cases comes
  obtain ⟨other, rest, listed, named⟩ := departs.named
  obtain ⟨another, before, final, names⟩ := arrives.named
  rw [remaining] at final
  obtain rfl : token = another := by simpa using congrArg List.getLast? final
  have kept := List.reverse_suffix.mp taken.suffix
  rw [remaining, listed] at kept
  obtain rfl : token = other := (List.cons_prefix_cons.mp kept).1
  have known : (graph.byWaypoint? exit).isSome := by
    obtain ⟨node, own, found, same⟩ := departs.holds
    exact Graph.byWaypoint?_isSome wellFormed.exactIndex found (comparable.beq found same)
  obtain ⟨node, found⟩ := Option.isSome_iff_exists.mp known
  have pinned : (resolver.bodyRun graph flight true true (some sid.route) (some star.route)).firstPin =
      some exit := departs.runs.last?
  obtain ⟨own, resolved, agrees⟩ := LiteralRun.resolve_single stands pinned named.symm found
  have apart : (own == entry) = false := by
    rw [← Bool.not_eq_true] at differs ⊢
    exact fun same => differs (BEq.trans (BEq.symm agrees) same)
  have meets : sid.route.Meets (.single own) := ⟨exit, own, departs.runs.last?, rfl, BEq.symm agrees⟩
  have ends : (Route.single own : Route α).last? = some own := rfl
  have failed := (Route.connectAll_three meets ends arrives.runs.first?).mp apart
  rw [Waypoint.ident_eq_of_beq agrees, ← named, ← names] at failed
  have head := head_eq_ok.mpr ⟨sid, departed, rfl, rfl⟩
  have tail := tail_eq_ok.mpr ⟨star, arrived, rfl, rfl⟩
  rw [remaining] at tail
  have parts : Parts resolver graph flight true true tokens (some sid.route) (some star.route)
      (.single own) [token] := ⟨⟨_, head, tail⟩, resolved⟩
  rw [parts.literalSegment_eq, ← failed]
  rfl

/-- **A literal segment fails at a seam** exactly when it is the whole route and a single token is left
between a departure and an arrival that clash. -/
theorem literalSegment_mismatch_iff (wellFormed : graph.WellFormed) (comparable : graph.Comparable)
    (store : resolver.store.Seamless) {left right : String} :
    resolver.literalSegment graph flight isFirst isLast tokens =
        .error (.connectionMismatch left right) ↔
      isFirst = true ∧ isLast = true ∧
        ∃ token, SeamClash resolver graph flight tokens token ∧ left = token.text ∧
          right = token.text := by
  constructor
  · intro failed
    rw [literalSegment_eq] at failed
    have reads : Seamless (resolver.head graph flight isFirst tokens) := by
      unfold head
      split
      · exact .bind (Terminal.departure_seamless store tokens) fun _ _ => .ok _
      · exact .ok _
    have readsBack : ∀ tokens, Seamless (resolver.tail graph flight isLast tokens) := by
      intro tokens
      unfold tail
      split
      · exact .bind (Terminal.arrival_seamless store tokens) fun _ _ => .ok _
      · exact .ok _
    rcases bind_eq_error.mp failed with early | ⟨⟨front, behind⟩, head, failed⟩
    · exact absurd early (reads left right)
    rcases bind_eq_error.mp failed with early | ⟨⟨back, middle⟩, tail, failed⟩
    · exact absurd early (readsBack behind left right)
    rcases bind_eq_error.mp failed with early | ⟨body, resolved, failed⟩
    · exact absurd early (LiteralRun.resolve_seamless wellFormed comparable middle left right)
    · exact Parts.clash wellFormed comparable ⟨⟨behind, head, tail⟩, resolved⟩ failed
  · rintro ⟨rfl, rfl, token, clash, rfl, rfl⟩
    exact clash.fails wellFormed comparable

end Resolver

end FlightRoute
