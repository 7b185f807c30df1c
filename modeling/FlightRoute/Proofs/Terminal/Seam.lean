/-
**The seam between a terminal and the network.**

However a departure or an arrival is read, the tokens that stay name the waypoint where the route at
the runway meets the rest of the flight, and the graph holds that waypoint. Of the tokens nothing but a
procedure is taken off (`TakesOff`): its name, with its end when the graph does not know that one, and
with the direct leg behind that end.

* `waypointOf_named`, `graphCopy_copies`: what the two ways to a seam find;
* `departure_departs`: a departure runs from the runway to the seam that the first token names;
* `arrival_arrives`: an arrival runs from the seam that the last token names to the runway;
* `extraction_seams`: both, with what is taken off.
-/

import FlightRoute.Proofs.Distance.Planar
import FlightRoute.Proofs.Except
import FlightRoute.Proofs.Graph.Lookup
import FlightRoute.Proofs.Graph.Walk
import FlightRoute.Terminal.Arrival
import FlightRoute.Terminal.Departure

namespace FlightRoute

variable {α : Type}

/-- The end of a procedure that a route meets when it is read as one of this kind. -/
def Procedure.seam? (procedure : Procedure α) : ProcedureKind → Option Waypoint
  | .sid => procedure.last?
  | .star => procedure.first?

namespace Terminal

variable {terminal : Terminal α} {kind : ProcedureKind} {tokens remaining : List Token}

/-! ### What is taken off -/

/-- What is taken off the tokens at a runway, which are read from the runway on. -/
inductive TakesOff (terminal : Terminal α) (kind : ProcedureKind) : List Token → List Token → Prop
  /-- Nothing, when the first token is no procedure of the runway. -/
  | nothing {token : Token} {rest : List Token} :
      terminal.procedureOf kind token = .ok none →
      TakesOff terminal kind (token :: rest) (token :: rest)
  /-- The name of a procedure. -/
  | name {token : Token} {procedure : Procedure α} {rest : List Token} :
      terminal.procedureOf kind token = .ok (some procedure) →
      TakesOff terminal kind (token :: rest) rest
  /-- The name and the end. -/
  | fix {token fix : Token} {procedure : Procedure α} {seam : Waypoint} {rest : List Token} :
      terminal.procedureOf kind token = .ok (some procedure) → procedure.seam? kind = some seam →
      fix.text = seam.ident → TakesOff terminal kind (token :: fix :: rest) rest
  /-- The name, the end, and the direct leg at that end. -/
  | direct {token fix : Token} {procedure : Procedure α} {seam : Waypoint} {rest : List Token} :
      terminal.procedureOf kind token = .ok (some procedure) → procedure.seam? kind = some seam →
      fix.text = seam.ident → TakesOff terminal kind (token :: fix :: .direct :: rest) rest

theorem TakesOff.suffix (taken : terminal.TakesOff kind tokens remaining) : remaining <:+ tokens := by
  cases taken with
  | nothing _ => exact List.suffix_refl _
  | name _ => exact List.suffix_cons _ _
  | fix _ _ _ => exact (List.suffix_cons _ _).trans (List.suffix_cons _ _)
  | direct _ _ _ =>
    exact ((List.suffix_cons _ _).trans (List.suffix_cons _ _)).trans (List.suffix_cons _ _)

/-- The end is taken off with or without a direct leg. -/
theorem TakesOff.skip {token fix : Token} {procedure : Procedure α} {seam : Waypoint}
    {beyond : List Token} (named : terminal.procedureOf kind token = .ok (some procedure))
    (ends : procedure.seam? kind = some seam) (same : fix.text = seam.ident) :
    terminal.TakesOff kind (token :: fix :: beyond) (skipDirect beyond) := by
  unfold skipDirect
  split
  · exact .direct named ends same
  · exact .fix named ends same

variable [Distance α] {extraction : Extraction α}

/-! ### Ways to a seam -/

/-- A token that stands for a waypoint names it. -/
theorem waypointOf_named (exactIndex : terminal.graph.ExactIndex) {token : Token}
    {waypoint : Waypoint} (found : terminal.waypointOf token = .ok waypoint) :
    token.text = waypoint.ident ∧ terminal.graph.Holds waypoint := by
  unfold waypointOf at found
  split at found
  · rename_i text position
    dsimp only at found
    split at found
    · rename_i known
      cases found
      obtain ⟨node, here⟩ := Option.isSome_iff_exists.mp known
      obtain ⟨own, place, agrees⟩ := Graph.byWaypoint?_eq_some here
      exact ⟨rfl, node, own, place, Or.inr agrees⟩
    · cases found
  · split at found
    · rename_i closest
      obtain ⟨own, place, named⟩ := Graph.closestByIdent?_eq_some exactIndex closest
      rw [Graph.waypoint_eq_ok, place] at found
      cases found
      exact ⟨named.symm, _, _, place, .refl _⟩
    · cases found
  · cases found

/-- An identifier stands for the waypoint of the closest node that carries it. -/
theorem waypointOf_of_closest {name : String} {node : Nat} {own : Waypoint}
    (closest : terminal.graph.closestByIdent? name terminal.runway.threshold = some node)
    (here : terminal.graph.waypoints[node]? = some own) :
    terminal.waypointOf (.ident name) = .ok own := by
  unfold waypointOf
  dsimp only
  rw [closest]
  exact Graph.waypoint_eq_ok.mpr here

theorem waypointOf_of_unique (exactIndex : terminal.graph.ExactIndex) {name : String} {node : Nat}
    {own : Waypoint} (bearers : terminal.graph.bearers name = [node])
    (here : terminal.graph.waypoints[node]? = some own) :
    terminal.waypointOf (.ident name) = .ok own :=
  waypointOf_of_closest (Graph.closestByIdent?_of_unique exactIndex bearers _) here

/-- A literal coordinate that the graph holds stands for itself. -/
theorem waypointOf_of_known {text : String} {position : Position} {node : Nat}
    (known : terminal.graph.byWaypoint? ⟨text, position.lat, position.lon⟩ = some node) :
    terminal.waypointOf (.coordinate text position) = .ok ⟨text, position.lat, position.lon⟩ := by
  unfold waypointOf
  dsimp only
  rw [known]
  rfl

/-- The graph's copy of a fix bears its name and is close to it. -/
theorem graphCopy_copies (exactIndex : terminal.graph.ExactIndex) {fix copy : Waypoint}
    (found : terminal.graphCopy fix = .ok (some copy)) : terminal.graph.Copies fix copy := by
  unfold graphCopy at found
  split at found
  · rename_i node known
    obtain ⟨own, place, copies⟩ := Graph.sameFix?_eq_some exactIndex known
    obtain ⟨waypoint, here, same⟩ := map_eq_ok.mp found
    rw [Graph.waypoint_eq_ok, place] at here
    cases here
    cases same
    exact copies
  · cases found

/-! ### Departures -/

/-- A route from the runway to a seam that the first of the remaining tokens names. -/
structure Departs (terminal : Terminal α) (extraction : Extraction α) (seam : Waypoint) : Prop where
  runs : Route.Runs terminal.runway.threshold extraction.route.nodes seam
  holds : terminal.graph.Holds seam
  named : ∃ token rest, extraction.remaining = token :: rest ∧ token.text = seam.ident

theorem directDeparture_departs (exactIndex : terminal.graph.ExactIndex) {first : Token}
    {rest : List Token} (found : terminal.directDeparture first (first :: rest) = .ok extraction) :
    ∃ seam, terminal.Departs extraction seam ∧ extraction.remaining = first :: rest := by
  obtain ⟨waypoint, here, found⟩ := bind_eq_ok.mp found
  cases found
  obtain ⟨named, holds⟩ := waypointOf_named exactIndex here
  exact ⟨waypoint, ⟨.leg _ (.final _), holds, first, rest, rfl, named⟩, rfl⟩

theorem bridgedDeparture_departs (exactIndex : terminal.graph.ExactIndex) {sid : Procedure α}
    {exit : Waypoint} {beyond : List Token}
    (found : terminal.bridgedDeparture sid exit beyond = .ok extraction) :
    ∃ seam, terminal.Departs extraction seam ∧ extraction.remaining = skipDirect beyond := by
  unfold bridgedDeparture at found
  split at found
  · cases found
  · rename_i enroute rest left
    obtain ⟨waypoint, here, found⟩ := bind_eq_ok.mp found
    cases found
    obtain ⟨named, holds⟩ := waypointOf_named exactIndex here
    exact ⟨waypoint, ⟨.leg _ (.leg _ (.final _)), holds, enroute, rest, rfl, named⟩, left.symm⟩

/-- A departure that is read has an end, which the next token names. -/
theorem procedureDeparture_eq_ok {sid : Procedure α}
    (found : terminal.procedureDeparture sid tokens = .ok extraction) :
    ∃ exit seam beyond, sid.last? = some exit ∧ tokens = seam :: beyond ∧ seam.text = exit.ident ∧
      (terminal.graphCopy exit >>= fun copy? => match copy? with
        | some copy => .ok ⟨seam :: beyond, .ofLeg terminal.runway.threshold sid.leg copy⟩
        | none => terminal.bridgedDeparture sid exit beyond) = .ok extraction := by
  unfold procedureDeparture at found
  split at found
  · cases found
  · rename_i exit ends
    split at found
    · cases found
    · rename_i seam beyond
      split at found
      · cases found
      · rename_i same
        exact ⟨exit, seam, beyond, ends, rfl, not_not.mp same, found⟩

theorem procedureDeparture_departs (exactIndex : terminal.graph.ExactIndex) {token : Token}
    {sid : Procedure α} (named : terminal.procedureOf .sid token = .ok (some sid))
    (found : terminal.procedureDeparture sid tokens = .ok extraction) :
    ∃ seam, terminal.Departs extraction seam ∧
      terminal.TakesOff .sid (token :: tokens) extraction.remaining := by
  obtain ⟨exit, seam, beyond, ends, rfl, names, found⟩ := procedureDeparture_eq_ok found
  obtain ⟨copy?, copied, found⟩ := bind_eq_ok.mp found
  cases copy? with
  | some copy =>
    cases found
    have copies := graphCopy_copies exactIndex copied
    have bears : seam.text = copy.ident := names.trans copies.named.symm
    exact ⟨copy, ⟨.leg _ (.final _), copies.holds, seam, beyond, rfl, bears⟩, .name named⟩
  | none =>
    obtain ⟨waypoint, departs, left⟩ := bridgedDeparture_departs exactIndex found
    exact ⟨waypoint, departs, left ▸ .skip named ends names⟩

/-- **A departure runs from the runway to the waypoint that the first remaining token names.** -/
theorem departure_departs (exactIndex : terminal.graph.ExactIndex)
    (found : terminal.departure tokens = .ok extraction) :
    ∃ seam, terminal.Departs extraction seam ∧
      terminal.TakesOff .sid tokens extraction.remaining := by
  unfold departure at found
  split at found
  · cases found
  · obtain ⟨sid?, named, found⟩ := bind_eq_ok.mp found
    cases sid? with
    | some sid => exact procedureDeparture_departs exactIndex named found
    | none =>
      obtain ⟨seam, departs, left⟩ := directDeparture_departs exactIndex found
      exact ⟨seam, departs, left ▸ .nothing named⟩

/-! ### Arrivals -/

/-- A route to the runway from a seam that the last of the remaining tokens names. -/
structure Arrives (terminal : Terminal α) (extraction : Extraction α) (seam : Waypoint) : Prop where
  runs : Route.Runs seam extraction.route.nodes terminal.runway.threshold
  holds : terminal.graph.Holds seam
  named : ∃ token front, extraction.remaining = front ++ [token] ∧ token.text = seam.ident

theorem directArrival_arrives (exactIndex : terminal.graph.ExactIndex) {last : Token}
    {before : List Token}
    (found : terminal.directArrival last (before.reverse ++ [last]) = .ok extraction) :
    ∃ seam, terminal.Arrives extraction seam ∧ extraction.remaining = before.reverse ++ [last] := by
  obtain ⟨waypoint, here, found⟩ := bind_eq_ok.mp found
  cases found
  obtain ⟨named, holds⟩ := waypointOf_named exactIndex here
  exact ⟨waypoint, ⟨.leg _ (.final _), holds, last, before.reverse, rfl, named⟩, rfl⟩

theorem bridgedArrival_arrives (exactIndex : terminal.graph.ExactIndex) {star : Procedure α}
    {entry : Waypoint} {before : List Token}
    (found : terminal.bridgedArrival star entry before = .ok extraction) :
    ∃ seam, terminal.Arrives extraction seam ∧
      extraction.remaining.reverse = skipDirect before := by
  unfold bridgedArrival at found
  split at found
  · cases found
  · rename_i enroute rest left
    obtain ⟨waypoint, here, found⟩ := bind_eq_ok.mp found
    cases found
    obtain ⟨named, holds⟩ := waypointOf_named exactIndex here
    refine ⟨waypoint, ⟨.leg _ (.leg _ (.final _)), holds, enroute, rest.reverse, ?_, named⟩, ?_⟩
    · exact List.reverse_cons
    · exact (List.reverse_reverse _).trans left.symm

/-- An arrival that is read has an end, which the token before names. -/
theorem procedureArrival_eq_ok {star : Procedure α} {before : List Token}
    (found : terminal.procedureArrival star before = .ok extraction) :
    ∃ entry seam rest, star.first? = some entry ∧ before = seam :: rest ∧
      seam.text = entry.ident ∧
      (terminal.graphCopy entry >>= fun copy? => match copy? with
        | some copy =>
          .ok ⟨(seam :: rest).reverse, .ofLeg copy star.leg terminal.runway.threshold⟩
        | none => terminal.bridgedArrival star entry rest) = .ok extraction := by
  unfold procedureArrival at found
  split at found
  · cases found
  · rename_i entry begins
    split at found
    · cases found
    · rename_i seam rest
      split at found
      · cases found
      · rename_i same
        exact ⟨entry, seam, rest, begins, rfl, not_not.mp same, found⟩

theorem procedureArrival_arrives (exactIndex : terminal.graph.ExactIndex) {token : Token}
    {star : Procedure α} (named : terminal.procedureOf .star token = .ok (some star))
    {before : List Token} (found : terminal.procedureArrival star before = .ok extraction) :
    ∃ seam, terminal.Arrives extraction seam ∧
      terminal.TakesOff .star (token :: before) extraction.remaining.reverse := by
  obtain ⟨entry, seam, rest, begins, rfl, names, found⟩ := procedureArrival_eq_ok found
  obtain ⟨copy?, copied, found⟩ := bind_eq_ok.mp found
  cases copy? with
  | some copy =>
    cases found
    have copies := graphCopy_copies exactIndex copied
    refine ⟨copy, ⟨.leg _ (.final _), copies.holds, seam, rest.reverse, ?_, ?_⟩, ?_⟩
    · exact List.reverse_cons
    · exact names.trans copies.named.symm
    · rw [List.reverse_reverse]
      exact .name named
  | none =>
    obtain ⟨waypoint, arrives, left⟩ := bridgedArrival_arrives exactIndex found
    exact ⟨waypoint, arrives, left ▸ .skip named begins names⟩

/-- **An arrival runs from the waypoint that the last remaining token names to the runway.** -/
theorem arrival_arrives (exactIndex : terminal.graph.ExactIndex)
    (found : terminal.arrival tokens = .ok extraction) :
    ∃ seam, terminal.Arrives extraction seam ∧
      terminal.TakesOff .star tokens.reverse extraction.remaining.reverse := by
  unfold arrival at found
  split at found
  · cases found
  · rename_i last before reversed
    have whole : tokens = before.reverse ++ [last] := by
      rw [← List.reverse_reverse tokens, reversed, List.reverse_cons]
    rw [reversed]
    obtain ⟨star?, named, found⟩ := bind_eq_ok.mp found
    cases star? with
    | some star => exact procedureArrival_arrives exactIndex named found
    | none =>
      rw [whole] at found
      obtain ⟨seam, arrives, left⟩ := directArrival_arrives exactIndex found
      refine ⟨seam, arrives, ?_⟩
      rw [left, List.reverse_append, List.reverse_reverse]
      exact .nothing named

/-! ### Both ends -/

/-- **What a departure and an arrival leave meets them at their seams.** Of the tokens at most one
procedure is taken off, read from the runway on; the token that is left next to it names the waypoint
at the network's end of the route; the graph holds that waypoint; and the route is well formed and has
the runway at its other end. -/
theorem extraction_seams (exactIndex : terminal.graph.ExactIndex) :
    (terminal.departure tokens = .ok extraction →
      ∃ seam token rest, terminal.TakesOff .sid tokens extraction.remaining ∧
        extraction.remaining = token :: rest ∧ token.text = seam.ident ∧
        terminal.graph.Holds seam ∧ extraction.route.WellFormed ∧
        extraction.route.first? = some terminal.runway.threshold ∧
        extraction.route.last? = some seam) ∧
    (terminal.arrival tokens = .ok extraction →
      ∃ seam token front, terminal.TakesOff .star tokens.reverse extraction.remaining.reverse ∧
        extraction.remaining = front ++ [token] ∧ token.text = seam.ident ∧
        terminal.graph.Holds seam ∧ extraction.route.WellFormed ∧
        extraction.route.first? = some seam ∧
        extraction.route.last? = some terminal.runway.threshold) := by
  constructor
  · intro found
    obtain ⟨seam, departs, taken⟩ := departure_departs exactIndex found
    obtain ⟨token, rest, left, named⟩ := departs.named
    exact ⟨seam, token, rest, taken, left, named, departs.holds, departs.runs.wellFormed,
      departs.runs.first?, departs.runs.last?⟩
  · intro found
    obtain ⟨seam, arrives, taken⟩ := arrival_arrives exactIndex found
    obtain ⟨token, front, left, named⟩ := arrives.named
    exact ⟨seam, token, front, taken, left, named, arrives.holds, arrives.runs.wellFormed,
      arrives.runs.first?, arrives.runs.last?⟩

/-- A runway beside the crossing: its departure ends off the graph, its arrival begins on it. -/
def besideCrossing : Terminal ℚ where
  graph := crossing
  store := ((ProcedureTable.empty.insert ⟨"KAAA", .sid, "DEP1", ["09"], [⟨"X", 1, 0⟩]⟩).insert
    ⟨"KAAA", .star, "ARR1", ["09"], [⟨"C", 0, 3⟩]⟩).store
  runway := ⟨"KAAA", "09", ⟨"KAAA09", 0, 0⟩⟩

/-- The graph does not know the end of the departure. -/
theorem besideCrossing_unknown : besideCrossing.graph.sameFix? ⟨"X", 1, 0⟩ = none := by
  have bearers : crossing.bearers "X" = [] := by decide
  exact Graph.sameFix?_of_unnamed crossing_exactIndex bearers

/-- The graph knows the beginning of the arrival. -/
theorem besideCrossing_known : besideCrossing.graph.sameFix? ⟨"C", 0, 3⟩ = some 2 := by
  have bearers : crossing.bearers "C" = [2] := by decide
  exact Graph.sameFix?_of_unique crossing_exactIndex bearers rfl (Distance.near_self _)

/-- The departure gives up its name, its end and a direct leg. -/
theorem besideCrossing_departure : ∃ sid,
    besideCrossing.departure [.ident "DEP1", .ident "X", .direct, .ident "A"] = .ok sid ∧
      sid.remaining = [.ident "A"] := by
  have bearers : crossing.bearers "A" = [0] := by decide
  have beyond : besideCrossing.graphCopy ⟨"X", 1, 0⟩ = .ok none := by
    unfold graphCopy
    rw [besideCrossing_unknown]
  have enroute : besideCrossing.waypointOf (.ident "A") = .ok ⟨"A", 0, 1⟩ :=
    waypointOf_of_unique crossing_exactIndex bearers rfl
  show ∃ sid, (besideCrossing.graphCopy ⟨"X", 1, 0⟩ >>= _) = .ok sid ∧ _
  rw [beyond, ok_bind]
  show ∃ sid, (besideCrossing.waypointOf (.ident "A") >>= _) = .ok sid ∧ _
  rw [enroute]
  exact ⟨_, rfl, rfl⟩

/-- The arrival gives up its name. -/
theorem besideCrossing_arrival : ∃ star,
    besideCrossing.arrival [.ident "A", .ident "C", .ident "ARR1"] = .ok star ∧
      star.remaining = [.ident "A", .ident "C"] := by
  have copy : besideCrossing.graphCopy ⟨"C", 0, 3⟩ = .ok (some ⟨"C", 0, 3⟩) := by
    unfold graphCopy
    rw [besideCrossing_known]
    rfl
  show ∃ star, (besideCrossing.graphCopy ⟨"C", 0, 3⟩ >>= _) = .ok star ∧ _
  rw [copy]
  exact ⟨_, rfl, rfl⟩

/-- A departure that gives up its name, its end and a direct leg, and an arrival that gives up its
name. -/
theorem extraction_seams_crossing :
    besideCrossing.graph.ExactIndex ∧
      (∃ sid, besideCrossing.departure [.ident "DEP1", .ident "X", .direct, .ident "A"] = .ok sid ∧
        sid.remaining = [.ident "A"] ∧ sid.route.WellFormed) ∧
      ∃ star, besideCrossing.arrival [.ident "A", .ident "C", .ident "ARR1"] = .ok star ∧
        star.remaining = [.ident "A", .ident "C"] ∧ star.route.WellFormed := by
  have exactIndex : besideCrossing.graph.ExactIndex := crossing_exactIndex
  obtain ⟨sid, departed, left⟩ := besideCrossing_departure
  obtain ⟨star, arrived, kept⟩ := besideCrossing_arrival
  obtain ⟨_, _, _, _, _, _, _, out, _⟩ := (extraction_seams exactIndex).1 departed
  obtain ⟨_, _, _, _, _, _, _, back, _⟩ := (extraction_seams exactIndex).2 arrived
  exact ⟨exactIndex, ⟨sid, departed, left, out⟩, star, arrived, kept, back⟩

end Terminal

end FlightRoute
