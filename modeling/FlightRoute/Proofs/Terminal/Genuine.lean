/-
**No span is made up.**

A plain span is a direct leg or an edge of the graph. The only other spans of a route are at its ends: the
first one may be a departure of the runway that the route leaves, and the last one an arrival of the
runway that it comes to, with what was published for the runway (`Genuine`). Routes whose spans are
genuine have genuine spans when they are connected, as long as a runway stands only at the outer ends.

* `Genuine.append`, `connectAll_genuine`: routes that are connected;
* `departure_genuine`, `arrival_genuine`: the route between a runway and the network.
-/

import FlightRoute.Proofs.Procedure.Table
import FlightRoute.Proofs.Route.Connect
import FlightRoute.Proofs.Terminal.Seam

namespace FlightRoute

variable {α : Type} [Distance α]

/-! ### Where spans come from -/

/-- A direct leg, or an edge of the graph. -/
def Span.IsPlain (span : Span α) (graph : Graph α) : Prop :=
  span.IsDirect ∨ ∃ edge, span.Along graph edge

/-- A procedure meets the network at its end, or at a waypoint of the graph by the same name that is
close enough to be the same fix. -/
def Procedure.MeetsAt (procedure : Procedure α) (graph : Graph α) (waypoint : Waypoint) : Prop :=
  ∃ fix, procedure.enrouteEnd? = some fix ∧ (fix.Same waypoint ∨ graph.Copies fix waypoint)

/-- A leg that is a procedure of the runway, as it was published, and meets the network at the
waypoint. -/
structure ProcedureStore.Publishes (store : ProcedureStore α) (graph : Graph α) (runway : Runway)
    (kind : ProcedureKind) (leg : Leg α) (waypoint : Waypoint) : Prop where
  published : ∃ procedure, store.procedure runway kind leg.airway = .ok procedure ∧
    leg.distance = procedure.totalDistance ∧ leg.inner = procedure.inner ∧
    procedure.MeetsAt graph waypoint

/-- A departure of the runway. -/
structure Span.Departs (span : Span α) (store : ProcedureStore α) (graph : Graph α)
    (runway : Runway) : Prop where
  start : runway.threshold.Same span.start
  leg : store.Publishes graph runway .sid span.leg span.finish

/-- An arrival of the runway. -/
structure Span.Arrives (span : Span α) (store : ProcedureStore α) (graph : Graph α)
    (runway : Runway) : Prop where
  finish : runway.threshold.Same span.finish
  leg : store.Publishes graph runway .star span.leg span.start

/-- **Every span is plain**, but for a departure in front of a route that leaves a runway, and an arrival
behind a route that comes to one. -/
def Genuine (store : ProcedureStore α) (graph : Graph α) (origin destination : Option Runway)
    (spans : List (Span α)) : Prop :=
  ∀ (position : Nat) (span : Span α), spans[position]? = some span → span.IsPlain graph ∨
    (position = 0 ∧ ∃ runway ∈ origin, span.Departs store graph runway) ∨
    (position + 1 = spans.length ∧ ∃ runway ∈ destination, span.Arrives store graph runway)

/-- Every procedure of the store carries the name that was asked for. -/
def ProcedureStore.Named (store : ProcedureStore α) : Prop :=
  ∀ runway kind name procedure, store.procedure runway kind name = .ok procedure →
    procedure.name = name

/-- Every procedure of the store is of the kind that was asked for. -/
def ProcedureStore.Kinded (store : ProcedureStore α) : Prop :=
  ∀ runway kind name procedure, store.procedure runway kind name = .ok procedure →
    procedure.kind = kind

variable {store : ProcedureStore α} {graph : Graph α} {origin destination : Option Runway}
  {span other : Span α} {spans others : List (Span α)}

omit [Distance α] in
/-- The end that meets the network is the one of the procedure's own kind. -/
theorem Procedure.enrouteEnd?_eq (procedure : Procedure α) :
    procedure.enrouteEnd? = procedure.seam? procedure.kind := by
  unfold enrouteEnd?
  cases procedure.kind <;> rfl

omit [Distance α] in
/-- A procedure that is found for a name is the store's answer to it. -/
theorem ProcedureStore.procedure?_eq_some_iff {runway : Runway} {kind : ProcedureKind} {name : String}
    {procedure : Procedure α} :
    store.procedure? runway kind name = .ok (some procedure) ↔
      store.procedure runway kind name = .ok procedure := by
  refine ⟨fun found => ?_, fun found => by rw [procedure?, found]⟩
  unfold procedure? at found
  split at found
  · rename_i known
    cases found
    exact known
  · cases found
  · cases found

/-- Published procedures carry the name that was asked for. -/
theorem ProcedureTable.store_named (table : ProcedureTable) :
    (table.store : ProcedureStore α).Named := by
  intro runway kind name procedure found
  have answers := table.procedure_answers (α := α) runway kind name
  rw [show table.procedure runway kind name = .ok procedure from found] at answers
  obtain ⟨_, _, _, _, rfl⟩ := answers
  rfl

/-- Published procedures are of the kind that was asked for. -/
theorem ProcedureTable.store_kinded (table : ProcedureTable) :
    (table.store : ProcedureStore α).Kinded := by
  intro runway kind name procedure found
  have answers := table.procedure_answers (α := α) runway kind name
  rw [show table.procedure runway kind name = .ok procedure from found] at answers
  obtain ⟨_, _, _, _, rfl⟩ := answers
  rfl

/-! ### Waypoints that are the same -/

theorem Span.IsPlain.like (plain : span.IsPlain graph) (like : span.Like other) :
    other.IsPlain graph := by
  rcases plain with isDirect | ⟨edge, along⟩
  · exact Or.inl (isDirect.like like)
  · exact Or.inr ⟨edge, along.like like⟩

theorem ProcedureStore.Publishes.same {runway : Runway} {kind : ProcedureKind} {leg : Leg α}
    {waypoint next : Waypoint} (publishes : store.Publishes graph runway kind leg waypoint)
    (same : waypoint.Same next) : store.Publishes graph runway kind leg next := by
  obtain ⟨procedure, found, distance, inner, fix, ends, meets⟩ := publishes.published
  refine ⟨procedure, found, distance, inner, fix, ends, ?_⟩
  exact meets.imp (fun meets => meets.trans same) fun copies => copies.same same

theorem Span.Departs.like {runway : Runway} (departs : span.Departs store graph runway)
    (like : span.Like other) : other.Departs store graph runway :=
  ⟨departs.start.trans like.start, like.leg ▸ departs.leg.same like.finish⟩

theorem Span.Arrives.like {runway : Runway} (arrives : span.Arrives store graph runway)
    (like : span.Like other) : other.Arrives store graph runway :=
  ⟨arrives.finish.trans like.finish, like.leg ▸ arrives.leg.same like.start⟩

theorem Genuine.like (genuine : Genuine store graph origin destination spans)
    (like : List.Forall₂ Span.Like spans others) : Genuine store graph origin destination others := by
  intro position other here
  have inside : position < others.length := (List.getElem?_eq_some_iff.mp here).1
  have within : position < spans.length := like.length_eq ▸ inside
  have alike : spans[position].Like other := by
    rw [List.getElem?_eq_getElem inside] at here
    cases here
    exact like.get within inside
  rcases genuine position _ (List.getElem?_eq_getElem within) with
    plain | ⟨first, runway, known, departs⟩ | ⟨last, runway, known, arrives⟩
  · exact Or.inl (plain.like alike)
  · exact Or.inr (Or.inl ⟨first, runway, known, departs.like alike⟩)
  · exact Or.inr (Or.inr ⟨like.length_eq ▸ last, runway, known, arrives.like alike⟩)

/-! ### Spans one after the other -/

theorem genuine_plain (plain : ∀ span ∈ spans, span.IsPlain graph) :
    Genuine store graph origin destination spans :=
  fun _ span here => Or.inl (plain span (List.mem_of_getElem? here))

theorem genuine_direct (start finish : Waypoint) :
    Genuine store graph origin destination
      [⟨start, .direct (Distance.between start finish), finish⟩] := by
  refine genuine_plain fun span member => ?_
  obtain rfl := List.mem_singleton.mp member
  exact Or.inl (Span.isDirect_direct start finish)

theorem Span.Departs.genuine {runway : Runway} (departs : span.Departs store graph runway) :
    Genuine store graph (some runway) none [span] := by
  intro position other here
  obtain ⟨rfl, rfl⟩ : position = 0 ∧ span = other := by simpa using List.getElem?_eq_some_iff.mp here
  exact Or.inr (Or.inl ⟨rfl, runway, rfl, departs⟩)

theorem Span.Arrives.genuine {runway : Runway} (arrives : span.Arrives store graph runway) :
    Genuine store graph none (some runway) [span] := by
  intro position other here
  obtain ⟨rfl, rfl⟩ : position = 0 ∧ span = other := by simpa using List.getElem?_eq_some_iff.mp here
  exact Or.inr (Or.inr ⟨rfl, runway, rfl, arrives⟩)

/-- **Genuine spans one after the other are genuine**: a runway stands only at the outer ends. -/
theorem Genuine.append (front : Genuine store graph origin none spans)
    (back : Genuine store graph none destination others) :
    Genuine store graph origin destination (spans ++ others) := by
  intro position span here
  rw [List.getElem?_append] at here
  split at here
  · rcases front position span here with plain | first | ⟨_, runway, given, _⟩
    · exact Or.inl plain
    · exact Or.inr (Or.inl first)
    · cases given
  · rename_i behind
    rcases back _ span here with plain | ⟨_, runway, given, _⟩ | ⟨last, ends⟩
    · exact Or.inl plain
    · cases given
    · refine Or.inr (Or.inr ⟨?_, ends⟩)
      rw [List.length_append]
      omega

/-! ### Routes that are connected -/

/-- Paths with genuine spans, with a runway only at the outer ends. -/
def AllGenuine (store : ProcedureStore α) (graph : Graph α) (origin destination : Option Runway) :
    List (Route α) → Prop
  | [] => True
  | [route] => route.IsPath ∧ Genuine store graph origin destination route.spans
  | route :: next :: rest => route.IsPath ∧ Genuine store graph origin none route.spans ∧
      AllGenuine store graph none destination (next :: rest)

variable {route next whole : Route α} {routes : List (Route α)}

/-- Two paths that are connected. -/
theorem Genuine.connect (front : Genuine store graph origin none route.spans) (path : route.IsPath)
    (back : Genuine store graph none destination next.spans) (more : next.IsPath)
    (connected : route.connect next = .ok whole) :
    whole.IsPath ∧ Genuine store graph origin destination whole.spans := by
  obtain ⟨start, finish, runs⟩ := path
  obtain ⟨entry, last, further⟩ := more
  rw [Route.connect_eq runs.last? further.first?] at connected
  split at connected
  · rename_i same
    cases connected
    obtain ⟨first, along, _, joined, split, like, _⟩ := runs.spansOf_append further (Or.inr same)
    refine ⟨⟨first, last, joined⟩, ?_⟩
    show Genuine store graph origin destination (spansOf _)
    rw [split]
    exact (front.like like).append back
  · cases connected

theorem AllGenuine.connect (all : AllGenuine store graph origin destination (route :: next :: routes))
    (connected : route.connect next = .ok whole) :
    AllGenuine store graph origin destination (whole :: routes) := by
  obtain ⟨path, front, all⟩ := all
  cases routes with
  | nil => exact front.connect path all.2 all.1 connected
  | cons second rest =>
    obtain ⟨joined, genuine⟩ := front.connect path all.2.1 all.1 connected
    exact ⟨joined, genuine, all.2.2⟩

/-- **Connected routes are a path with genuine spans.** -/
theorem connectAll_genuine (all : AllGenuine store graph origin destination routes)
    (nonempty : routes ≠ []) (connected : Route.connectAll routes = .ok whole) :
    whole.IsPath ∧ Genuine store graph origin destination whole.spans := by
  cases routes with
  | nil => exact absurd rfl nonempty
  | cons route rest =>
    change rest.foldlM Route.connect route = .ok whole at connected
    induction rest generalizing route with
    | nil =>
      cases connected
      exact all
    | cons next rest ih =>
      rw [List.foldlM_cons] at connected
      obtain ⟨joined, first, connected⟩ := bind_eq_ok.mp connected
      exact ih joined (all.connect first) (List.cons_ne_nil _ _) connected

/-! ### Between a runway and the network -/

namespace Terminal

variable {terminal : Terminal α} {kind : ProcedureKind} {tokens : List Token}
  {extraction : Extraction α}

omit [Distance α] in
/-- A procedure that a token names is published for the runway by its own name, and of the kind in question
it meets the network where the tokens have its seam. -/
theorem procedureOf_published (named : terminal.store.Named) (kinded : terminal.store.Kinded)
    {token : Token} {procedure : Procedure α} {fix : Waypoint}
    (found : terminal.procedureOf kind token = .ok (some procedure))
    (ends : procedure.seam? kind = some fix) :
    terminal.store.procedure terminal.runway kind procedure.name = .ok procedure ∧
      procedure.enrouteEnd? = some fix := by
  unfold procedureOf at found
  split at found
  · have known := ProcedureStore.procedure?_eq_some_iff.mp found
    rw [named _ _ _ _ known, Procedure.enrouteEnd?_eq, kinded _ _ _ _ known]
    exact ⟨known, ends⟩
  · cases found

/-- A procedure is one leg up to its end. -/
theorem publishes_end (named : terminal.store.Named) (kinded : terminal.store.Kinded) {token : Token}
    {procedure : Procedure α} {fix : Waypoint}
    (found : terminal.procedureOf kind token = .ok (some procedure))
    (ends : procedure.seam? kind = some fix) :
    terminal.store.Publishes terminal.graph terminal.runway kind procedure.leg fix := by
  obtain ⟨published, meets⟩ := procedureOf_published named kinded found ends
  exact ⟨procedure, published, rfl, rfl, fix, meets, Or.inl (.refl _)⟩

/-- A procedure is one leg up to the graph's copy of its end. -/
theorem publishes_copy (named : terminal.store.Named) (kinded : terminal.store.Kinded)
    (exactIndex : terminal.graph.ExactIndex) {token : Token} {procedure : Procedure α}
    {fix copy : Waypoint} (found : terminal.procedureOf kind token = .ok (some procedure))
    (ends : procedure.seam? kind = some fix) (copied : terminal.graphCopy fix = .ok (some copy)) :
    terminal.store.Publishes terminal.graph terminal.runway kind procedure.leg copy := by
  obtain ⟨published, meets⟩ := procedureOf_published named kinded found ends
  exact ⟨procedure, published, rfl, rfl, fix, meets, Or.inr (graphCopy_copies exactIndex copied)⟩

theorem directDeparture_genuine {first : Token}
    (found : terminal.directDeparture first tokens = .ok extraction) :
    Genuine store graph origin destination extraction.route.spans := by
  obtain ⟨waypoint, _, found⟩ := bind_eq_ok.mp found
  cases found
  exact genuine_direct _ _

/-- A departure to its end, and a direct leg behind it. -/
theorem bridgedDeparture_genuine {sid : Procedure α} {exit : Waypoint} {beyond : List Token}
    (leg : terminal.store.Publishes terminal.graph terminal.runway .sid sid.leg exit)
    (found : terminal.bridgedDeparture sid exit beyond = .ok extraction) :
    Genuine terminal.store terminal.graph (some terminal.runway) none extraction.route.spans := by
  unfold bridgedDeparture at found
  split at found
  · cases found
  · obtain ⟨waypoint, _, found⟩ := bind_eq_ok.mp found
    cases found
    have first : (⟨terminal.runway.threshold, sid.leg, exit⟩ : Span α).Departs terminal.store
        terminal.graph terminal.runway := ⟨.refl _, leg⟩
    exact first.genuine.append (genuine_direct exit waypoint)

/-- **A departure** is direct, or a procedure of the runway with or without a direct leg behind it. -/
theorem departure_genuine (named : terminal.store.Named) (kinded : terminal.store.Kinded)
    (exactIndex : terminal.graph.ExactIndex)
    (found : terminal.departure tokens = .ok extraction) :
    Genuine terminal.store terminal.graph (some terminal.runway) none extraction.route.spans := by
  unfold departure at found
  split at found
  · cases found
  · obtain ⟨sid?, known, found⟩ := bind_eq_ok.mp found
    cases sid? with
    | none => exact directDeparture_genuine found
    | some sid =>
      obtain ⟨exit, _, _, ends, _, _, found⟩ := procedureDeparture_eq_ok found
      obtain ⟨copy?, copied, found⟩ := bind_eq_ok.mp found
      cases copy? with
      | some copy =>
        cases found
        have leg := publishes_copy named kinded exactIndex known ends copied
        exact Span.Departs.genuine ⟨.refl _, leg⟩
      | none => exact bridgedDeparture_genuine (publishes_end named kinded known ends) found

theorem directArrival_genuine {last : Token}
    (found : terminal.directArrival last tokens = .ok extraction) :
    Genuine store graph origin destination extraction.route.spans := by
  obtain ⟨waypoint, _, found⟩ := bind_eq_ok.mp found
  cases found
  exact genuine_direct _ _

/-- A direct leg to the end of an arrival, and the arrival. -/
theorem bridgedArrival_genuine {star : Procedure α} {entry : Waypoint} {before : List Token}
    (leg : terminal.store.Publishes terminal.graph terminal.runway .star star.leg entry)
    (found : terminal.bridgedArrival star entry before = .ok extraction) :
    Genuine terminal.store terminal.graph none (some terminal.runway) extraction.route.spans := by
  unfold bridgedArrival at found
  split at found
  · cases found
  · obtain ⟨waypoint, _, found⟩ := bind_eq_ok.mp found
    cases found
    have last : (⟨entry, star.leg, terminal.runway.threshold⟩ : Span α).Arrives terminal.store
        terminal.graph terminal.runway := ⟨.refl _, leg⟩
    exact (genuine_direct waypoint entry).append last.genuine

/-- **An arrival** is direct, or a procedure of the runway with or without a direct leg before it. -/
theorem arrival_genuine (named : terminal.store.Named) (kinded : terminal.store.Kinded)
    (exactIndex : terminal.graph.ExactIndex)
    (found : terminal.arrival tokens = .ok extraction) :
    Genuine terminal.store terminal.graph none (some terminal.runway) extraction.route.spans := by
  unfold arrival at found
  split at found
  · cases found
  · obtain ⟨star?, known, found⟩ := bind_eq_ok.mp found
    cases star? with
    | none => exact directArrival_genuine found
    | some star =>
      obtain ⟨entry, _, _, begins, _, _, found⟩ := procedureArrival_eq_ok found
      obtain ⟨copy?, copied, found⟩ := bind_eq_ok.mp found
      cases copy? with
      | some copy =>
        cases found
        have leg := publishes_copy named kinded exactIndex known begins copied
        exact Span.Arrives.genuine ⟨.refl _, leg⟩
      | none => exact bridgedArrival_genuine (publishes_end named kinded known begins) found

end Terminal

end FlightRoute
