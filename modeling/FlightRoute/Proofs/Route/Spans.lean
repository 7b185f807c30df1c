/-
**The spans of a route.**

A span is a leg with the two waypoints that it joins. A route whose nodes but the last all carry a leg
has one span from each node to the next. Where two routes are connected the last span of the one ends
at the first waypoint of the other, which agrees with where it ended before (`Span.Like`).

* `Joined.length_spans`, `Joined.legs_eq`: how many spans there are, and that their legs are the legs of
  the route;
* `Runs.spansOf_extend`: a waypoint more is a span more;
* `Runs.spansOf_append`: the spans of two routes that are connected;
* `Span.IsDirect`: a span that is a direct leg as long as its waypoints are apart.
-/

import FlightRoute.Proofs.Distance.Exact
import FlightRoute.Proofs.Route.WellFormed

namespace FlightRoute

/-- A leg with the waypoints that it joins. -/
structure Span (α : Type) where
  start : Waypoint
  leg : Leg α
  finish : Waypoint

/-- The spans between neighbouring nodes. -/
def spansOf {α : Type} : List (RouteNode α) → List (Span α)
  | first :: second :: rest =>
    match first.leg with
    | some leg => ⟨first.waypoint, leg, second.waypoint⟩ :: spansOf (second :: rest)
    | none => spansOf (second :: rest)
  | _ => []

namespace Span

variable {α : Type} {span other : Span α}

/-- The same leg, between waypoints that are the same. -/
structure Like (span other : Span α) : Prop where
  start : span.start.Same other.start
  leg : span.leg = other.leg
  finish : span.finish.Same other.finish

/-- What spans keep when their waypoints are replaced by ones that are the same. -/
theorem forall_of_like {P : Span α → Prop} (keeps : ∀ span other, span.Like other → P span → P other)
    {spans others : List (Span α)} (like : List.Forall₂ Like spans others)
    (all : ∀ span ∈ spans, P span) : ∀ span ∈ others, P span := by
  induction like with
  | nil => exact fun span member => absurd member List.not_mem_nil
  | @cons span other _ _ first _ ih =>
    intro third member
    rcases List.mem_cons.mp member with rfl | member
    · exact keeps span third first (all span List.mem_cons_self)
    · exact ih (fun span inside => all span (List.mem_cons_of_mem _ inside)) third member

/-- Where spans lead from a waypoint. -/
def endOf (start : Waypoint) : List (Span α) → Waypoint
  | [] => start
  | span :: rest => endOf span.finish rest

/-- A direct leg, as long as its waypoints are apart. -/
structure IsDirect [Distance α] (span : Span α) : Prop where
  airway : span.leg.airway = direct
  inner : span.leg.inner = []
  measured : ∃ a b, a.Same span.start ∧ b.Same span.finish ∧
    span.leg.distance = Distance.between a b

theorem IsDirect.like [Distance α] (isDirect : span.IsDirect) (like : span.Like other) :
    other.IsDirect where
  airway := like.leg ▸ isDirect.airway
  inner := like.leg ▸ isDirect.inner
  measured := by
    obtain ⟨a, b, start, finish, distance⟩ := isDirect.measured
    exact ⟨a, b, start.trans like.start, finish.trans like.finish, like.leg ▸ distance⟩

theorem isDirect_direct [Distance α] (start finish : Waypoint) :
    (⟨start, .direct (Distance.between start finish), finish⟩ : Span α).IsDirect :=
  ⟨rfl, rfl, start, finish, .refl _, .refl _, rfl⟩

/-- Where agreeing waypoints are as far from every other, the length is the one between the two. -/
theorem IsDirect.distance_eq [Distance α] [Distance.Congruent α] (isDirect : span.IsDirect) :
    span.leg.distance = Distance.between span.start span.finish := by
  obtain ⟨a, b, start, finish, distance⟩ := isDirect.measured
  have left : (Distance.between a b : α) = Distance.between span.start b := by
    rcases start with rfl | start
    · rfl
    · exact Distance.Congruent.between_left a span.start b start
  have right : (Distance.between span.start b : α) = Distance.between span.start span.finish := by
    rcases finish with rfl | finish
    · rfl
    · exact Distance.Congruent.between_right b span.finish span.start finish
  rw [distance, left, right]

end Span

namespace Route

variable {α : Type} {route : Route α} {nodes : List (RouteNode α)} {trailing : Option (Leg α)}

/-- The spans of a route in flying order. -/
def spans (route : Route α) : List (Span α) := spansOf route.nodes

/-- Every node but the last carries a leg, and the last one carries `trailing`. -/
structure Joined (route : Route α) (trailing : Option (Leg α)) : Prop where
  joined : ∀ node ∈ route.nodes.dropLast, node.leg.isSome
  ended : ∀ node ∈ route.nodes.getLast?, node.leg = trailing

theorem joined_none_iff : route.Joined none ↔ route.WellFormed :=
  ⟨fun joined => ⟨joined.joined, joined.ended⟩, fun formed => ⟨formed.joined, formed.ended⟩⟩

theorem Joined.tail {node next : RouteNode α} {rest : List (RouteNode α)}
    (joined : Joined ⟨node :: next :: rest⟩ trailing) : Joined ⟨next :: rest⟩ trailing where
  joined other member := joined.joined other (List.mem_cons_of_mem _ member)
  ended other member := joined.ended other member

/-- The first node of several carries a leg, and the first span is along it. -/
theorem Joined.spansOf_cons {node next : RouteNode α} {rest : List (RouteNode α)}
    (joined : Joined ⟨node :: next :: rest⟩ trailing) :
    ∃ leg, node.leg = some leg ∧
      spansOf (node :: next :: rest) =
        ⟨node.waypoint, leg, next.waypoint⟩ :: spansOf (next :: rest) := by
  obtain ⟨leg, carries⟩ := Option.isSome_iff_exists.mp (joined.joined node List.mem_cons_self)
  refine ⟨leg, carries, ?_⟩
  rw [spansOf, carries]

/-- **One span from each node to the next.** -/
theorem Joined.length_spans (joined : route.Joined trailing) :
    route.spans.length = route.length - 1 := by
  obtain ⟨nodes⟩ := route
  show (spansOf nodes).length = nodes.length - 1
  induction nodes with
  | nil => rfl
  | cons node rest ih =>
    cases rest with
    | nil => rfl
    | cons next rest =>
      obtain ⟨leg, _, spans⟩ := joined.spansOf_cons
      rw [spans, List.length_cons, ih joined.tail]
      rfl

/-- **The legs are those of the spans**, and behind them what the last node carries. -/
theorem Joined.legs_eq (joined : route.Joined trailing) (nonempty : route.nodes ≠ []) :
    route.legs = route.spans.map (·.leg) ++ trailing.toList := by
  obtain ⟨nodes⟩ := route
  show nodes.filterMap (·.leg) = (spansOf nodes).map (·.leg) ++ trailing.toList
  induction nodes with
  | nil => exact absurd rfl nonempty
  | cons node rest ih =>
    cases rest with
    | nil =>
      have carries : node.leg = trailing := joined.ended node rfl
      rw [List.filterMap_cons, carries]
      cases trailing <;> rfl
    | cons next rest =>
      obtain ⟨leg, carries, spans⟩ := joined.spansOf_cons
      rw [List.filterMap_cons_some carries, spans, ih joined.tail (List.cons_ne_nil _ _)]
      rfl

/-! ### Nodes that run from one waypoint to another -/

variable {start finish next last : Waypoint} {others : List (RouteNode α)}

/-- The first span leads to where the other nodes run from. -/
theorem Runs.spansOf_leg (leg : Leg α) (runs : Runs next nodes finish) :
    spansOf ({ waypoint := start, leg := some leg } :: nodes) =
      ⟨start, leg, next⟩ :: spansOf nodes := by
  cases runs <;> rfl

/-- **A waypoint more is a span more.** -/
theorem Runs.spansOf_extend (runs : Runs start nodes finish) (leg : Leg α) (waypoint : Waypoint) :
    spansOf (Route.withLastLeg leg nodes ++ [.final waypoint]) =
      spansOf nodes ++ [⟨finish, leg, waypoint⟩] := by
  induction runs with
  | final start => rfl
  | leg first runs ih =>
    rw [withLastLeg_cons _ _ runs.ne_nil, runs.spansOf_leg, List.cons_append, List.cons_append, ← ih]
    exact (runs.withLastLeg leg waypoint).spansOf_leg first

/-- **The spans of two routes that are connected** are those of the one, which may now end at another
waypoint that agrees, and those of the other. -/
theorem Runs.spansOf_append (runs : Runs start nodes finish) (more : Runs next others last)
    (same : finish.Same next) :
    ∃ first along, start.Same first ∧ Runs first (nodes.dropLast ++ others) last ∧
      spansOf (nodes.dropLast ++ others) = along ++ spansOf others ∧
      List.Forall₂ Span.Like (spansOf nodes) along ∧ Span.endOf first along = next := by
  induction runs with
  | final waypoint => exact ⟨next, [], same, more, rfl, .nil, rfl⟩
  | @leg start middle finish nodes leg runs ih =>
    obtain ⟨first, along, begins, joined, spans, like, ends⟩ := ih same
    refine ⟨start, ⟨start, leg, first⟩ :: along, .refl _, ?_, ?_, ?_, ends⟩
    · rw [List.dropLast_cons_of_ne_nil runs.ne_nil]
      exact .leg leg joined
    · rw [List.dropLast_cons_of_ne_nil runs.ne_nil, List.cons_append, joined.spansOf_leg, spans]
      rfl
    · rw [runs.spansOf_leg]
      exact .cons ⟨.refl _, rfl, begins⟩ like

end Route

end FlightRoute
