/-
**Filling the gaps between the pieces.**

A command becomes a route from where the piece before it ends to where the piece behind it begins, or
from or to the runway at either end of the route. Since finished routes and commands alternate, every
route that is filled in meets its neighbours.

* `RandomSource.Spans`: what is asked of a source of random routes;
* `fill_command`: what a command is filled with;
* `fillAll_runs`: the routes of all pieces are paths from the origin to the destination;
* `fillAll_meets`: each of them ends where the next one begins;
* `fillAll_seamless`: filling does not fail at a seam;
* `resolveTokens_eq_ok`: what it takes to resolve tokens.
-/

import FlightRoute.Proofs.Resolve.Pieces

namespace FlightRoute

variable {σ α : Type}

/-- Whenever the source produces a route, it begins at the first waypoint and ends at the second. -/
def RandomSource.Spans (random : RandomSource σ α) : Prop :=
  ∀ graph settings cancel start finish draws route draws',
    random graph settings cancel start finish draws = (.ok route, draws') →
      route.StartsAt start ∧ route.EndsAt finish

/-- Whenever the source produces a route, it is well formed. -/
def RandomSource.WellFormed (random : RandomSource σ α) : Prop :=
  ∀ graph settings cancel start finish draws route draws',
    random graph settings cancel start finish draws = (.ok route, draws') → route.WellFormed

/-- The source does not fail for want of a shared waypoint. -/
def RandomSource.Seamless (random : RandomSource σ α) : Prop :=
  ∀ graph settings cancel start finish draws,
    FlightRoute.Seamless (random graph settings cancel start finish draws).1

/-- Where a gap begins: at the end of the piece before it, or at the origin. -/
def Gap.start (gap : Gap) (flight : Flight) : Waypoint := gap.before.getD flight.origin.threshold

/-- Where a gap ends: at the beginning of the piece behind it, or at the destination. -/
def Gap.finish (gap : Gap) (flight : Flight) : Waypoint :=
  gap.after.getD flight.destination.threshold

namespace Endpoint

variable [Distance α] {graph : Graph α} {endpoint : Endpoint α} {waypoint first : Waypoint}
  {count : Nat}

/-- A route from or to a waypoint has its end there. -/
theorem ofWaypoint_at (found : ofWaypoint graph waypoint count = .ok endpoint)
    (here : endpoint.At graph first) : waypoint.Same first := by
  unfold ofWaypoint at found
  split at found
  · rename_i known
    cases found
    obtain ⟨own, place, agrees⟩ := Graph.byWaypoint?_eq_some known
    have same : graph.waypoints[_]? = some first := here
    rw [place] at same
    cases same
    exact Or.inr (BEq.symm agrees)
  · obtain ⟨links, _, found⟩ := bind_eq_ok.mp found
    cases found
    exact Or.inl here

/-- A route from or to a runway has its end at the threshold. -/
theorem ofRunway_at {terminal : Terminal α} {kind : ProcedureKind}
    (found : ofRunway terminal kind count = .ok endpoint) (here : endpoint.At graph first) :
    terminal.runway.threshold = first := by
  unfold ofRunway at found
  obtain ⟨links, _, found⟩ := bind_eq_ok.mp found
  split at found
  · obtain ⟨nearest, _, found⟩ := bind_eq_ok.mp found
    cases found
    exact here
  · cases found
    exact here

end Endpoint

namespace Resolver

variable [Distance α] {resolver : Resolver σ α} {graph : Graph α} {flight : Flight} {gap : Gap}
  {draws draws' : σ} {route : Route α} {routes : List (Route α)} {piece : Piece α}
  {previous : Option (Piece α)} {pieces : List (Piece α)}

/-! ### One fill -/

/-- The endpoint of a shortest path at one side of a gap: the waypoint there, or the runway. -/
def gapEnd (resolver : Resolver σ α) (graph : Graph α) (runway : Runway) (kind : ProcedureKind) :
    Option Waypoint → Except RouteError (Endpoint α)
  | some waypoint => Endpoint.ofWaypoint graph waypoint resolver.settings.terminalLinks
  | none => Endpoint.ofRunway (resolver.terminal graph runway) kind resolver.settings.terminalLinks

theorem autoFill_eq :
    resolver.autoFill graph flight gap =
      (do
        let start ← resolver.gapEnd graph flight.origin .sid gap.before
        let finish ← resolver.gapEnd graph flight.destination .star gap.after
        ShortestRoute.find graph start finish resolver.cancel) := by
  obtain ⟨before, after⟩ := gap
  cases before <;> cases after <;> rfl

theorem gapEnd_at {runway : Runway} {kind : ProcedureKind} {side : Option Waypoint}
    {endpoint : Endpoint α} {waypoint : Waypoint}
    (found : resolver.gapEnd graph runway kind side = .ok endpoint)
    (here : endpoint.At graph waypoint) : (side.getD runway.threshold).Same waypoint := by
  cases side with
  | some known => exact Endpoint.ofWaypoint_at found here
  | none => exact Or.inl (Endpoint.ofRunway_at found here)

theorem gapEnd_seamless (store : resolver.store.Seamless) (runway : Runway) (kind : ProcedureKind)
    (side : Option Waypoint) : Seamless (resolver.gapEnd graph runway kind side) := by
  cases side with
  | some known => exact Endpoint.ofWaypoint_seamless _ _ _
  | none => exact ofRunway_seamless store _ _

/-- A shortest path runs from the start of its gap to the finish. -/
theorem autoFill_runs (wellFormed : graph.WellFormed)
    (found : resolver.autoFill graph flight gap = .ok route) :
    route.StartsAt (gap.start flight) ∧ route.EndsAt (gap.finish flight) ∧ route.IsPath := by
  rw [autoFill_eq] at found
  obtain ⟨start, entered, found⟩ := bind_eq_ok.mp found
  obtain ⟨finish, left, found⟩ := bind_eq_ok.mp found
  obtain ⟨first, last, begins, ends, runs⟩ := ShortestRoute.find_runs wellFormed found
  refine ⟨⟨first, runs.first?, ?_⟩, ⟨last, runs.last?, ?_⟩, runs.isPath⟩
  · exact gapEnd_at entered begins
  · exact gapEnd_at left ends

/-- **A command is filled** with a route from the start of its gap to the finish. -/
theorem fill_command (wellFormed : graph.WellFormed) (random : resolver.random.Spans)
    (command : piece.isRoute = false)
    (filled : resolver.fill graph flight draws (piece.fill gap) = (.ok route, draws')) :
    route.StartsAt (gap.start flight) ∧ route.EndsAt (gap.finish flight) ∧
      (resolver.random.WellFormed → route.IsPath) := by
  cases piece with
  | route finished => cases command
  | auto =>
    obtain ⟨found, _⟩ := Prod.mk.inj filled
    obtain ⟨starts, ends, path⟩ := autoFill_runs wellFormed found
    exact ⟨starts, ends, fun _ => path⟩
  | rand =>
    obtain ⟨starts, ends⟩ := random _ _ _ _ _ _ _ _ filled
    refine ⟨starts, ends, fun formed => ?_⟩
    obtain ⟨first, begins, _⟩ := starts
    obtain ⟨last, finishes, _⟩ := ends
    exact ⟨first, last, Route.runs_iff.mpr ⟨formed _ _ _ _ _ _ _ _ filled, begins, finishes⟩⟩

theorem fill_seamless (store : resolver.store.Seamless) (random : resolver.random.Seamless)
    (draws : σ) (fill : Fill α) : Seamless (resolver.fill graph flight draws fill).1 := by
  cases fill with
  | done route => exact .ok _
  | rand gap => exact random _ _ _ _ _ _
  | auto gap =>
    show Seamless (resolver.autoFill graph flight gap)
    rw [autoFill_eq]
    refine .bind (gapEnd_seamless store _ _ _) fun start _ => ?_
    refine .bind (gapEnd_seamless store _ _ _) fun finish _ => ?_
    exact ShortestRoute.find_seamless graph start finish _

/-! ### All fills -/

theorem fillAll_cons {first : Fill α} {rest : List (Fill α)}
    (filled : resolver.fillAll graph flight draws (first :: rest) = (.ok routes, draws')) :
    ∃ route middle others, resolver.fill graph flight draws first = (.ok route, middle) ∧
      resolver.fillAll graph flight middle rest = (.ok others, draws') ∧ routes = route :: others := by
  unfold fillAll at filled
  split at filled
  · cases filled
  · rename_i route middle here
    split at filled
    · cases filled
    · rename_i others behind there
      cases filled
      exact ⟨route, middle, others, here, there, rfl⟩

/-- There is a route for every piece. -/
theorem fillAll_length
    (filled : resolver.fillAll graph flight draws (Piece.planAfter previous pieces) =
      (.ok routes, draws')) : routes.length = pieces.length := by
  induction pieces generalizing previous draws routes with
  | nil =>
    cases filled
    rfl
  | cons piece rest ih =>
    obtain ⟨route, middle, others, _, there, rfl⟩ := fillAll_cons filled
    rw [List.length_cons, List.length_cons, ih there]

theorem fillAll_ne_nil (nonempty : pieces ≠ [])
    (filled : resolver.fillAll graph flight draws (Piece.planAfter previous pieces) =
      (.ok routes, draws')) : routes ≠ [] := by
  rintro rfl
  exact nonempty (List.length_eq_zero_iff.mp (fillAll_length filled).symm)

/-- **The routes of all pieces** are paths. The first begins at the origin when no piece is before it, the
last ends at the destination. -/
theorem fillAll_runs (wellFormed : graph.WellFormed) (random : resolver.random.Spans)
    (formed : resolver.random.WellFormed) (spans : Piece.AllSpan graph flight previous.isNone pieces)
    (filled : resolver.fillAll graph flight draws (Piece.planAfter previous pieces) =
      (.ok routes, draws')) :
    (∀ route ∈ routes, route.IsPath) ∧
      (previous = none → ∀ route, routes.head? = some route →
        route.StartsAt flight.origin.threshold) ∧
      ∀ route, routes.getLast? = some route → route.EndsAt flight.destination.threshold := by
  induction pieces generalizing previous draws routes with
  | nil =>
    cases filled
    exact ⟨fun _ => nofun, fun _ _ => nofun, fun _ => nofun⟩
  | cons piece rest ih =>
    obtain ⟨route, middle, others, here, there, rfl⟩ := fillAll_cons filled
    obtain ⟨own, spans⟩ := spans
    have further : Piece.AllSpan graph flight (some piece).isNone rest := spans
    obtain ⟨paths, _, ends⟩ := ih further there
    have path : route.IsPath ∧
        (previous = none → route.StartsAt flight.origin.threshold) ∧
        (rest = [] → route.EndsAt flight.destination.threshold) := by
      by_cases command : piece.isRoute = false
      · obtain ⟨starts, finishes, path⟩ := fill_command wellFormed random command here
        refine ⟨path formed, fun first => ?_, fun last => ?_⟩
        · subst first
          exact starts
        · subst last
          exact finishes
      · cases piece with
        | route finished =>
          cases here
          refine ⟨own.path, fun first => own.origin ?_, fun last => own.destination ?_⟩
          · rw [first]
            rfl
          · rw [last]
            rfl
        | auto => exact absurd rfl command
        | rand => exact absurd rfl command
    obtain ⟨path, starts, finishes⟩ := path
    refine ⟨fun other member => ?_, fun first other head => ?_, fun other last => ?_⟩
    · rcases List.mem_cons.mp member with rfl | member
      · exact path
      · exact paths other member
    · cases head
      exact starts first
    · cases others with
      | nil =>
        cases last
        exact finishes (List.length_eq_zero_iff.mp (fillAll_length there).symm)
      | cons second more => exact ends other last

/-- **Each route ends where the next one begins**, also behind a finished route in front of the pieces,
when finished routes and commands alternate. -/
theorem fillAll_meets (wellFormed : graph.WellFormed) (comparable : graph.Comparable)
    (random : resolver.random.Spans) (spans : Piece.AllSpan graph flight previous.isNone pieces)
    (alternate : ((previous.toList ++ pieces).map Piece.isRoute).IsChain (· ≠ ·))
    (before : ∀ route, previous = some (.route route) → pieces ≠ [] →
      ∃ last, route.last? = some last ∧ graph.Holds last)
    (filled : resolver.fillAll graph flight draws (Piece.planAfter previous pieces) =
      (.ok routes, draws')) :
    routes.IsChain Route.Meets ∧
      (∀ route next, previous = some (.route route) → routes.head? = some next → route.Meets next) ∧
      ∀ route, pieces.head? = some (.route route) → routes.head? = some route := by
  induction pieces generalizing previous draws routes with
  | nil =>
    cases filled
    exact ⟨.nil, fun _ _ _ => nofun, fun _ => nofun⟩
  | cons piece rest ih =>
    obtain ⟨route, middle, others, here, there, rfl⟩ := fillAll_cons filled
    obtain ⟨own, spans⟩ := spans
    have behind : ((piece :: rest).map Piece.isRoute).IsChain (· ≠ ·) := by
      cases previous with
      | none => exact alternate
      | some earlier => exact alternate.of_cons
    have exits : ∀ route, some piece = some (.route route) → rest ≠ [] →
        ∃ last, route.last? = some last ∧ graph.Holds last := by
      intro finished same more
      cases same
      rw [List.isEmpty_eq_false_iff.mpr more] at own
      exact Route.Spans.holds_last own
    have further : Piece.AllSpan graph flight (some piece).isNone rest := spans
    obtain ⟨chain, leaves, kept⟩ := ih further behind exits there
    have finished : ∀ other, piece = .route other → route = other := by
      rintro other rfl
      cases here
      rfl
    refine ⟨List.isChain_cons.mpr ⟨fun next member => ?_, chain⟩, ?_, ?_⟩
    · by_cases command : piece.isRoute = false
      · obtain ⟨_, ⟨finish, ends, agrees⟩, _⟩ := fill_command wellFormed random command here
        cases rest with
        | nil =>
          cases there
          cases member
        | cons second more =>
          obtain ⟨differ, _⟩ := List.isChain_cons_cons.mp behind
          cases second with
          | route other =>
            obtain ⟨entry, begins, holds⟩ := Route.Spans.holds_first spans.1
            rw [kept other rfl] at member
            cases member
            have gap : entry.Same finish := by
              rw [← Option.getD_some (a := entry) (b := flight.destination.threshold), ← begins]
              exact agrees
            exact ⟨finish, entry, ends, begins, BEq.symm (comparable.holds_beq holds gap)⟩
          | auto => exact absurd command differ
          | rand => exact absurd command differ
      · cases piece with
        | route other =>
          obtain rfl := finished other rfl
          exact leaves route next rfl member
        | auto => exact absurd rfl command
        | rand => exact absurd rfl command
    · rintro other next rfl head
      cases head
      obtain ⟨differ, _⟩ := List.isChain_cons_cons.mp alternate
      have command : piece.isRoute = false := (Bool.eq_false_of_not_eq_true fun same => differ same.symm)
      obtain ⟨⟨start, begins, agrees⟩, _⟩ := fill_command wellFormed random command here
      obtain ⟨last, ends, holds⟩ := before other rfl (List.cons_ne_nil _ _)
      have gap : last.Same start := by
        rw [← Option.getD_some (a := last) (b := flight.origin.threshold), ← ends]
        exact agrees
      exact ⟨last, start, ends, begins, comparable.holds_beq holds gap⟩
    · intro other head
      cases head
      rw [finished other rfl]
      rfl

theorem fillAll_seamless (store : resolver.store.Seamless) (random : resolver.random.Seamless)
    (draws : σ) (fills : List (Fill α)) : Seamless (resolver.fillAll graph flight draws fills).1 := by
  induction fills generalizing draws with
  | nil => exact .ok _
  | cons first rest ih =>
    have own : Seamless (resolver.fill graph flight draws first).1 :=
      fill_seamless store random draws first
    unfold fillAll
    split
    · rename_i failure behind here
      rw [here] at own
      exact fun left right same => own left right (by cases same; rfl)
    · rename_i route middle here
      have others := ih middle
      split
      · rename_i failure behind there
        rw [there] at others
        exact fun left right same => others left right (by cases same; rfl)
      · exact .ok _

/-! ### Tokens -/

/-- **Tokens are resolved** when all pieces of their segments are filled in and connect. -/
theorem resolveTokens_eq_ok {tokens : List Token} {whole : Route α} :
    (resolver.resolveTokens graph flight tokens draws).1 = .ok whole ↔
      ∃ segments pieces routes behind, Segment.group tokens = .ok segments ∧
        resolver.pieces graph flight segments = .ok pieces ∧
        resolver.fillAll graph flight draws (Piece.plan pieces) = (.ok routes, behind) ∧
        Route.connectAll routes = .ok whole := by
  unfold resolveTokens
  constructor
  · intro resolved
    split at resolved
    · cases resolved
    · rename_i pieces read
      obtain ⟨segments, grouped, read⟩ := bind_eq_ok.mp read
      split at resolved
      · cases resolved
      · rename_i routes behind filled
        exact ⟨segments, pieces, routes, behind, grouped, read, filled, resolved⟩
  · rintro ⟨segments, pieces, routes, behind, grouped, read, filled, connected⟩
    rw [grouped, ok_bind, read]
    dsimp only
    rw [filled]
    exact connected

end Resolver

end FlightRoute
