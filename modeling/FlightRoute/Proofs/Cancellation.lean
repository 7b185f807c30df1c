/-
**Calling a search off only takes results away.**

A search looks at its flag while it runs. What it has found by then it never changes, so that under a flag it
ends as it does without one, or it is called off (`CutShort`). Since every search that finds a way has looked
at the flag, under a raised flag none finds one.

* `CutShort.bind`: steps one after the other;
* `explore_cutShort`, `find_cutShort`, `alongAirway_cutShort`: the shortest-path searches;
* `find_raised`, `alongAirway_raised`: under a raised flag they find nothing;
* `RandomWalk.find_cutShort`, `replayed_cutShort`: random routes;
* `LiteralRun.resolve_cutShort`: literal runs;
* `LiteralRun.Searches`, `resolve_raised`: literal runs that look for a way along an airway.
-/

import FlightRoute.Proofs.Failure
import FlightRoute.Proofs.LiteralRun.Follow
import FlightRoute.RandomWalk.Basic

namespace FlightRoute

variable {β γ : Type} {cancel : Option CancelFlag}

/-! ### What ends early -/

/-- The one computation ends as the other does, or it is called off. -/
def CutShort (cancel : Option CancelFlag) (x y : Except RouteError β) : Prop :=
  x = y ∨ ∃ failure, x = .error failure ∧ CalledOff cancel failure

namespace CutShort

variable {x y : Except RouteError β}

theorem refl (x : Except RouteError β) : CutShort cancel x x := Or.inl rfl

/-- **Steps one after the other.** -/
theorem bind {f g : β → Except RouteError γ} (first : CutShort cancel x y)
    (rest : ∀ b, y = .ok b → CutShort cancel (f b) (g b)) : CutShort cancel (x >>= f) (y >>= g) := by
  rcases first with rfl | ⟨failure, rfl, off⟩
  · cases x with
    | error failure => exact refl _
    | ok b => exact rest b rfl
  · exact Or.inr ⟨failure, rfl, off⟩

theorem map (first : CutShort cancel x y) (f : β → γ) : CutShort cancel (x.map f) (y.map f) := by
  rcases first with rfl | ⟨failure, rfl, off⟩
  · exact refl _
  · exact Or.inr ⟨failure, rfl, off⟩

/-- Under a flag that is not raised nothing is called off. -/
theorem eq (short : CutShort cancel x y) (calm : checkCancel cancel = .ok ()) : x = y :=
  short.resolve_right fun ⟨failure, _, off⟩ => not_calledOff calm failure off

end CutShort

/-- The same of computations that draw: the one ends as the other does, or it is called off. -/
def DrawsShort {σ : Type} (cancel : Option CancelFlag) (x y : Except RouteError β × σ) : Prop :=
  x = y ∨ ∃ failure, x.1 = .error failure ∧ CalledOff cancel failure

/-- A computation that leaves the draws as they are. -/
theorem CutShort.draws {σ : Type} {x y : Except RouteError β} (short : CutShort cancel x y) (draws : σ) :
    DrawsShort cancel (x, draws) (y, draws) :=
  short.imp (congrArg (·, draws)) id

/-- **A look at the flag.** -/
theorem checkCancel_cutShort (cancel : Option CancelFlag) :
    CutShort cancel (checkCancel cancel) (checkCancel none) := by
  cases look : checkCancel cancel with
  | ok _ => exact .refl _
  | error failure => exact Or.inr ⟨failure, rfl, checkCancel_failsOnly cancel failure look⟩

/-! ### Shortest-path searches -/

namespace Search

variable {α : Type} [Distance α]

/-- **A search that is called off** has found what it would have found without a flag, or nothing yet. -/
theorem explore_cutShort (network : Network α) (goal rounds : Nat) (state : State α) :
    CutShort cancel (explore network goal cancel rounds state)
      (explore network goal none rounds state) := by
  induction rounds generalizing state with
  | zero => exact .refl _
  | succ rounds ih =>
    unfold explore
    cases state.agenda.dropWhile state.overtaken with
    | nil => exact .refl _
    | cons entry agenda =>
      dsimp only
      cases state.marks[entry.vertex]?.bind (·.best) with
      | none => exact .refl _
      | some reached =>
        refine (checkCancel_cutShort cancel).bind fun _ _ => ?_
        split
        · exact .refl _
        · exact (CutShort.refl _).bind fun arcs _ => (CutShort.refl _).bind fun next _ => ih next

/-- Under a raised flag a search that gets as far as its goal has looked at the flag. -/
theorem explore_raised {failure : RouteError} (raised : checkCancel cancel = .error failure)
    (network : Network α) (goal rounds : Nat) (state : State α) (trail : Trail) :
    explore network goal cancel rounds state ≠ .ok (some trail) := by
  intro found
  cases rounds with
  | zero => cases found
  | succ rounds =>
    unfold explore at found
    split at found
    · cases found
    · split at found
      · cases found
      · rw [raised] at found
        cases found

end Search

namespace Graph

variable {α : Type} [Distance α] (graph : Graph α)

theorem connection?_cutShort (sources targets : List (Nat × α)) (airway : Option String) :
    CutShort cancel (graph.connection? sources targets airway cancel)
      (graph.connection? sources targets airway none) :=
  ((CutShort.refl _).bind fun state _ => Search.explore_cutShort _ _ _ state).bind fun _ _ => .refl _

theorem connection?_raised {failure : RouteError} (raised : checkCancel cancel = .error failure)
    (sources targets : List (Nat × α)) (airway : Option String) (connection : Connection) :
    graph.connection? sources targets airway cancel ≠ .ok (some connection) := by
  intro found
  obtain ⟨trail, found, whole⟩ := bind_eq_ok.mp found
  cases trail with
  | none => cases whole
  | some trail =>
    obtain ⟨state, _, found⟩ := bind_eq_ok.mp found
    exact Search.explore_raised raised _ _ _ state trail found

end Graph

namespace ShortestRoute

variable {α : Type} [Distance α] (graph : Graph α)

/-- **A shortest route under a flag.** -/
theorem find_cutShort (start finish : Endpoint α) :
    CutShort cancel (find graph start finish cancel) (find graph start finish none) := by
  refine (CutShort.refl _).bind fun sources _ => (CutShort.refl _).bind fun targets _ => ?_
  exact (graph.connection?_cutShort sources targets none).bind fun _ _ => .refl _

/-- **A shortest route along an airway under a flag.** -/
theorem alongAirway_cutShort (start : Nat) (candidates : List Nat) (airway : String) :
    CutShort cancel (alongAirway graph start candidates airway cancel)
      (alongAirway graph start candidates airway none) :=
  (graph.connection?_cutShort _ _ _).bind fun _ _ => .refl _

variable {failure : RouteError} (raised : checkCancel cancel = .error failure)

include raised

/-- **Under a raised flag** no shortest route is found. -/
theorem find_raised (start finish : Endpoint α) (route : Route α) :
    find graph start finish cancel ≠ .ok route := by
  intro found
  obtain ⟨_, _, connection, _, _, _, _, searched, _⟩ := find_eq_ok found
  exact graph.connection?_raised raised _ _ _ connection searched

/-- **Under a raised flag** no route along an airway is found. -/
theorem alongAirway_raised (start : Nat) (candidates : List Nat) (airway : String) (route : Route α) :
    alongAirway graph start candidates airway cancel ≠ .ok route := by
  intro found
  obtain ⟨connection, searched, _⟩ := alongAirway_connection found
  exact graph.connection?_raised raised _ _ _ connection searched

end ShortestRoute

/-! ### Random routes -/

/-- A source of random routes that draws under a flag what it draws without one, or is called off. -/
def RandomSource.CutShort {σ α : Type} (random : RandomSource σ α) : Prop :=
  ∀ graph settings cancel start finish draws,
    DrawsShort cancel (random graph settings cancel start finish draws)
      (random graph settings none start finish draws)

namespace RandomWalk

variable {σ α : Type} [Distance α] (chooser : Chooser σ α) (graph : Graph α)

theorem walkOn_cutShort (target : Nat) (finish : Waypoint) (steps : Nat) (progress : Progress)
    (draws : σ) :
    CutShort cancel (walkOn chooser graph target finish cancel steps progress draws)
      (walkOn chooser graph target finish none steps progress draws) := by
  induction steps generalizing progress draws with
  | zero => exact .refl _
  | succ steps ih =>
    unfold walkOn
    refine (checkCancel_cutShort cancel).bind fun _ _ => ?_
    split
    · exact .refl _
    · refine (CutShort.refl _).bind fun waypoint _ => (CutShort.refl _).bind fun offered _ => ?_
      cases offered with
      | nil => exact .refl _
      | cons first others => exact ih _ _

theorem firstWalk_cutShort (start target steps attempts : Nat) (draws : σ) :
    CutShort cancel (firstWalk chooser graph start target steps cancel attempts draws)
      (firstWalk chooser graph start target steps none attempts draws) := by
  induction attempts generalizing draws with
  | zero => exact .refl _
  | succ attempts ih =>
    have one : CutShort cancel (walk chooser graph start target steps cancel draws)
        (walk chooser graph start target steps none draws) :=
      (CutShort.refl _).bind fun finish _ => walkOn_cutShort chooser graph target finish steps _ draws
    refine one.bind fun ⟨arrived, behind⟩ _ => ?_
    cases arrived with
    | some progress => exact .refl _
    | none => exact ih behind

/-- **A random route under a flag.** -/
theorem find_cutShort (settings : SearchSettings) (start finish : Waypoint) (draws : σ) :
    CutShort cancel (find chooser graph settings cancel start finish draws)
      (find chooser graph settings none start finish draws) := by
  unfold find
  split
  · exact .refl _
  · split
    · rename_i origin target _ _
      refine CutShort.bind ?_ fun _ _ => .refl _
      refine (firstWalk_cutShort chooser graph origin target _ _ draws).bind fun ⟨arrived, behind⟩ _ => ?_
      cases arrived with
      | some progress => exact .refl _
      | none => exact (ShortestRoute.find_cutShort graph _ _).bind fun _ _ => .refl _
    · exact .refl _

/-- **Every call of a seeded source** is a random route of its own. -/
theorem replayed_cutShort {τ : Type} (chooser : SearchSettings → Chooser σ α) (draws : σ) :
    (replayed chooser draws : RandomSource τ α).CutShort := by
  intro graph settings cancel start finish state
  have short : CutShort cancel ((find (chooser settings) graph settings cancel start finish draws).map (·.1))
      ((find (chooser settings) graph settings none start finish draws).map (·.1)) :=
    (find_cutShort (chooser settings) graph settings start finish draws).map _
  exact short.draws state

end RandomWalk

/-! ### Literal runs -/

namespace LiteralRun

variable {α : Type} [Distance α] (run : LiteralRun α)

/-- The run under another flag. -/
def under (run : LiteralRun α) (cancel : Option CancelFlag) : LiteralRun α := { run with cancel }

theorem airwayLeg_cutShort (current : Nat) (route : Route α) (airway : String) (target : Token)
    (isLast : Bool) :
    CutShort run.cancel (run.airwayLeg current route airway target isLast)
      ((run.under none).airwayLeg current route airway target isLast) := by
  unfold airwayLeg
  split
  · exact .refl _
  · refine CutShort.bind (.refl _) fun candidates _ => ?_
    exact (ShortestRoute.alongAirway_cutShort run.graph current candidates airway).bind fun _ _ => .refl _

/-- Following tokens looks at the flag along airways only. -/
theorem follow_cutShort (current : Nat) (route : Route α) (tokens : List Token) :
    CutShort run.cancel (run.follow current route tokens) ((run.under none).follow current route tokens) := by
  induction current, route, tokens using LiteralRun.follow.induct with
  | case1 current route => exact .refl _
  | case2 current route => exact .refl _
  | case3 current route rest => exact .refl _
  | case4 current route next rest other ih =>
    rw [follow, follow]
    · exact (CutShort.refl _).bind fun ⟨node, longer⟩ _ => ih node longer
    all_goals exact other
  | case5 current route airway target rest ih again =>
    rw [follow, follow]
    refine (CutShort.refl _).bind fun known _ => ?_
    cases known with
    | true =>
      exact (run.airwayLeg_cutShort current route airway target _).bind fun ⟨node, longer⟩ _ =>
        ih node longer
    | false => exact (CutShort.refl _).bind fun ⟨node, longer⟩ _ => again node longer
  | case6 current route token rest alone twice onward named ih =>
    rw [follow, follow]
    · exact (CutShort.refl _).bind fun ⟨node, longer⟩ _ => ih node longer
    all_goals assumption

/-- **A literal run under a flag.** -/
theorem resolve_cutShort (tokens : List Token) :
    CutShort run.cancel (run.resolve tokens) ((run.under none).resolve tokens) := by
  cases tokens with
  | nil => exact .refl _
  | cons first rest =>
    unfold resolve
    dsimp only
    split
    · exact .refl (.error (.grammar .danglingDirect))
    · refine (CutShort.refl _).bind fun start _ => (CutShort.refl _).bind fun place _ => ?_
      exact run.follow_cutShort start (.single place) rest

/-- Following the rest of the tokens looks for a way along an airway. -/
inductive SearchesOn (run : LiteralRun α) : Nat → Route α → List Token → Prop
  /-- From here to the nodes that the token behind the airway may mean. -/
  | here {current : Nat} {route : Route α} {airway : String} {target : Token} {rest : List Token}
      {candidates : List Nat} :
      run.graph.hasAirway current airway = .ok true → target.isWaypoint = true →
      run.airwayTargets target rest.isEmpty = .ok candidates →
      SearchesOn run current route (.ident airway :: target :: rest)
  /-- Behind an airway. -/
  | airway {current next : Nat} {route longer : Route α} {airway : String} {target : Token}
      {rest : List Token} :
      run.graph.hasAirway current airway = .ok true →
      run.airwayLeg current route airway target rest.isEmpty = .ok (next, longer) →
      SearchesOn run next longer rest → SearchesOn run current route (.ident airway :: target :: rest)
  /-- Behind `DCT` and its token. -/
  | direct {current next : Nat} {route longer : Route α} {target : Token} {rest : List Token} :
      target ≠ .direct → run.directLeg current route target rest.isEmpty = .ok (next, longer) →
      SearchesOn run next longer rest → SearchesOn run current route (.direct :: target :: rest)
  /-- Behind a token that is no airway here. -/
  | next {current next : Nat} {route longer : Route α} {target : Token} {rest : List Token} :
      (∀ airway, target = .ident airway → rest ≠ [] →
        run.graph.hasAirway current airway = .ok false) → target ≠ .direct →
      run.directLeg current route target rest.isEmpty = .ok (next, longer) →
      SearchesOn run next longer rest → SearchesOn run current route (target :: rest)

/-- A literal run looks for a way along an airway. -/
def Searches (run : LiteralRun α) (tokens : List Token) : Prop :=
  ∃ first rest start place, tokens = first :: rest ∧
    run.nodeOf first run.reference (run.firstPin.or (if rest.isEmpty then run.lastPin else none)) =
      .ok start ∧
    run.graph.waypoint start = .ok place ∧ run.SearchesOn start (.single place) rest

/-- A token that is no airway here is a direct leg. -/
theorem follow_next {current : Nat} {route : Route α} {target : Token} {rest : List Token}
    (unknown : ∀ airway, target = .ident airway → rest ≠ [] →
      run.graph.hasAirway current airway = .ok false) (other : target ≠ .direct) :
    run.follow current route (target :: rest) =
      run.directLeg current route target rest.isEmpty >>= fun leg => run.follow leg.1 leg.2 rest := by
  cases target with
  | direct => exact absurd rfl other
  | ident airway =>
    cases rest with
    | nil => rw [follow] <;> nofun
    | cons second rest =>
      rw [follow, unknown airway rfl (List.cons_ne_nil _ _)]
      rfl
  | _ => rw [follow] <;> nofun

section Raised

variable {run : LiteralRun α} {failure : RouteError} (raised : checkCancel run.cancel = .error failure)

include raised

/-- Under a raised flag no airway is flown. -/
theorem airwayLeg_raised {current next : Nat} {route longer : Route α} {airway : String} {target : Token}
    {isLast : Bool} :
    run.airwayLeg current route airway target isLast ≠ .ok (next, longer) := by
  intro found
  obtain ⟨_, _, _, _, along, _⟩ := airwayLeg_steps found
  exact ShortestRoute.alongAirway_raised run.graph raised _ _ _ _ along

/-- Up to the first airway a run does not depend on its flag, and there it ends when the flag is raised. -/
theorem follow_raised {current : Nat} {route whole : Route α} {tokens : List Token}
    (searches : (run.under none).SearchesOn current route tokens) :
    run.follow current route tokens ≠ .ok whole := by
  induction searches with
  | here known stands meant =>
    intro followed
    rw [follow] at followed
    obtain ⟨again, asked, followed⟩ := bind_eq_ok.mp followed
    cases known.symm.trans asked
    obtain ⟨_, found, _⟩ := bind_eq_ok.mp followed
    exact airwayLeg_raised raised found
  | airway known flown further ih =>
    intro followed
    rw [follow] at followed
    obtain ⟨again, asked, followed⟩ := bind_eq_ok.mp followed
    cases known.symm.trans asked
    obtain ⟨_, found, _⟩ := bind_eq_ok.mp followed
    exact airwayLeg_raised raised found
  | direct other led further ih =>
    intro followed
    rw [follow] at followed
    · obtain ⟨_, found, followed⟩ := bind_eq_ok.mp followed
      cases led.symm.trans found
      exact ih followed
    · exact other
  | next unknown other led further ih =>
    intro followed
    rw [follow_next run unknown other] at followed
    obtain ⟨_, found, followed⟩ := bind_eq_ok.mp followed
    cases led.symm.trans found
    exact ih followed

/-- **Under a raised flag** a literal run that looks for a way along an airway is not resolved. -/
theorem resolve_raised {tokens : List Token} (searches : (run.under none).Searches tokens)
    (whole : Route α) : run.resolve tokens ≠ .ok whole := by
  obtain ⟨first, rest, start, place, rfl, meant, here, along⟩ := searches
  intro resolved
  unfold resolve at resolved
  dsimp only at resolved
  split at resolved
  · obtain ⟨_, refused, _⟩ := bind_eq_ok.mp resolved
    cases refused
  · obtain ⟨node, again, resolved⟩ := bind_eq_ok.mp resolved
    cases meant.symm.trans again
    obtain ⟨own, there, followed⟩ := bind_eq_ok.mp resolved
    cases here.symm.trans there
    exact follow_raised raised along followed

end Raised

end LiteralRun

end FlightRoute
