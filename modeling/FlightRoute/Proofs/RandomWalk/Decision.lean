/-
**A random route is found exactly when there is a way.**

Walks are drawn, tried a number of times, and given up; none of that decides whether a route is found. A walk
that gets to its end is a way between the two nodes, and when none does the search for the shortest route
finds a way if there is one. In a graph whose edges lead to nodes, nothing else can go wrong.

* `snap?_isSome_iff`: every waypoint is snapped to a node, unless there are none;
* `firstWalk_failsOnly`: walks fail only when they are called off;
* `findBetween_of_walked`: what is walked is also found by a search;
* `find_ok_iff`, `find_failsOnly`: when a random route is found, and why not.
-/

import FlightRoute.Proofs.RandomWalk.Genuine
import FlightRoute.Proofs.ShortestRoute.Complete

namespace FlightRoute

variable {σ α : Type} [Distance α] {graph : Graph α}

/-- There is a nearest node unless there are no nodes. -/
theorem Graph.nearest_ne_nil_iff {reference : Waypoint} :
    graph.nearest reference 1 ≠ [] ↔ graph.size ≠ 0 := by
  rw [Ne, nearest_eq_nil_iff]
  omega

namespace RandomWalk

variable {chooser : Chooser σ α} {settings : SearchSettings} {cancel : Option CancelFlag} {draws : σ}
  {start finish : Waypoint} {origin target : Nat} {progress : Progress}

/-! ### Nodes that stand for waypoints -/

/-- **Every waypoint is snapped to a node**, unless there are none. -/
theorem snap?_isSome_iff (waypoint : Waypoint) :
    (snap? graph waypoint).isSome ↔ graph.size ≠ 0 := by
  constructor
  · intro snaps
    obtain ⟨node, snapped⟩ := Option.isSome_iff_exists.mp snaps
    exact Nat.ne_of_gt (Nat.zero_lt_of_lt (snap?_lt snapped))
  · intro filled
    have nearby : graph.nearest waypoint 1 ≠ [] := Graph.nearest_ne_nil_iff.mpr filled
    obtain ⟨node, rest, nearest⟩ := List.exists_cons_of_ne_nil nearby
    rw [snap?, nearest, List.head?_cons, Option.isSome_or, Option.isSome_some, Bool.or_true]

/-! ### Walks -/

/-- What a walk is offered at a node. -/
theorem choices_ok (wellFormed : graph.WellFormed) (inside : progress.node < graph.size) :
    ∃ offered, choices graph progress finish = .ok offered := by
  obtain ⟨edges, leaving⟩ := wellFormed.outgoing_of_lt inside
  rw [choices, Graph.edgesFrom_eq_ok.mpr leaving, ok_bind]
  refine mapM_ok fun ⟨edge, label⟩ member => ?_
  have listed := List.fst_mem_of_mem_zipIdx (List.mem_of_mem_filter member)
  obtain ⟨place, there⟩ := Graph.waypoint_of_lt
    (wellFormed.target_lt _ _ edge leaving (Array.mem_toList_iff.mp listed))
  dsimp only
  rw [there]
  exact ⟨_, rfl⟩

/-- **A walk fails only when it is called off**: it never leaves the graph. -/
theorem walkOn_failsOnly (wellFormed : graph.WellFormed) (inside : progress.node < graph.size)
    (steps : Nat) :
    FailsOnly (CalledOff cancel) (walkOn chooser graph target finish cancel steps progress draws) := by
  induction steps generalizing progress draws with
  | zero => exact .ok _
  | succ steps ih =>
    unfold walkOn
    refine (checkCancel_failsOnly cancel).bind fun _ _ => ?_
    by_cases here : progress.node = target
    · rw [if_pos here]
      exact .ok _
    · obtain ⟨place, there⟩ := Graph.waypoint_of_lt inside
      obtain ⟨offered, found⟩ : ∃ offered, choices graph progress finish = .ok offered :=
        choices_ok wellFormed inside
      rw [if_neg here, there, ok_bind, found, ok_bind]
      cases offered with
      | nil => exact .ok _
      | cons first others =>
        have taken := List.get_mem (first :: others)
          (chooser.pick (Distance.between place finish) first others draws).1
        exact ih (wellFormed.edge_lt (mem_choices found taken).1)

/-- Nor do several of them, one after the other. -/
theorem firstWalk_failsOnly (wellFormed : graph.WellFormed) (inside : origin < graph.size)
    (ahead : target < graph.size) (steps attempts : Nat) :
    FailsOnly (CalledOff cancel)
      (firstWalk chooser graph origin target steps cancel attempts draws) := by
  induction attempts generalizing draws with
  | zero => exact .ok _
  | succ attempts ih =>
    unfold firstWalk
    refine FailsOnly.bind ?_ fun walked _ => ?_
    · obtain ⟨place, there⟩ := Graph.waypoint_of_lt ahead
      rw [walk, there, ok_bind]
      exact walkOn_failsOnly wellFormed inside steps
    · obtain ⟨_ | progress, behind⟩ := walked
      · exact ih
      · exact .ok _

/-! ### Between two nodes -/

/-- **What is walked is also found by a search**, when the lengths add up. -/
theorem findBetween_of_walked [Distance.Irreflexive α] (wellFormed : graph.WellFormed)
    (inside : origin < graph.size) (calm : checkCancel cancel = .ok ())
    (summable : graph.Summable [(origin, Distance.zero)] [(target, Distance.zero)] none)
    {route : Route α} {left : σ}
    (found : routeBetween chooser graph settings cancel origin target draws = .ok (route, left)) :
    ∃ shortest, ShortestRoute.findBetween graph origin target cancel = .ok shortest := by
  obtain ⟨edges, _, passes⟩ := routeBetween_simple wellFormed inside found
  exact ShortestRoute.findBetween_ok wellFormed summable passes.walk inside calm

/-- **What a search finds** is found in one way or the other, whatever is drawn. -/
theorem routeBetween_of_findBetween (wellFormed : graph.WellFormed) (inside : origin < graph.size)
    (ahead : target < graph.size) (calm : checkCancel cancel = .ok ()) {shortest : Route α}
    (found : ShortestRoute.findBetween graph origin target cancel = .ok shortest) :
    ∃ result, routeBetween chooser graph settings cancel origin target draws = .ok result := by
  have walks : FailsOnly (CalledOff cancel) (firstWalk chooser graph origin target
      settings.randomSteps cancel settings.randomAttempts draws) :=
    firstWalk_failsOnly wellFormed inside ahead _ _
  obtain ⟨⟨walked, behind⟩, ran⟩ := walks.exists_ok (not_calledOff calm)
  rw [routeBetween, ran, ok_bind]
  cases walked with
  | none =>
    dsimp only
    rw [found]
    exact ⟨_, rfl⟩
  | some progress =>
    obtain ⟨edges, traces, _⟩ := firstWalk_traces wellFormed inside ran
    obtain ⟨route, along⟩ := Graph.routeAlong_ok wellFormed traces.follows
    dsimp only
    rw [along]
    exact ⟨_, rfl⟩

/-- Between two nodes there is a route, no path, or the search is called off. -/
theorem routeBetween_failsOnly (wellFormed : graph.WellFormed) (inside : origin < graph.size)
    (ahead : target < graph.size) :
    FailsOnly (fun failure => (∃ left right, failure = .noPath left right) ∨ CalledOff cancel failure)
      (routeBetween chooser graph settings cancel origin target draws) := by
  unfold routeBetween
  refine FailsOnly.bind ?_ fun walked ran => ?_
  · exact (firstWalk_failsOnly wellFormed inside ahead _ _).mono fun _ => Or.inr
  · obtain ⟨_ | progress, behind⟩ := walked
    · refine FailsOnly.bind ?_ fun _ _ => .ok _
      have searches : FailsOnly _ (ShortestRoute.findBetween graph origin target cancel) :=
        ShortestRoute.find_failsOnly wellFormed inside ahead
      refine searches.mono fun failure reason => reason.imp_left ?_
      rintro ⟨left, right, _, _, rfl⟩
      exact ⟨left, right, rfl⟩
    · obtain ⟨edges, traces, _⟩ := firstWalk_traces wellFormed inside ran
      obtain ⟨route, along⟩ := Graph.routeAlong_ok wellFormed traces.follows
      refine FailsOnly.bind (.of_ok along) fun _ _ => .ok _

/-! ### Between two waypoints -/

/-- A random route between different waypoints is found when one is found between their nodes. -/
theorem find_ok_iff (different : (start == finish) = false) :
    (∃ result, find chooser graph settings cancel start finish draws = .ok result) ↔
      ∃ origin target result, snap? graph start = some origin ∧ snap? graph finish = some target ∧
        routeBetween chooser graph settings cancel origin target draws = .ok result := by
  constructor
  · rintro ⟨⟨route, left⟩, found⟩
    obtain ⟨origin, target, inner, snapped, ahead, between, _⟩ := find_eq_ok different found
    exact ⟨origin, target, _, snapped, ahead, between⟩
  · rintro ⟨origin, target, result, snapped, ahead, between⟩
    rw [find, if_neg (by simp [different]), snapped, ahead]
    dsimp only
    rw [between]
    exact ⟨_, rfl⟩

/-- **There is a random route**, no path, or the search is called off. -/
theorem find_failsOnly (wellFormed : graph.WellFormed) :
    FailsOnly (fun failure => (∃ left right, failure = .noPath left right) ∨ CalledOff cancel failure)
      (find chooser graph settings cancel start finish draws) := by
  unfold find
  split
  · exact .ok _
  · split
    · rename_i origin target snapped ahead
      refine FailsOnly.bind ?_ fun _ _ => .ok _
      exact routeBetween_failsOnly wellFormed (snap?_lt snapped) (snap?_lt ahead)
    · exact .error (Or.inl ⟨_, _, rfl⟩)

/-- **A random route is found exactly when there is a way.** Between different waypoints, in a search that
is not called off, one is found exactly when the graph has nodes and a shortest route is found between those
that the waypoints are snapped to; every failure is that there is no path. Neither the choices that are made
nor the settings matter to that, be it without any attempt or any step.

The lengths of ways without cycles between the two nodes add up. -/
theorem randomRoute_decides [Distance.Irreflexive α] (wellFormed : graph.WellFormed)
    (calm : checkCancel cancel = .ok ()) (different : (start == finish) = false)
    (summable : ∀ origin target, snap? graph start = some origin → snap? graph finish = some target →
      graph.Summable [(origin, Distance.zero)] [(target, Distance.zero)] none)
    (chooser : Chooser σ α) (settings : SearchSettings) (draws : σ) :
    ((∃ result, find chooser graph settings cancel start finish draws = .ok result) ↔
      graph.size ≠ 0 ∧ ∃ origin target route, snap? graph start = some origin ∧
        snap? graph finish = some target ∧
        ShortestRoute.findBetween graph origin target cancel = .ok route) ∧
    (∀ failure, find chooser graph settings cancel start finish draws = .error failure →
      ∃ left right, failure = .noPath left right) ∧
    ∀ (τ : Type) (other : Chooser τ α) (tuned : SearchSettings) (drawn : τ),
      (∃ result, find chooser graph settings cancel start finish draws = .ok result) ↔
        ∃ result, find other graph tuned cancel start finish drawn = .ok result := by
  have found_iff : ∀ {τ : Type} (chooser : Chooser τ α) (settings : SearchSettings) (draws : τ),
      (∃ result, find chooser graph settings cancel start finish draws = .ok result) ↔
        ∃ origin target route, snap? graph start = some origin ∧ snap? graph finish = some target ∧
          ShortestRoute.findBetween graph origin target cancel = .ok route := by
    intro τ chooser settings draws
    rw [find_ok_iff different]
    refine exists_congr fun origin => exists_congr fun target => ?_
    constructor
    · rintro ⟨⟨route, left⟩, snapped, ahead, between⟩
      obtain ⟨shortest, searched⟩ := findBetween_of_walked wellFormed (snap?_lt snapped) calm
        (summable origin target snapped ahead) between
      exact ⟨shortest, snapped, ahead, searched⟩
    · rintro ⟨shortest, snapped, ahead, searched⟩
      have between : ∃ result,
          routeBetween chooser graph settings cancel origin target draws = .ok result :=
        routeBetween_of_findBetween wellFormed (snap?_lt snapped) (snap?_lt ahead) calm searched
      exact between.imp fun result ran => ⟨snapped, ahead, ran⟩
  refine ⟨?_, fun failure failed => ?_, fun τ other tuned drawn => ?_⟩
  · rw [found_iff]
    refine (and_iff_right_of_imp ?_).symm
    rintro ⟨origin, _, _, snapped, _⟩
    exact (snap?_isSome_iff start).mp (Option.isSome_iff_exists.mpr ⟨origin, snapped⟩)
  · have reasons : FailsOnly _ (find chooser graph settings cancel start finish draws) :=
      find_failsOnly wellFormed
    exact (reasons failure failed).resolve_right (not_calledOff calm failure)
  · rw [found_iff, found_iff]

/-- Across the crossing a route is found without any walk. -/
theorem randomRoute_decides_crossing :
    crossing.WellFormed ∧ ((⟨"A", 0, 1⟩ : Waypoint) == ⟨"C", 0, 3⟩) = false ∧
      ∃ result, find takesFirst crossing { randomAttempts := 0 } none ⟨"A", 0, 1⟩ ⟨"C", 0, 3⟩ () =
        .ok result := by
  have wellFormed : crossing.WellFormed := crossing_built.wellFormed
  have snapped : snap? crossing ⟨"A", 0, 1⟩ = some 0 :=
    snap?_of_known (Graph.byWaypoint?_of_unique crossing_exactIndex (by decide) rfl (by decide))
  have ahead : snap? crossing ⟨"C", 0, 3⟩ = some 2 :=
    snap?_of_known (Graph.byWaypoint?_of_unique crossing_exactIndex (by decide) rfl (by decide))
  have different : ((⟨"A", 0, 1⟩ : Waypoint) == ⟨"C", 0, 3⟩) = false := by decide
  have searches : (ShortestRoute.findBetween crossing 0 2 none).toOption.isSome := by decide +kernel
  obtain ⟨route, found⟩ := Option.isSome_iff_exists.mp searches
  have calm : checkCancel none = .ok () := rfl
  have decides := randomRoute_decides wellFormed calm different
    (fun _ _ _ _ => Graph.summable_exact) takesFirst { randomAttempts := 0 } ()
  refine ⟨wellFormed, different, decides.1.mpr ⟨by decide, 0, 2, route, snapped, ahead, ?_⟩⟩
  exact toOption_eq_some.mp found

end RandomWalk

end FlightRoute
