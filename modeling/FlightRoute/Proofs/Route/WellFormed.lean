/-
**Well-formed routes.**

A route is well formed when every node but the last carries a leg and the last one carries none. The
nodes of such a route run from its first waypoint to its last (`Runs`); that is the form in which the
operations on routes are followed.

* `runs_iff`: nodes run from one waypoint to another when the route is well formed and begins and ends
  there;
* `Runs.extend`, `Runs.pushBack`: a waypoint more;
* `Runs.connect`, `Runs.connectAll`: routes that are connected.
-/

import FlightRoute.Proofs.Except
import FlightRoute.Proofs.Waypoint
import FlightRoute.Route.Connect
import FlightRoute.Route.Edit

namespace FlightRoute.Route

variable {α : Type}

/-- Every node but the last carries the leg to the next one, and the last one carries none. -/
structure WellFormed (route : Route α) : Prop where
  joined : ∀ node ∈ route.nodes.dropLast, node.leg.isSome
  ended : ∀ node ∈ route.nodes.getLast?, node.leg = none

/-- Nodes that run from one waypoint to another, each joined to the next by a leg. -/
inductive Runs : Waypoint → List (RouteNode α) → Waypoint → Prop
  | final (waypoint : Waypoint) : Runs waypoint [.final waypoint] waypoint
  | leg {start next finish : Waypoint} {nodes : List (RouteNode α)} (leg : Leg α) :
      Runs next nodes finish → Runs start ({ waypoint := start, leg := some leg } :: nodes) finish

variable {start finish : Waypoint} {nodes : List (RouteNode α)} {route other whole : Route α}

/-- A run over two nodes is one leg. -/
theorem Runs.eq_ofLeg (runs : Runs start nodes finish) (length : nodes.length = 2) :
    ∃ leg, nodes = (ofLeg start leg finish).nodes := by
  cases runs with
  | final => cases length
  | leg leg runs =>
    cases runs with
    | final => exact ⟨leg, rfl⟩
    | leg _ runs => cases runs <;> cases length

theorem Runs.ne_nil (runs : Runs start nodes finish) : nodes ≠ [] := by
  cases runs <;> exact List.cons_ne_nil _ _

theorem Runs.wellFormed (runs : Runs start nodes finish) : WellFormed ⟨nodes⟩ := by
  induction runs with
  | final waypoint =>
    refine ⟨fun node member => absurd member List.not_mem_nil, fun node member => ?_⟩
    cases member
    rfl
  | @leg start next finish nodes leg runs ih =>
    refine ⟨fun node member => ?_, fun node member => ?_⟩
    · rw [List.dropLast_cons_of_ne_nil runs.ne_nil] at member
      rcases List.mem_cons.mp member with rfl | member
      · rfl
      · exact ih.joined node member
    · rw [List.getLast?_cons_of_ne_nil runs.ne_nil] at member
      exact ih.ended node member

theorem Runs.head? (runs : Runs start nodes finish) : nodes.head?.map (·.waypoint) = some start := by
  cases runs <;> rfl

theorem Runs.getLast? (runs : Runs start nodes finish) : nodes.getLast? = some (.final finish) := by
  induction runs with
  | final waypoint => rfl
  | leg leg runs ih => rw [List.getLast?_cons_of_ne_nil runs.ne_nil, ih]

theorem Runs.first? (runs : Runs start route.nodes finish) : route.first? = some start := runs.head?

theorem Runs.last? (runs : Runs start route.nodes finish) : route.last? = some finish := by
  rw [Route.last?, runs.getLast?]
  rfl

/-- **Nodes run from one waypoint to another** exactly when the route is well formed and begins and
ends there. -/
theorem runs_iff :
    Runs start route.nodes finish ↔
      route.WellFormed ∧ route.first? = some start ∧ route.last? = some finish := by
  constructor
  · exact fun runs => ⟨runs.wellFormed, runs.first?, runs.last?⟩
  · obtain ⟨nodes⟩ := route
    rintro ⟨wellFormed, first, last⟩
    induction nodes generalizing start with
    | nil => cases first
    | cons node rest ih =>
      obtain ⟨waypoint, leg⟩ := node
      cases first
      cases rest with
      | nil =>
        cases last
        have ended : leg = none := wellFormed.ended _ rfl
        subst ended
        exact .final waypoint
      | cons next rest =>
        have joined : leg.isSome := wellFormed.joined _ List.mem_cons_self
        obtain ⟨leg, rfl⟩ := Option.isSome_iff_exists.mp joined
        refine .leg leg (ih ⟨fun node member => ?_, fun node member => ?_⟩ rfl last)
        · exact wellFormed.joined node (List.mem_cons_of_mem _ member)
        · exact wellFormed.ended node member

/-! ### A waypoint more -/

/-- In front of other nodes a node is not the last one. -/
theorem withLastLeg_cons (leg : Leg α) (node : RouteNode α) (nonempty : nodes ≠ []) :
    Route.withLastLeg leg (node :: nodes) = node :: Route.withLastLeg leg nodes := by
  cases nodes with
  | nil => exact absurd rfl nonempty
  | cons next rest => rfl

theorem Runs.withLastLeg (runs : Runs start nodes finish) (leg : Leg α) (waypoint : Waypoint) :
    Runs start (Route.withLastLeg leg nodes ++ [.final waypoint]) waypoint := by
  induction runs with
  | final start => exact .leg leg (.final waypoint)
  | leg first runs ih =>
    rw [withLastLeg_cons _ _ runs.ne_nil]
    exact .leg first ih

theorem Runs.extend (runs : Runs start route.nodes finish) (leg : Leg α) (waypoint : Waypoint) :
    Runs start (route.extend leg waypoint).nodes waypoint :=
  runs.withLastLeg leg waypoint

/-- The new leg stands behind the others. -/
theorem Runs.legs_extend (runs : Runs start route.nodes finish) (leg : Leg α) (waypoint : Waypoint) :
    (route.extend leg waypoint).legs = route.legs ++ [leg] := by
  obtain ⟨nodes⟩ := route
  change Runs start nodes finish at runs
  induction runs with
  | final start => rfl
  | leg first runs ih =>
    unfold Route.extend at ih ⊢
    rw [withLastLeg_cons _ _ runs.ne_nil]
    exact congrArg (first :: ·) ih

theorem Runs.pushBack [Distance α] (runs : Runs start route.nodes finish) (waypoint : Waypoint)
    (airway : String) (distance : Option α) :
    Runs start (route.pushBack waypoint airway distance).nodes waypoint := by
  unfold Route.pushBack leadTo
  rw [runs.getLast?]
  exact runs.withLastLeg _ waypoint

/-- A waypoint more at the end is a leg more. -/
theorem Runs.legs_pushBack [Distance α] (runs : Runs start route.nodes finish) (waypoint : Waypoint)
    (airway : String) (distance : Option α) :
    (route.pushBack waypoint airway distance).legs =
      route.legs ++ [⟨airway, distance.getD (Distance.between finish waypoint), []⟩] := by
  unfold Route.pushBack leadTo
  rw [runs.getLast?]
  exact runs.legs_extend _ waypoint

/-- The last node is the one that gets the leg, whether or not it carries one. -/
theorem withLastLeg_of_last? (ends : last? ⟨nodes⟩ = some finish) (leg : Leg α) :
    Route.withLastLeg leg nodes =
      nodes.dropLast ++ [{ waypoint := finish, leg := some leg }] := by
  fun_induction Route.withLastLeg leg nodes with
  | case1 => cases ends
  | case2 node =>
    cases ends
    rfl
  | case3 node next rest ih => exact congrArg (node :: ·) (ih ends)

theorem Runs.withLastLeg_eq (runs : Runs start nodes finish) (leg : Leg α) :
    Route.withLastLeg leg nodes =
      nodes.dropLast ++ [{ waypoint := finish, leg := some leg }] := by
  have ends : Route.last? ⟨nodes⟩ = some finish := Runs.last? runs
  exact withLastLeg_of_last? ends leg

theorem Runs.extend_nodes (runs : Runs start route.nodes finish) (leg : Leg α)
    (waypoint : Waypoint) :
    (route.extend leg waypoint).nodes =
      route.nodes.dropLast ++ [{ waypoint := finish, leg := some leg }, .final waypoint] := by
  unfold Route.extend
  rw [runs.withLastLeg_eq, List.append_assoc]
  rfl

/-- Nodes that take the place of the last one leave the first waypoint where it is. -/
theorem Runs.head?_rejoin {behind : List (RouteNode α)} (runs : Runs start nodes finish)
    (begins : behind.head?.map (·.waypoint) = some finish) :
    (nodes.dropLast ++ behind).head?.map (·.waypoint) = some start := by
  cases runs with
  | final _ => exact begins
  | leg _ runs =>
    rw [List.dropLast_cons_of_ne_nil runs.ne_nil]
    rfl

theorem Runs.pushBack_nodes [Distance α] (runs : Runs start route.nodes finish) (waypoint : Waypoint)
    (airway : String) (distance : Option α) :
    (route.pushBack waypoint airway distance).nodes =
      route.nodes.dropLast ++
        [{ waypoint := finish,
           leg := some ⟨airway, distance.getD (Distance.between finish waypoint), []⟩ }] ++
        [.final waypoint] := by
  unfold Route.pushBack leadTo
  rw [runs.getLast?, ← runs.withLastLeg_eq]
  rfl

/-! ### Connected routes -/

/-- Nodes that run up to a waypoint and nodes that run on from it. -/
theorem Runs.append {next last : Waypoint} {others : List (RouteNode α)}
    (runs : Runs start nodes finish) (more : Runs next others last) :
    Runs (if nodes.length = 1 then next else start) (nodes.dropLast ++ others) last := by
  induction runs with
  | final waypoint => exact more
  | @leg start middle finish nodes leg runs ih =>
    rw [List.dropLast_cons_of_ne_nil runs.ne_nil, List.length_cons,
      if_neg (by simpa using runs.ne_nil)]
    exact .leg leg ih

/-- Nodes that run up to a waypoint and nodes that run on from just there. -/
theorem Runs.join {middle last : Waypoint} {others : List (RouteNode α)}
    (runs : Runs start nodes middle) (more : Runs middle others last) :
    Runs start (nodes.dropLast ++ others) last := by
  induction runs with
  | final waypoint => exact more
  | leg leg runs ih =>
    rw [List.dropLast_cons_of_ne_nil runs.ne_nil]
    exact .leg leg (ih more)

/-- Their legs are those of both. -/
theorem Runs.legs_join (runs : Runs start nodes finish) (others : List (RouteNode α)) :
    (⟨nodes.dropLast ++ others⟩ : Route α).legs = (⟨nodes⟩ : Route α).legs ++ (⟨others⟩ : Route α).legs := by
  induction runs with
  | final waypoint => rfl
  | leg leg runs ih =>
    rw [List.dropLast_cons_of_ne_nil runs.ne_nil]
    exact congrArg (leg :: ·) ih

/-- **Connecting two routes** succeeds exactly when the one ends where the other begins. -/
theorem connect_eq {last next : Waypoint} (ends : route.last? = some last)
    (begins : other.first? = some next) :
    route.connect other =
      if last == next then .ok ⟨route.nodes.dropLast ++ other.nodes⟩
      else .error (.connectionMismatch last.ident next.ident) := by
  obtain ⟨seam, final, rfl⟩ := Option.map_eq_some_iff.mp ends
  unfold Route.connect
  rw [final]
  obtain ⟨nodes⟩ := other
  cases nodes with
  | nil => cases begins
  | cons first rest =>
    cases begins
    rfl

theorem Runs.connect {next last : Waypoint} (runs : Runs start route.nodes finish)
    (more : Runs next other.nodes last) (connected : route.connect other = .ok whole) :
    ∃ first, start.Same first ∧ Runs first whole.nodes last := by
  rw [connect_eq runs.last? more.first?] at connected
  split at connected
  · rename_i same
    cases connected
    refine ⟨_, ?_, runs.append more⟩
    by_cases alone : route.nodes.length = 1
    · rw [if_pos alone]
      have only : start = finish := by
        have first := runs.head?
        have last := runs.getLast?
        obtain ⟨node, whole⟩ := List.length_eq_one_iff.mp alone
        rw [whole] at first last
        cases first
        cases last
        rfl
      exact only ▸ Or.inr same
    · rw [if_neg alone]
      exact .refl start
  · cases connected

/-- The whole has the legs of both. -/
theorem Runs.legs_connect {next last : Waypoint} (runs : Runs start route.nodes finish)
    (more : Runs next other.nodes last) (connected : route.connect other = .ok whole) :
    whole.legs = route.legs ++ other.legs := by
  rw [connect_eq runs.last? more.first?] at connected
  split at connected
  · cases connected
    exact runs.legs_join other.nodes
  · cases connected

end FlightRoute.Route
