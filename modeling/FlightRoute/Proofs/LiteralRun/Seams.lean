/-
**Literal runs have no open seams.**

A leg along an airway is connected to the route before it at the waypoint of the node it leaves. When
all coordinates are numbers the two agree there, so that following tokens never fails for want of a
shared waypoint.

* `resolve_seamless`: a literal run does not fail at a seam;
* `resolve_single`: a single token that bears the first pin is the route of the pin.
-/

import FlightRoute.Proofs.LiteralRun.Follow
import FlightRoute.Proofs.Seamless

namespace FlightRoute.LiteralRun

open Seamless

variable {α : Type} {run : LiteralRun α} {current : Nat} {route : Route α} {start finish : Waypoint}

theorem nodeOfWaypoint_seamless (waypoint : Waypoint) : Seamless (run.nodeOfWaypoint waypoint) := by
  unfold nodeOfWaypoint
  split
  · exact ok _
  · exact error nofun

theorem airwayTargets_seamless (token : Token) (isLast : Bool) :
    Seamless (run.airwayTargets token isLast) := by
  unfold airwayTargets
  split
  · exact bind (nodeOfWaypoint_seamless _) fun _ _ => ok _
  · exact bind (nodeOfWaypoint_seamless _) fun _ _ => ok _
  · dsimp only
    split
    · exact error nofun
    · exact ok _

variable [Distance α]

theorem nodeOf_seamless (token : Token) (near : Waypoint) (pin : Option Waypoint) :
    Seamless (run.nodeOf token near pin) := by
  unfold nodeOf
  split
  · exact error nofun
  · split
    · exact nodeOfWaypoint_seamless _
    · exact nodeOfWaypoint_seamless _
    · split
      · exact ok _
      · exact error nofun

theorem directLeg_seamless (token : Token) (isLast : Bool) :
    Seamless (run.directLeg current route token isLast) := by
  unfold directLeg
  refine bind (run.graph.waypoint_seamless _) fun near _ => ?_
  refine bind (nodeOf_seamless _ _ _) fun next _ => ?_
  exact bind (run.graph.waypoint_seamless _) fun _ _ => ok _

/-- A leg along an airway begins where the route has come to. -/
theorem airwayLeg_seamless (wellFormed : run.graph.WellFormed)
    (comparable : run.graph.Comparable) (reaches : run.Reaches current route start finish)
    (airway : String) (target : Token) (isLast : Bool) :
    Seamless (run.airwayLeg current route airway target isLast) := by
  unfold airwayLeg
  split
  · exact error nofun
  · refine bind (airwayTargets_seamless _ _) fun candidates _ => ?_
    refine bind (ShortestRoute.alongAirway_seamless _ _ _ _ _) fun leg along => ?_
    split
    · exact error nofun
    · refine bind ?_ fun _ _ => ok _
      obtain ⟨first, _, last, place, _, _, runs, _⟩ := ShortestRoute.alongAirway_runs wellFormed along
      obtain ⟨own, here, same⟩ := reaches.node
      rw [here] at place
      cases place
      rw [Route.connect_eq reaches.runs.last? runs.first?,
        if_pos (BEq.symm (comparable.beq here same))]
      exact ok _

/-- **Following tokens never fails at a seam.** -/
theorem follow_seamless (wellFormed : run.graph.WellFormed) (comparable : run.graph.Comparable)
    {tokens : List Token} (reaches : run.Reaches current route start finish) :
    Seamless (run.follow current route tokens) := by
  induction current, route, tokens using LiteralRun.follow.induct generalizing start finish with
  | case1 current route => exact ok _
  | case2 current route => exact malformed _
  | case3 current route rest => exact malformed _
  | case4 current route next rest other ih =>
    rw [follow]
    · refine bind (directLeg_seamless _ _) fun reached leg => ?_
      obtain ⟨node, longer⟩ := reached
      obtain ⟨middle, further⟩ := directLeg_reaches wellFormed.exactIndex reaches leg
      exact ih node longer further
    · exact other
  | case5 current route airway target rest ih again =>
    rw [follow]
    refine bind (run.graph.hasAirway_seamless _ _) fun known _ => ?_
    split
    · refine bind (airwayLeg_seamless wellFormed comparable reaches _ _ _) fun reached leg => ?_
      obtain ⟨node, longer⟩ := reached
      obtain ⟨first, middle, _, further⟩ := airwayLeg_reaches wellFormed reaches leg
      exact ih node longer further
    · refine bind (directLeg_seamless _ _) fun reached leg => ?_
      obtain ⟨node, longer⟩ := reached
      obtain ⟨middle, further⟩ := directLeg_reaches wellFormed.exactIndex reaches leg
      exact again node longer further
  | case6 current route token rest alone twice onward named ih =>
    rw [follow]
    · refine bind (directLeg_seamless _ _) fun reached leg => ?_
      obtain ⟨node, longer⟩ := reached
      obtain ⟨middle, further⟩ := directLeg_reaches wellFormed.exactIndex reaches leg
      exact ih node longer further
    all_goals assumption

/-- **A literal run never fails at a seam.** -/
theorem resolve_seamless (wellFormed : run.graph.WellFormed) (comparable : run.graph.Comparable)
    (tokens : List Token) : Seamless (run.resolve tokens) := by
  unfold resolve
  split
  · exact error nofun
  · dsimp only
    generalize run.firstPin.or _ = pin
    split
    · exact error nofun
    · refine bind (nodeOf_seamless _ _ _) fun node _ => ?_
      refine bind (run.graph.waypoint_seamless _) fun waypoint place => ?_
      rw [Graph.waypoint_eq_ok] at place
      exact follow_seamless wellFormed comparable
        ⟨.final waypoint, waypoint, place, .refl waypoint⟩

/-- A token that bears the identifier of its pin means the node of the pin. -/
theorem nodeOf_of_pin {token : Token} {pin : Waypoint} {node : Nat} (names : token.isWaypoint = true)
    (bears : pin.ident = token.text) (found : run.graph.byWaypoint? pin = some node)
    (near : Waypoint) : run.nodeOf token near (some pin) = .ok node := by
  unfold nodeOf
  rw [names, Option.filter_some, beq_iff_eq.mpr bears]
  exact nodeOfWaypoint_eq_ok.mpr found

omit [Distance α] in
/-- The last token bears the identifier of the last pin, and an airway leads to the node of the pin. -/
theorem airwayTargets_of_pin {token : Token} {pin : Waypoint} {node : Nat}
    (pinned : run.lastPin = some pin) (bears : pin.ident = token.text)
    (found : run.graph.byWaypoint? pin = some node) : run.airwayTargets token true = .ok [node] := by
  unfold airwayTargets pinFor
  rw [pinned, Option.filter_some, Bool.true_and, beq_iff_eq.mpr bears]
  dsimp only
  rw [if_pos rfl]
  dsimp only
  rw [nodeOfWaypoint_eq_ok.mpr found]
  rfl

/-- A single token that bears the first pin is the route of the pin. -/
theorem resolve_single {token : Token} {pin : Waypoint} {node : Nat} (names : token.isWaypoint = true)
    (pinned : run.firstPin = some pin) (bears : pin.ident = token.text)
    (found : run.graph.byWaypoint? pin = some node) :
    ∃ own, run.resolve [token] = .ok (.single own) ∧ (own == pin) = true := by
  obtain ⟨own, place, agrees⟩ := Graph.byWaypoint?_eq_some found
  have plain : isDirect token = false := by
    cases token with
    | direct => cases names
    | _ => rfl
  have here : run.graph.waypoint node = .ok own := Graph.waypoint_eq_ok.mpr place
  refine ⟨own, ?_, agrees⟩
  unfold resolve
  dsimp only
  rw [plain, pinned, Option.some_or, nodeOf_of_pin names bears found]
  show run.graph.waypoint node >>= _ = _
  rw [here]
  rfl

end FlightRoute.LiteralRun
