/-
**The graph's copy of a fix.**

A fix that was published elsewhere is the same as a node of its name that is close enough (`Nearby`). The graph
looks at one node only, the closest of the name. That is enough: where lengths are in order and the tolerance is
one of them, the closest node is close enough as soon as any node is, and it is also the closest of those that are
close enough. Of several at the same distance it is the one with the lowest number, since the nodes of a name are
listed in order and the search for the closest keeps the first.

* `ranked_of_measured`: floats are in order where every node of the name is at a distance that is a number;
* `sameFix?_isSome_iff`: there is a copy when some node is close enough;
* `sameFix?_closest`: the copy is the closest of them;
* `sameFix?_exact`: all of it, with what the search for the closest candidate returns.
-/

import FlightRoute.Proofs.Distance.Numbers
import FlightRoute.Proofs.Graph.Reachable

namespace FlightRoute.Graph

variable {α : Type} [Distance α] {graph : Graph α} {fix : Waypoint} {node : Nat}

/-- A node with its waypoint, that carries the name of a fix and is within the tolerance of it. -/
def Nearby (graph : Graph α) (fix : Waypoint) (node : Nat) (own : Waypoint) : Prop :=
  graph.waypoints[node]? = some own ∧ own.ident = fix.ident ∧
    Distance.le (Distance.between own fix) (Distance.sameFix : α) = true

/-- The lengths that decide about a copy: how far the nodes of the name are from the fix, and the tolerance. -/
def copyLengths (graph : Graph α) (fix : Waypoint) : Set α :=
  insert Distance.sameFix (graph.lengthsFrom fix.ident fix)

omit [Distance α] in
/-- **Floats are in order** where every node of the name is at a distance that is a number. -/
theorem ranked_of_measured {graph : Graph Float}
    (numbers : ∀ (node : Nat) (own : Waypoint), graph.waypoints[node]? = some own → own.ident = fix.ident →
      (Distance.between own fix : Float).isNaN = false) :
    Distance.Ranked (graph.copyLengths fix) := by
  refine Distance.ranked_of_numbers fun length member => ?_
  rcases member with rfl | ⟨node, own, here, named, rfl⟩
  · rfl
  · exact numbers node own here named

theorem sameFix?_eq_some_iff :
    graph.sameFix? fix = some node ↔ graph.closestByIdent? fix.ident fix = some node ∧
      ∃ own, graph.waypoints[node]? = some own ∧
        Distance.le (Distance.between own fix) (Distance.sameFix : α) = true := by
  rw [sameFix?, Option.filter_eq_some_iff, Option.any_eq_true]

/-- The copy of a fix is close enough. -/
theorem nearby_of_sameFix? (exactIndex : graph.ExactIndex) (found : graph.sameFix? fix = some node) :
    ∃ own, graph.Nearby fix node own := by
  obtain ⟨closest, own, here, near⟩ := sameFix?_eq_some_iff.mp found
  obtain ⟨same, there, named⟩ := closestByIdent?_eq_some exactIndex closest
  obtain rfl : own = same := Option.some.inj (here.symm.trans there)
  exact ⟨own, here, named, near⟩

/-- **There is a copy** when some node is close enough. -/
theorem sameFix?_isSome_iff (exactIndex : graph.ExactIndex)
    (ranked : Distance.Ranked (graph.copyLengths fix)) :
    (graph.sameFix? fix).isSome ↔ ∃ node own, graph.Nearby fix node own := by
  constructor
  · intro known
    obtain ⟨node, found⟩ := Option.isSome_iff_exists.mp known
    exact ⟨node, nearby_of_sameFix? exactIndex found⟩
  · rintro ⟨node, own, here, named, near⟩
    have fewer := ranked.mono (Set.subset_insert _ _)
    have isSome : (graph.closestByIdent? fix.ident fix).isSome :=
      (closestByIdent?_isSome_iff exactIndex).mpr ⟨node, own, here, named⟩
    obtain ⟨best, closest⟩ := Option.isSome_iff_exists.mp isSome
    obtain ⟨place, there, alike, least⟩ := closestByIdent?_first exactIndex fewer closest
    -- The closest node is no further than the one at hand, and that one is within the tolerance.
    have within : Distance.le (Distance.between place fix) (Distance.sameFix : α) = true :=
      ranked.trans _ (Set.mem_insert_of_mem _ ⟨best, place, there, alike, rfl⟩)
        _ (Set.mem_insert_of_mem _ ⟨node, own, here, named, rfl⟩) _ (Set.mem_insert _ _)
        (least node own here named).1 near
    exact Option.isSome_iff_exists.mpr ⟨best, sameFix?_eq_some_iff.mpr ⟨closest, place, there, within⟩⟩

/-- **The copy of a fix** is the closest node that is close enough, and of several the first. -/
theorem sameFix?_closest (exactIndex : graph.ExactIndex)
    (ranked : Distance.Ranked (graph.copyLengths fix)) (found : graph.sameFix? fix = some node) :
    ∃ own, graph.Nearby fix node own ∧ ∀ other place, graph.Nearby fix other place →
      Distance.le (Distance.between own fix : α) (Distance.between place fix) = true ∧
      (Distance.le (Distance.between place fix : α) (Distance.between own fix) = true → node ≤ other) := by
  obtain ⟨own, nearby⟩ := nearby_of_sameFix? exactIndex found
  obtain ⟨same, there, _, least⟩ := closestByIdent?_first exactIndex
    (ranked.mono (Set.subset_insert _ _)) (sameFix?_eq_some_iff.mp found).1
  obtain rfl : own = same := Option.some.inj (nearby.1.symm.trans there)
  exact ⟨own, nearby, fun other place close => least other place close.1 close.2.1⟩

/-- **The copy of a fix is exact.** There is one exactly when some node of the name is within the tolerance, and it
is the closest of those nodes, of several the one with the lowest number. The search for the closest candidate
behind it returns, for all candidates, the first position at minimal distance, and none only when there are no
candidates. -/
theorem sameFix?_exact (exactIndex : graph.ExactIndex)
    (ranked : Distance.Ranked (graph.copyLengths fix)) :
    ((graph.sameFix? fix).isSome ↔ ∃ node own, graph.Nearby fix node own) ∧
    (∀ node, graph.sameFix? fix = some node ↔
      ∃ own, graph.Nearby fix node own ∧ ∀ other place, graph.Nearby fix other place →
        Distance.le (Distance.between own fix : α) (Distance.between place fix) = true ∧
        (Distance.le (Distance.between place fix : α) (Distance.between own fix) = true →
          node ≤ other)) ∧
    ∀ candidates reference,
      (closestTo α candidates reference = none ↔ candidates = []) ∧
      (Distance.Ranked (lengthsTo α candidates reference) → ∀ position,
        closestTo α candidates reference = some position ↔
          ∃ length : α, FirstClosest candidates reference position length) := by
  have found_iff := sameFix?_isSome_iff exactIndex ranked
  refine ⟨found_iff, fun node => ⟨sameFix?_closest exactIndex ranked, ?_⟩, fun candidates reference =>
    ⟨closestTo_eq_none_iff, fun ordered position => closestTo_eq_some_iff ordered⟩⟩
  rintro ⟨own, nearby, least⟩
  obtain ⟨best, found⟩ := Option.isSome_iff_exists.mp (found_iff.mpr ⟨node, own, nearby⟩)
  obtain ⟨place, close, first⟩ := sameFix?_closest exactIndex ranked found
  -- Each of the two comes no later than the other.
  obtain ⟨before, after⟩ := least best place close
  obtain ⟨behind, ahead⟩ := first node own nearby
  rw [found, Nat.le_antisymm (ahead before) (after behind)]

omit [Distance α] in
/-- Between two nodes of its name a fix is the first of them, and none further away than the tolerance. -/
theorem sameFix?_exact_crossing :
    let graph := crossing.addWaypoint ⟨"A", 0, 5⟩
    graph.ExactIndex ∧ (∀ fix, Distance.Ranked (graph.copyLengths fix)) ∧
      graph.sameFix? ⟨"A", 0, 3⟩ = some 0 ∧ graph.sameFix? ⟨"A", 0, 11⟩ = none := by
  intro graph
  have exactIndex : graph.ExactIndex := (addWaypoint_wellFormed crossing_built.wellFormed _).exactIndex
  have ranked : ∀ fix, Distance.Ranked (graph.copyLengths fix) := fun _ => Distance.ranked_of_exact _
  have bearers : graph.bearers "A" = [0, 3] := by decide
  have places : ∀ {node own}, graph.waypoints[node]? = some own → own.ident = "A" →
      (node = 0 ∧ own = ⟨"A", 0, 1⟩) ∨ node = 3 ∧ own = ⟨"A", 0, 5⟩ := by
    intro node own here named
    have member := mem_bearers.mpr ⟨own, here, named⟩
    rw [bearers, List.mem_pair] at member
    rcases member with rfl | rfl
    · exact Or.inl ⟨rfl, (Option.some.inj here).symm⟩
    · exact Or.inr ⟨rfl, (Option.some.inj here).symm⟩
  refine ⟨exactIndex, ranked, ?_, ?_⟩
  · refine ((sameFix?_exact exactIndex (ranked ⟨"A", 0, 3⟩)).2.1 0).mpr
      ⟨⟨"A", 0, 1⟩, ⟨rfl, rfl, by decide +kernel⟩, fun other place nearby => ?_⟩
    rcases places nearby.1 nearby.2.1 with ⟨rfl, rfl⟩ | ⟨rfl, rfl⟩
    · exact ⟨by decide +kernel, fun _ => Nat.le_refl _⟩
    · exact ⟨by decide +kernel, fun _ => Nat.zero_le _⟩
  · rw [← Option.not_isSome_iff_eq_none, (sameFix?_exact exactIndex (ranked _)).1]
    rintro ⟨node, own, here, named, near⟩
    revert near
    rcases places here named with ⟨rfl, rfl⟩ | ⟨rfl, rfl⟩
    · decide +kernel
    · decide +kernel

end FlightRoute.Graph
