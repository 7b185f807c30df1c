/-
**The procedures that a runway lists are the ones that a search leaves by.**

A search asks the store for the names of a runway and then looks up each name. A name that is not found is passed
over without a word, which would leave a procedure out of a route. A table never comes to that: what it lists it
finds (`ProcedureTable.mem_names_iff_found`). The links of the runway therefore stand in groups, one group for
each listed name in the order of publication, and a group holds the links of the procedure that the name stands
for (`Terminal.Group`). Only a name that stands for an entry without fixes stops the search.

* `procedureLinks_group`: the links of one procedure;
* `linksOfNames_grouped`, `linksOfNames_stopped`: those of several names, or where they stop;
* `ofRunway_grouped`: a runway that lists a name has no links but those of its procedures;
* `ofRunway_listed`: all of it, for every table.
-/

import FlightRoute.Proofs.Procedure.Fixes
import FlightRoute.Proofs.Procedure.Table
import FlightRoute.Proofs.Terminal.Bounds

namespace FlightRoute

variable {α : Type} [Distance α]

/-- The links that a search has for a name: on all of them the procedure of the name is flown as a whole, one
leads to the graph's copy of its end or, where there is none, one by way of the end to each of the nearest nodes. -/
structure Terminal.Group (terminal : Terminal α) (kind : ProcedureKind) (count : Nat) (name : String)
    (links : List (TerminalLink α)) (procedure : Procedure α) (fix : Waypoint) : Prop where
  found : terminal.store.procedure terminal.runway kind name = .ok procedure
  named : procedure.name = name
  ends : procedure.enrouteEnd? = some fix
  flown : ∀ link ∈ links, link.leg = procedure.leg
  joins : (∃ node, terminal.graph.sameFix? fix = some node ∧
      links.map (fun link => (link.node, link.via)) = [(node, none)]) ∨
    terminal.graph.sameFix? fix = none ∧ links.map (fun link => (link.node, link.via)) =
      (terminal.graph.nearest fix count).map fun node => (node, some fix)

namespace Endpoint

variable {terminal : Terminal α} {kind : ProcedureKind} {count : Nat} {name : String}
  {names : List String} {procedure : Procedure α} {fix : Waypoint} {links : List (TerminalLink α)}

/-- **The links of a procedure** are the group of its name. -/
theorem procedureLinks_group
    (found : terminal.store.procedure terminal.runway kind name = .ok procedure)
    (named : procedure.name = name) (ends : procedure.enrouteEnd? = some fix) :
    terminal.Group kind count name (procedureLinks terminal.graph name procedure count) procedure fix := by
  refine ⟨found, named, ends, fun link member => ?_, ?_⟩
  · obtain ⟨_, _, _, _, flown, _⟩ := procedureLinks_cases member
    rw [flown, ← named]
    rfl
  · unfold procedureLinks
    rw [ends]
    dsimp only
    cases terminal.graph.sameFix? fix with
    | some node => exact Or.inl ⟨node, rfl, rfl⟩
    | none => exact Or.inr ⟨rfl, List.map_map⟩

/-- **The links of names that are all found** stand in groups, name by name. -/
theorem linksOfNames_grouped (count : Nat) (found : ∀ name ∈ names, ∃ procedure fix,
      terminal.store.procedure terminal.runway kind name = .ok procedure ∧ procedure.name = name ∧
      procedure.enrouteEnd? = some fix) :
    ∃ groups, linksOfNames terminal kind count names = .ok groups.flatten ∧
      List.Forall₂ (fun name group => ∃ procedure fix, terminal.Group kind count name group procedure fix)
        names groups := by
  induction names with
  | nil => exact ⟨[], rfl, .nil⟩
  | cons name rest ih =>
    obtain ⟨⟨procedure, fix, here, named, ends⟩, others⟩ := List.forall_mem_cons.mp found
    obtain ⟨groups, further, grouped⟩ := ih others
    have asked := ProcedureStore.procedure?_eq_some_iff.mpr here
    refine ⟨procedureLinks terminal.graph name procedure count :: groups, ?_,
      .cons ⟨procedure, fix, procedureLinks_group here named ends⟩ grouped⟩
    rw [linksOfNames, asked, ok_bind, further]
    rfl

/-- **A name that fails** stops behind those that are found. -/
theorem linksOfNames_stopped {before behind : List String} {failure : RouteError}
    (found : ∀ other ∈ before, ∃ answer,
      terminal.store.procedure? terminal.runway kind other = .ok answer)
    (failed : terminal.store.procedure? terminal.runway kind name = .error failure) :
    linksOfNames terminal kind count (before ++ name :: behind) = .error failure := by
  induction before with
  | nil =>
    rw [List.nil_append, linksOfNames, failed]
    rfl
  | cons first rest ih =>
    obtain ⟨⟨answer, here⟩, others⟩ := List.forall_mem_cons.mp found
    rw [List.cons_append, linksOfNames, here, ok_bind, ih others]
    rfl

/-- A group without links leaves no node to lead to. -/
theorem nearest_of_group (offered : terminal.Group kind count name [] procedure fix) (reference : Waypoint) :
    terminal.graph.nearest reference count = [] := by
  rcases offered.joins with ⟨node, _, joined⟩ | ⟨_, joined⟩
  · cases joined
  · have nowhere := List.map_eq_nil_iff.mp joined.symm
    exact Graph.nearest_eq_nil_iff.mpr (Graph.nearest_eq_nil_iff.mp nowhere)

/-- **A runway that lists a name** has no links but those of its procedures: where they come to none there is no
node to lead to. -/
theorem ofRunway_grouped {groups : List (List (TerminalLink α))}
    (listed : terminal.store.names terminal.runway kind ≠ [])
    (linked : linksOfNames terminal kind count (terminal.store.names terminal.runway kind) =
      .ok groups.flatten)
    (grouped : List.Forall₂
      (fun name group => ∃ procedure fix, terminal.Group kind count name group procedure fix)
      (terminal.store.names terminal.runway kind) groups) :
    ofRunway terminal kind count = .ok (.terminal terminal.runway.threshold groups.flatten) := by
  unfold ofRunway
  dsimp only
  rw [linked, ok_bind]
  split
  · rename_i empty
    have without : groups.flatten = [] := List.isEmpty_iff.mp empty
    generalize terminal.store.names terminal.runway kind = names at listed grouped
    cases grouped with
    | nil => exact absurd rfl listed
    | @cons name group _ _ first _ =>
      obtain ⟨procedure, fix, offered⟩ := first
      have vacant : group = [] := List.flatten_eq_nil_iff.mp without group List.mem_cons_self
      subst vacant
      rw [nearestLinks, nearest_of_group offered, without]
      rfl
  · rfl

/-! ### Tables -/

section Table

variable {table : ProcedureTable} {runway : Runway}

/-- A listed name that stands for no entry without fixes is found, with an end at the network. -/
theorem found_of_listed (listed : name ∈ table.names runway kind)
    (filled : ¬ProcedureEntry.Bare table.entries runway kind name) :
    ∃ procedure fix, (table.procedure runway kind name : Except RouteError (Procedure α)) = .ok procedure ∧
      procedure.name = name ∧ procedure.enrouteEnd? = some fix := by
  obtain ⟨fixes, nonempty, found⟩ := table.procedure_of_listed (α := α) listed filled
  obtain ⟨fix, _, ends⟩ := Procedure.exists_enrouteEnd (α := α) name kind nonempty runway.threshold
  exact ⟨_, fix, found, rfl, ends⟩

/-- **A table that lists no entry without fixes** gives the runway its links. -/
theorem ofRunway_filled (graph : Graph α) (count : Nat)
    (filled : ∀ name ∈ table.names runway kind, ¬ProcedureEntry.Bare table.entries runway kind name) :
    ∃ links, ofRunway ⟨graph, table.store, runway⟩ kind count = .ok (.terminal runway.threshold links) ∧
      (table.names runway kind = [] → nearestLinks graph runway.threshold count = .ok links) ∧
      (table.names runway kind ≠ [] → ∃ groups, links = groups.flatten ∧
        List.Forall₂ (fun name group => ∃ procedure fix,
            Terminal.Group ⟨graph, table.store, runway⟩ kind count name group procedure fix)
          (table.names runway kind) groups) := by
  by_cases unlisted : table.names runway kind = []
  · obtain ⟨links, nearest, _⟩ := nearestLinks_ok graph runway.threshold count
    refine ⟨links, ?_, fun _ => nearest, fun listed => absurd unlisted listed⟩
    have stored : (table.store : ProcedureStore α).names runway kind = [] := unlisted
    unfold ofRunway
    dsimp only
    rw [stored, linksOfNames, ok_bind]
    show (nearestLinks graph runway.threshold count >>= _) = _
    rw [nearest]
    rfl
  · let terminal : Terminal α := ⟨graph, table.store, runway⟩
    have found : ∀ name ∈ table.names runway kind, ∃ procedure fix,
        terminal.store.procedure runway kind name = .ok procedure ∧ procedure.name = name ∧
        procedure.enrouteEnd? = some fix :=
      fun name listed => found_of_listed listed (filled name listed)
    obtain ⟨groups, linked, grouped⟩ := linksOfNames_grouped count found
    exact ⟨groups.flatten, ofRunway_grouped unlisted linked grouped, fun bare => absurd bare unlisted,
      fun _ => ⟨groups, rfl, grouped⟩⟩

/-- **The first listed name that stands for an entry without fixes** is the failure. -/
theorem ofRunway_bare (graph : Graph α) (count : Nat) {before : List String}
    (first : First (ProcedureEntry.Bare table.entries runway kind) (table.names runway kind) before name) :
    ofRunway ⟨graph, table.store, runway⟩ kind count = .error (.store (.noFixes kind name)) := by
  obtain ⟨⟨behind, split⟩, bare, others⟩ := first
  have listed : (table.store : ProcedureStore α).names runway kind = before ++ name :: behind := split
  have empty : (table.store : ProcedureStore α).procedure runway kind name =
      .error (.store (.noFixes kind name)) := ProcedureTable.procedure_of_bare bare
  have failed : (table.store : ProcedureStore α).procedure? runway kind name =
      .error (.store (.noFixes kind name)) := by rw [ProcedureStore.procedure?, empty]
  have found : ∀ other ∈ before, ∃ answer,
      (table.store : ProcedureStore α).procedure? runway kind other = .ok answer := by
    intro other member
    have inside : other ∈ table.names runway kind := split ▸ List.mem_append_left _ member
    obtain ⟨procedure, _, here, _⟩ := found_of_listed (α := α) inside (others other member)
    exact ⟨procedure, ProcedureStore.procedure?_eq_some_iff.mpr here⟩
  unfold ofRunway
  dsimp only
  rw [listed, linksOfNames_stopped found failed]
  rfl

end Table

/-- **The procedures that a table lists are the ones that a search leaves by.** Names are listed in the order in
which their entries were published, and a name is listed exactly when looking it up does not end with
`procedureNotFound`; so no listed name is passed over. The runway has its links exactly when no listed name stands
for an entry without fixes, and fails with the first that does. Its links are direct ones where no name is listed,
and otherwise those of the listed names, group by group. -/
theorem ofRunway_listed (graph : Graph α) (entries : List ProcedureEntry) (runway : Runway)
    (kind : ProcedureKind) (count : Nat) :
    let table := entries.foldl ProcedureTable.insert .empty
    let terminal : Terminal α := ⟨graph, table.store, runway⟩
    let names := table.names runway kind
    names = (entries.filter fun entry => entry.icao = runway.icao ∧ entry.kind = kind ∧
      runway.designator ∈ entry.runways).map (·.name) ∧
    (∀ name, name ∈ names ↔ ∀ missing designator,
      (table.procedure runway kind name : Except RouteError (Procedure α)) ≠
        .error (.procedureNotFound missing designator)) ∧
    (∀ name ∈ names, terminal.store.procedure? runway kind name ≠ .ok none) ∧
    ((∃ endpoint, ofRunway terminal kind count = .ok endpoint) ↔
      ∀ name ∈ names, ¬ProcedureEntry.Bare entries runway kind name) ∧
    (∀ failure, ofRunway terminal kind count = .error failure → ∃ before name,
      First (ProcedureEntry.Bare entries runway kind) names before name ∧
      failure = .store (.noFixes kind name)) ∧
    ∀ endpoint, ofRunway terminal kind count = .ok endpoint → ∃ links,
      endpoint = .terminal runway.threshold links ∧
      (names = [] → nearestLinks graph runway.threshold count = .ok links) ∧
      (names ≠ [] → ∃ groups, links = groups.flatten ∧
        List.Forall₂
          (fun name group => ∃ procedure fix, terminal.Group kind count name group procedure fix)
          names groups) := by
  intro table terminal names
  have whole : table.entries = entries := ProcedureTable.entries_foldl_insert entries
  refine ⟨?_, fun name => ProcedureTable.mem_names_iff_found, ?_, ?_⟩
  · rw [← whole]
    exact ProcedureTable.names_eq table runway kind
  · intro name listed passed
    exact ProcedureTable.procedure?_ne_none listed passed
  · rw [← whole]
    rcases first_or_none (ProcedureEntry.Bare table.entries runway kind) names with
      filled | ⟨before, name, first⟩
    · obtain ⟨links, made, parts⟩ := ofRunway_filled graph count filled
      refine ⟨iff_of_true ⟨_, made⟩ filled, fun failure failed => ?_, fun endpoint found => ?_⟩
      · cases made.symm.trans failed
      · cases made.symm.trans found
        exact ⟨links, rfl, parts⟩
    · have failed := ofRunway_bare graph count first
      refine ⟨iff_of_false ?_ fun filled => filled name first.mem first.holds, fun failure same => ?_,
        fun endpoint found => ?_⟩
      · rintro ⟨endpoint, found⟩
        cases failed.symm.trans found
      · cases failed.symm.trans same
        exact ⟨before, name, first, rfl⟩
      · cases failed.symm.trans found

omit [Distance α] in
/-- A departure that is published twice, the second time without fixes, and one for another runway. -/
def repeated : List ProcedureEntry :=
  [⟨"KAAA", .sid, "DEP1", ["27", "09"], [⟨"C", 0, 3⟩]⟩, ⟨"KAAA", .sid, "DEP1", ["09"], []⟩,
    ⟨"KAAA", .sid, "DEP2", ["27"], []⟩]

omit [Distance α] in
/-- The name is listed twice and stands for the first entry both times. -/
theorem ofRunway_listed_repeated :
    let runway : Runway := ⟨"KAAA", "09", ⟨"KAAA09", 0, 0⟩⟩
    let terminal : Terminal ℚ := ⟨crossing, (repeated.foldl ProcedureTable.insert .empty).store, runway⟩
    let sid : Procedure ℚ := .ofFixes "DEP1" .sid [⟨"C", 0, 3⟩] runway.threshold
    ∃ first second, ofRunway terminal .sid 1 = .ok (.terminal runway.threshold (first ++ second)) ∧
      terminal.Group .sid 1 "DEP1" first sid ⟨"C", 0, 3⟩ ∧
      terminal.Group .sid 1 "DEP1" second sid ⟨"C", 0, 3⟩ := by
  intro runway terminal sid
  obtain ⟨_, _, _, success, _, parts⟩ := ofRunway_listed (crossing : Graph ℚ) repeated runway .sid 1
  have names : (repeated.foldl ProcedureTable.insert .empty).names runway .sid = ["DEP1", "DEP1"] := by
    decide
  have offered : ∀ {links}, (∃ procedure fix, terminal.Group .sid 1 "DEP1" links procedure fix) →
      terminal.Group .sid 1 "DEP1" links sid ⟨"C", 0, 3⟩ := by
    rintro links ⟨procedure, fix, group⟩
    have published : terminal.store.procedure runway .sid "DEP1" = .ok sid := rfl
    obtain rfl : sid = procedure := Except.ok.inj (published.symm.trans group.found)
    obtain rfl : ⟨"C", 0, 3⟩ = fix := Option.some.inj group.ends
    exact group
  have filled : ¬ProcedureEntry.Bare repeated runway .sid "DEP1" := by
    rintro ⟨before, entry, first, empty⟩
    have known : First (·.IsFor runway .sid "DEP1") repeated [] _ :=
      .head ⟨rfl, rfl, rfl, by decide⟩ _
    rw [← (known.unique first).2] at empty
    cases empty
  rw [names] at success parts
  obtain ⟨endpoint, found⟩ := success.mpr (by simpa using filled)
  obtain ⟨links, rfl, _, several⟩ := parts endpoint found
  obtain ⟨groups, rfl, grouped⟩ := several (List.cons_ne_nil _ _)
  obtain _ | ⟨once, _ | ⟨twice, _ | _⟩⟩ := grouped
  refine ⟨_, _, ?_, offered once, offered twice⟩
  rw [found, List.flatten_cons, List.flatten_cons, List.flatten_nil, List.append_nil]

end Endpoint

end FlightRoute
