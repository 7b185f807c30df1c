/-
**What a table of procedures answers.**

A table lists the names of a runway and looks up each name on its own. Both read the same entries, the one all of
them in order, the other only the first that fits. They agree on what is published: a name is listed exactly when
looking it up does not end with `procedureNotFound`, also when several entries carry it or one serves several
runways. A name that is listed may still stand for an entry without fixes (`ProcedureEntry.Bare`).

* `procedure_answers`: what looking up a name gives;
* `mem_names_iff`: which names are listed;
* `mem_names_iff_found`: the two agree;
* `procedure_of_bare`, `procedure_of_listed`: what a listed name stands for.
-/

import FlightRoute.Procedure.Store
import FlightRoute.Proofs.First

namespace FlightRoute

variable {α : Type} [Distance α]

/-- Whether an entry is a procedure of this kind and name for the runway. -/
def ProcedureEntry.IsFor (entry : ProcedureEntry) (runway : Runway) (kind : ProcedureKind)
    (name : String) : Prop :=
  entry.icao = runway.icao ∧ entry.kind = kind ∧ entry.name = name ∧
    runway.designator ∈ entry.runways

/-- What a table of procedures answers: the first entry of the procedure, if it has fixes; that it has none; or
that there is no such entry. -/
def ProcedureEntry.Answers (entries : List ProcedureEntry) (runway : Runway) (kind : ProcedureKind)
    (name : String) : Except RouteError (Procedure α) → Prop
  | .ok procedure => ∃ before entry, First (·.IsFor runway kind name) entries before entry ∧
      entry.fixes ≠ [] ∧ procedure = .ofFixes name kind entry.fixes runway.threshold
  | .error failure =>
      (failure = .store (.noFixes kind name) ∧ ∃ before entry,
        First (·.IsFor runway kind name) entries before entry ∧ entry.fixes = []) ∨
      failure = .procedureNotFound name runway.designator ∧
        ∀ entry ∈ entries, ¬entry.IsFor runway kind name

omit [Distance α] in
/-- A name stands for an entry without fixes. -/
def ProcedureEntry.Bare (entries : List ProcedureEntry) (runway : Runway) (kind : ProcedureKind)
    (name : String) : Prop :=
  ∃ before entry, First (·.IsFor runway kind name) entries before entry ∧ entry.fixes = []

namespace ProcedureTable

variable {table : ProcedureTable} {runway : Runway} {kind : ProcedureKind} {name : String}

omit [Distance α] in
/-- What is published stands behind what was published before. -/
theorem entries_foldl_insert (entries : List ProcedureEntry) :
    (entries.foldl insert empty).entries = entries := by
  have behind : ∀ table : ProcedureTable,
      (entries.foldl insert table).entries = table.entries ++ entries := by
    induction entries with
    | nil => exact fun table => (List.append_nil _).symm
    | cons entry rest ih =>
      intro table
      rw [List.foldl_cons, ih, insert, List.append_assoc, List.singleton_append]
  exact behind empty

omit [Distance α] in
theorem serves_iff {entry : ProcedureEntry} :
    (entry.serves runway kind && entry.name == name) = true ↔ entry.IsFor runway kind name := by
  simp only [ProcedureEntry.serves, ProcedureEntry.IsFor, Bool.and_eq_true, beq_iff_eq,
    List.contains_iff_mem]
  constructor
  · rintro ⟨⟨⟨airport, alike⟩, runs⟩, named⟩
    exact ⟨airport, alike, named, runs⟩
  · rintro ⟨airport, alike, named, runs⟩
    exact ⟨⟨⟨airport, alike⟩, runs⟩, named⟩

/-- **What looking up a name gives**: of several entries that fit the first one counts. -/
theorem procedure_answers (table : ProcedureTable) (runway : Runway) (kind : ProcedureKind)
    (name : String) : ProcedureEntry.Answers table.entries runway kind name
      (table.procedure runway kind name : Except RouteError (Procedure α)) := by
  unfold procedure entry?
  split
  · rename_i unmatched
    refine Or.inr ⟨rfl, fun entry member => ?_⟩
    rw [← serves_iff]
    exact List.find?_eq_none.mp unmatched entry member
  · rename_i entry found
    obtain ⟨before, first⟩ := first_of_find? found
    simp only [serves_iff] at first
    split
    · rename_i empty
      exact Or.inl ⟨rfl, before, entry, first, List.isEmpty_iff.mp empty⟩
    · rename_i filled
      exact ⟨before, entry, first, mt List.isEmpty_iff.mpr filled, rfl⟩

omit [Distance α] in
/-- Names are listed in the order of their entries. -/
theorem names_eq (table : ProcedureTable) (runway : Runway) (kind : ProcedureKind) :
    table.names runway kind = (table.entries.filter fun entry => entry.icao = runway.icao ∧
      entry.kind = kind ∧ runway.designator ∈ entry.runways).map (·.name) := by
  unfold names
  congr 1
  refine List.filter_congr fun entry _ => ?_
  rw [Bool.eq_iff_iff, decide_eq_true_iff]
  simp only [ProcedureEntry.serves, Bool.and_eq_true, beq_iff_eq, List.contains_iff_mem, and_assoc]

omit [Distance α] in
/-- **The names that are listed** are those of the entries that fit. -/
theorem mem_names_iff :
    name ∈ table.names runway kind ↔ ∃ entry ∈ table.entries, entry.IsFor runway kind name := by
  unfold names
  rw [List.mem_map]
  constructor
  · rintro ⟨entry, kept, rfl⟩
    obtain ⟨member, serves⟩ := List.mem_filter.mp kept
    exact ⟨entry, member, serves_iff.mp (by rw [serves, beq_self_eq_true, Bool.and_self])⟩
  · rintro ⟨entry, member, fits⟩
    obtain ⟨serves, named⟩ := Bool.and_eq_true_iff.mp (serves_iff.mpr fits)
    exact ⟨entry, List.mem_filter.mpr ⟨member, serves⟩, beq_iff_eq.mp named⟩

/-- **Names and look-ups agree**: a name is listed exactly when it is found. -/
theorem mem_names_iff_found :
    name ∈ table.names runway kind ↔ ∀ missing designator,
      (table.procedure runway kind name : Except RouteError (Procedure α)) ≠
        .error (.procedureNotFound missing designator) := by
  rw [mem_names_iff]
  have answers := table.procedure_answers (α := α) runway kind name
  generalize (table.procedure runway kind name : Except RouteError (Procedure α)) = answer at answers
  cases answer with
  | ok procedure =>
    obtain ⟨before, entry, first, _⟩ := answers
    exact iff_of_true ⟨entry, first.mem, first.holds⟩ nofun
  | error failure =>
    rcases answers with ⟨rfl, before, entry, first, _⟩ | ⟨rfl, unmatched⟩
    · exact iff_of_true ⟨entry, first.mem, first.holds⟩ nofun
    · refine iff_of_false ?_ fun found => found name runway.designator rfl
      exact fun ⟨entry, member, fits⟩ => unmatched entry member fits

/-- No listed name is passed over. -/
theorem procedure?_ne_none (listed : name ∈ table.names runway kind) :
    (table.store : ProcedureStore α).procedure? runway kind name ≠ .ok none := by
  intro passed
  unfold ProcedureStore.procedure? at passed
  split at passed
  · cases passed
  · rename_i missing
    exact mem_names_iff_found.mp listed _ _ missing
  · cases passed

/-- A name that stands for an entry without fixes is a failure. -/
theorem procedure_of_bare (bare : ProcedureEntry.Bare table.entries runway kind name) :
    (table.procedure runway kind name : Except RouteError (Procedure α)) =
      .error (.store (.noFixes kind name)) := by
  have answers := table.procedure_answers (α := α) runway kind name
  obtain ⟨before, entry, first, empty⟩ := bare
  generalize (table.procedure runway kind name : Except RouteError (Procedure α)) = answer at answers ⊢
  cases answer with
  | ok procedure =>
    obtain ⟨_, other, also, filled, _⟩ := answers
    exact absurd ((first.unique also).2 ▸ empty) filled
  | error failure =>
    rcases answers with ⟨rfl, _⟩ | ⟨_, unmatched⟩
    · rfl
    · exact absurd first.holds (unmatched entry first.mem)

/-- Any other name that is listed stands for a procedure over fixes. -/
theorem procedure_of_listed (listed : name ∈ table.names runway kind)
    (filled : ¬ProcedureEntry.Bare table.entries runway kind name) :
    ∃ fixes, fixes ≠ [] ∧ (table.procedure runway kind name : Except RouteError (Procedure α)) =
      .ok (.ofFixes name kind fixes runway.threshold) := by
  have answers := table.procedure_answers (α := α) runway kind name
  have found := (mem_names_iff_found (α := α)).mp listed
  generalize (table.procedure runway kind name : Except RouteError (Procedure α)) = answer at answers found ⊢
  cases answer with
  | ok procedure =>
    obtain ⟨_, entry, _, nonempty, rfl⟩ := answers
    exact ⟨entry.fixes, nonempty, rfl⟩
  | error failure =>
    rcases answers with ⟨_, bare⟩ | ⟨rfl, _⟩
    · exact absurd bare filled
    · exact absurd rfl (found _ _)

end ProcedureTable

end FlightRoute
