/-
**What is built of a snapshot.**

The nodes of the graph are the waypoints in their order. Every airway adds an edge behind those that its
start has by then, and, if it goes both ways, an edge back behind those of its end; so the edges of a node
stand in the order of the airways. An airway that leads from or to no waypoint stops the building, and the
first such airway is the one that is named. Of several runways of one name the last one counts, of several
procedures that fit the first one.

* `addAirway_edges`: what one airway adds to the edges of each node;
* `foldlM_addAirway`: what all of them add, or where they stop;
* `airports_runway`, `procedureTable_procedure`: what the tables answer;
* `build_exact`: all of it, for every snapshot.
-/

import Mathlib.Data.List.Induction
import FlightRoute.Proofs.First
import FlightRoute.Proofs.Procedure.Table
import FlightRoute.Proofs.Resolve.Planar
import FlightRoute.Proofs.Snapshot

namespace FlightRoute

variable {α : Type}

/-! ### Airways -/

/-- An airway that leads from or to no waypoint. -/
def AirwayRecord.Dangling (loaded : Nat) (record : AirwayRecord α) : Prop :=
  loaded ≤ record.source ∨ loaded ≤ record.target

/-- The airway at a position of the list leads nowhere. -/
def AirwayRecord.fault (entry loaded : Nat) (record : AirwayRecord α) : DanglingAirway :=
  ⟨entry, record.airway, record.source, record.target, loaded⟩

variable [Distance α]

/-- How far it is along an airway from one of its waypoints to the other: what it says, or else how far they
are apart. -/
def AirwayRecord.length (record : AirwayRecord α) (start finish : Waypoint) : α :=
  record.distance.getD (Distance.between start finish)

/-- The edges of a node that are due to an airway: the way there if it starts at the node, and behind it the way
back if it ends at the node and goes both ways. -/
def AirwayRecord.edgesAt (waypoints : List Waypoint) (node : Nat) (record : AirwayRecord α) :
    List (Edge α) :=
  match waypoints[record.source]?, waypoints[record.target]? with
  | some start, some finish =>
    (if record.source = node then [⟨record.target, record.airway, record.length start finish⟩]
      else []) ++
    (if record.target = node ∧ record.oneWay = false
      then [⟨record.source, record.airway, record.length finish start⟩] else [])
  | _, _ => []

namespace Snapshot

variable {snapshot : Snapshot α} {graph grown : Graph α} {waypoints : List Waypoint}
  {records : List (AirwayRecord α)} {record : AirwayRecord α}

/-- An edge between two nodes stands behind the edges of the first, and nowhere else. -/
theorem addEdge_edges {source target : Nat} {start finish : Waypoint}
    (place : graph.waypoints[source]? = some start) (there : graph.waypoints[target]? = some finish)
    (airway : String) (distance : Option α) (node : Nat) :
    (graph.addEdge source target airway distance).outgoing[node]? =
      graph.outgoing[node]?.map fun edges => edges ++ if source = node then
        #[⟨target, airway, distance.getD (Distance.between start finish)⟩] else #[] := by
  rw [Graph.outgoing_addEdge_of place there, Array.getElem?_modify]
  split
  · rfl
  · simp

/-- **What one airway adds** to the edges of each node. -/
theorem addAirway_edges (nodes : Over graph waypoints) {entry : Nat}
    (added : addAirway graph (record, entry) = .ok grown) (node : Nat) :
    grown.outgoing[node]? = graph.outgoing[node]?.map fun edges =>
      edges ++ (record.edgesAt waypoints node).toArray := by
  obtain rfl := nodes.waypoints
  unfold addAirway at added
  dsimp only at added
  split at added
  · rename_i inside
    have here := Array.getElem?_eq_getElem inside.1
    have there := Array.getElem?_eq_getElem inside.2
    unfold AirwayRecord.edgesAt
    rw [Array.getElem?_toList, Array.getElem?_toList, here, there]
    dsimp only
    split at added
    · rename_i oneWay
      cases added
      rw [addEdge_edges here there]
      simp [oneWay, AirwayRecord.length, apply_ite List.toArray]
    · rename_i twoWay
      have still := Graph.waypoints_addEdge graph record.source record.target record.airway
        record.distance
      have back := (congrArg (·[record.target]?) still).trans there
      have front := (congrArg (·[record.source]?) still).trans here
      cases added
      rw [Graph.addTwoWayEdge, addEdge_edges back front, addEdge_edges here there, Option.map_map]
      refine congrArg (Option.map · _) (funext fun edges => ?_)
      rw [AirwayRecord.length, AirwayRecord.length, Function.comp_apply, ← List.append_toArray]
      simp [twoWay, apply_ite List.toArray]
  · cases added

/-- A graph over waypoints whose edges are those of the airways that were added so far. -/
structure Laid (graph : Graph α) (waypoints : List Waypoint) (records : List (AirwayRecord α)) :
    Prop where
  nodes : Over graph waypoints
  edges : ∀ node, graph.outgoing[node]? = waypoints[node]?.map fun _ =>
    (records.flatMap (·.edgesAt waypoints node)).toArray

theorem foldl_addWaypoint_laid (more : List Waypoint) (laid : Laid graph waypoints []) :
    Laid (more.foldl Graph.addWaypoint graph) (waypoints ++ more) [] := by
  induction more generalizing graph waypoints with
  | nil => simpa using laid
  | cons waypoint rest ih =>
    have size : graph.outgoing.size = waypoints.length := by
      rw [laid.nodes.built.wellFormed.outgoing_size, ← laid.nodes.waypoints, Array.length_toList]
      rfl
    have next : Laid (graph.addWaypoint waypoint) (waypoints ++ [waypoint]) [] := by
      refine ⟨foldl_addWaypoint [waypoint] waypoints laid.nodes, fun node => ?_⟩
      rw [Graph.addWaypoint, Array.getElem?_push, laid.edges, size, List.getElem?_append]
      rcases Nat.lt_trichotomy node waypoints.length with lower | rfl | higher
      · simp [lower, lower.ne]
      · simp
      · simp [higher.ne', higher.not_gt, Nat.sub_ne_zero_of_lt higher]
    have whole := ih next
    rwa [List.append_assoc] at whole

/-- An airway between two waypoints is laid behind those before it; any other is refused. -/
theorem addAirway_laid {done : List (AirwayRecord α)} (laid : Laid graph waypoints done)
    (record : AirwayRecord α) (entry : Nat) :
    (∃ grown, ¬record.Dangling waypoints.length ∧ addAirway graph (record, entry) = .ok grown ∧
        Laid grown waypoints (done ++ [record])) ∨
      record.Dangling waypoints.length ∧
        addAirway graph (record, entry) = .error (record.fault entry waypoints.length) := by
  have size : graph.size = waypoints.length := by
    rw [← laid.nodes.waypoints, Array.length_toList]
    rfl
  by_cases inside : record.source < graph.size ∧ record.target < graph.size
  · obtain ⟨grown, added⟩ : ∃ grown, addAirway graph (record, entry) = .ok grown := by
      unfold addAirway
      dsimp only
      rw [if_pos inside]
      split <;> exact ⟨_, rfl⟩
    refine Or.inl ⟨grown, ?_, added, addAirway_over laid.nodes added, fun node => ?_⟩
    · unfold AirwayRecord.Dangling
      omega
    · rw [addAirway_edges laid.nodes added, laid.edges, Option.map_map]
      simp [Function.comp_def]
  · refine Or.inr ⟨?_, ?_⟩
    · unfold AirwayRecord.Dangling
      omega
    · unfold addAirway
      dsimp only
      rw [if_neg inside, size]
      rfl

/-- **What all airways add**, or the first of them that stops the building. -/
theorem foldlM_addAirway {done : List (AirwayRecord α)} (laid : Laid graph waypoints done)
    (records : List (AirwayRecord α)) (entry : Nat) :
    (∃ grown, (records.zipIdx entry).foldlM addAirway graph = .ok grown ∧
        (∀ record ∈ records, ¬record.Dangling waypoints.length) ∧
        Laid grown waypoints (done ++ records)) ∨
      ∃ before record, First (·.Dangling waypoints.length) records before record ∧
        (records.zipIdx entry).foldlM addAirway graph =
          .error (record.fault (entry + before.length) waypoints.length) := by
  induction records generalizing graph done entry with
  | nil => exact Or.inl ⟨graph, rfl, nofun, by simpa using laid⟩
  | cons record rest ih =>
    rw [List.zipIdx_cons, List.foldlM_cons]
    rcases addAirway_laid laid record entry with ⟨next, inside, added, more⟩ | ⟨dangling, refused⟩
    · rw [added, ok_bind]
      rcases ih more (entry + 1) with ⟨grown, run, others, whole⟩ | ⟨before, other, first, stopped⟩
      · refine Or.inl ⟨grown, run, List.forall_mem_cons.mpr ⟨inside, others⟩, ?_⟩
        rwa [List.append_assoc] at whole
      · refine Or.inr ⟨record :: before, other, first.cons inside, ?_⟩
        rw [stopped, List.length_cons, Nat.add_assoc, Nat.add_comm 1]
    · refine Or.inr ⟨[], record, .head dangling rest, ?_⟩
      rw [refused]
      rfl

/-- **The graph of a snapshot** holds its waypoints and the edges of its airways, unless one of these leads
nowhere; then the first that does is the fault. -/
theorem graph_cases (snapshot : Snapshot α) :
    (∃ graph, snapshot.graph = .ok graph ∧
        (∀ record ∈ snapshot.airways, ¬record.Dangling snapshot.waypoints.length) ∧
        Laid graph snapshot.waypoints snapshot.airways) ∨
      ∃ before record,
        First (·.Dangling snapshot.waypoints.length) snapshot.airways before record ∧
        snapshot.graph = .error (record.fault before.length snapshot.waypoints.length) := by
  have nodes : Laid (snapshot.waypoints.foldl Graph.addWaypoint Graph.empty : Graph α)
      ([] ++ snapshot.waypoints) [] :=
    foldl_addWaypoint_laid _ ⟨⟨.empty, rfl⟩, fun _ => rfl⟩
  have cases := foldlM_addAirway nodes snapshot.airways 0
  unfold graph
  simpa only [List.nil_append, Nat.zero_add] using cases

end Snapshot

/-! ### Tables -/

/-- Whether a record is one of this airport and designator. -/
def RunwayRecord.IsFor (record : RunwayRecord) (icao designator : String) : Prop :=
  record.icao = icao ∧ record.designator = designator

/-- The runway of a record. -/
def RunwayRecord.runway (record : RunwayRecord) : Runway :=
  ⟨record.icao, record.designator, ⟨record.icao ++ record.designator, record.lat, record.lon⟩⟩

/-- What a table of runways answers: the last record of the runway, or that there is none. -/
def RunwayRecord.Answers (records : List RunwayRecord) (icao designator : String) :
    Except RouteError Runway → Prop
  | .ok runway => ∃ behind record, Last (·.IsFor icao designator) records behind record ∧
      runway = record.runway
  | .error failure => failure = .unknownRunway icao designator ∧
      ∀ record ∈ records, ¬record.IsFor icao designator

namespace Snapshot

omit [Distance α] in
/-- **The runways of a snapshot**: of several records of one runway the last one counts. -/
theorem airports_runway (snapshot : Snapshot α) (icao designator : String) :
    RunwayRecord.Answers snapshot.runways icao designator
      (snapshot.airports.runway icao designator) := by
  unfold airports
  induction snapshot.runways using List.reverseRecOn with
  | nil =>
    have unknown : AirportTable.empty.runway icao designator = .error (.unknownRunway icao designator) := by
      simp [AirportTable.runway, AirportTable.empty]
    rw [List.foldl_nil, unknown]
    exact ⟨rfl, nofun⟩
  | append_singleton records record ih =>
    rw [List.foldl_append, List.foldl_cons, List.foldl_nil, AirportTable.runway_insert]
    split
    · rename_i same
      obtain ⟨rfl, rfl⟩ := same
      exact ⟨[], record, .concat ⟨rfl, rfl⟩ records, rfl⟩
    · rename_i other
      generalize AirportTable.runway _ icao designator = answer at ih
      cases answer with
      | ok runway =>
        obtain ⟨behind, last, found, same⟩ := ih
        exact ⟨behind ++ [record], last, found.append other, same⟩
      | error failure =>
        obtain ⟨unknown, others⟩ := ih
        exact ⟨unknown, List.forall_mem_append.mpr ⟨others, List.forall_mem_singleton.mpr other⟩⟩

omit [Distance α] in
theorem procedureTable_entries (snapshot : Snapshot α) :
    snapshot.procedureTable.entries = snapshot.procedures :=
  ProcedureTable.entries_foldl_insert snapshot.procedures

/-- **The procedures of a snapshot**: of several entries that fit the first one counts. -/
theorem procedureTable_procedure (snapshot : Snapshot α) (runway : Runway) (kind : ProcedureKind)
    (name : String) :
    ProcedureEntry.Answers snapshot.procedures runway kind name
      (snapshot.procedureTable.procedure runway kind name : Except RouteError (Procedure α)) := by
  have answers := snapshot.procedureTable.procedure_answers (α := α) runway kind name
  rwa [procedureTable_entries] at answers

/-! ### The whole -/

/-- What is built of a snapshot is what the snapshot says. -/
structure Exact (snapshot : Snapshot α) (navdata : Navdata α) : Prop where
  wellFormed : navdata.graph.WellFormed
  /-- Each node is the waypoint of its number. -/
  waypoints : navdata.graph.waypoints.toList = snapshot.waypoints
  /-- The edges of a node are those of the airways, in their order, and no others. -/
  edges : ∀ node, node < snapshot.waypoints.length → navdata.graph.edgesFrom node =
    .ok (snapshot.airways.flatMap (·.edgesAt snapshot.waypoints node)).toArray
  runways : ∀ icao designator,
    RunwayRecord.Answers snapshot.runways icao designator (navdata.airports.runway icao designator)
  procedures : ∀ runway kind name, ProcedureEntry.Answers snapshot.procedures runway kind name
    (navdata.procedures.procedure runway kind name : Except RouteError (Procedure α))

/-- **Building a snapshot is exact.** It fails exactly when some airway leads from or to no waypoint, and then
names the first such airway; otherwise what is built is what the snapshot says. -/
theorem build_exact (snapshot : Snapshot α) :
    ((∃ fault, snapshot.build = .error fault) ↔
      ∃ record ∈ snapshot.airways, record.Dangling snapshot.waypoints.length) ∧
    (∀ fault, snapshot.build = .error fault ↔ ∃ before record,
      First (·.Dangling snapshot.waypoints.length) snapshot.airways before record ∧
      fault = record.fault before.length snapshot.waypoints.length) ∧
    ∀ navdata, snapshot.build = .ok navdata → snapshot.Exact navdata := by
  rcases graph_cases snapshot with ⟨graph, made, inside, laid⟩ | ⟨before, record, first, stopped⟩
  · have built : snapshot.build = .ok ⟨graph, snapshot.airports, snapshot.procedureTable⟩ := by
      rw [build, made]
      rfl
    have never : ∀ fault, snapshot.build ≠ .error fault := by
      rw [built]
      nofun
    refine ⟨⟨?_, ?_⟩, fun fault => ⟨fun failed => absurd failed (never fault), ?_⟩, fun navdata same => ?_⟩
    · exact fun ⟨fault, failed⟩ => absurd failed (never fault)
    · exact fun ⟨record, member, dangling⟩ => absurd dangling (inside record member)
    · exact fun ⟨_, record, first, _⟩ => absurd first.holds (inside record first.mem)
    · cases built.symm.trans same
      exact {
        wellFormed := laid.nodes.built.wellFormed
        waypoints := laid.nodes.waypoints
        edges := fun node within => by
          rw [Graph.edgesFrom, laid.edges, List.getElem?_eq_getElem within]
          rfl
        runways := airports_runway snapshot
        procedures := procedureTable_procedure snapshot }
  · have failed : snapshot.build = .error (record.fault before.length snapshot.waypoints.length) := by
      rw [build, stopped]
      rfl
    refine ⟨⟨fun _ => ⟨record, first.mem, first.holds⟩, fun _ => ⟨_, failed⟩⟩, fun fault => ⟨?_, ?_⟩, ?_⟩
    · intro same
      cases failed.symm.trans same
      exact ⟨before, record, first, rfl⟩
    · rintro ⟨earlier, other, also, rfl⟩
      obtain ⟨rfl, rfl⟩ := first.unique also
      exact failed
    · intro navdata same
      cases failed.symm.trans same

omit [Distance α] in
/-- Two waypoints with an airway both ways, one of them one way, and one from a waypoint to itself, and a runway
that was moved. -/
def looped : Snapshot ℚ where
  waypoints := [⟨"A", 0, 1⟩, ⟨"B", 0, 2⟩]
  airways :=
    [{ source := 0, target := 1, airway := "Y" },
      { source := 1, target := 0, airway := "Z", distance := some 5, oneWay := true },
      { source := 0, target := 0, airway := "H", distance := some 7 }]
  runways := [⟨"KAAA", "09", 0, 0⟩, ⟨"KAAA", "09", 0, 3⟩]

omit [Distance α] in
/-- The edges of a node stand in the order of the airways, those of the loop side by side. -/
theorem build_exact_looped : ∃ navdata, looped.build = .ok navdata ∧ looped.Exact navdata ∧
    navdata.graph.edgesFrom 0 = .ok #[⟨1, "Y", Distance.between ⟨"A", 0, 1⟩ ⟨"B", 0, 2⟩⟩,
      ⟨0, "H", 7⟩, ⟨0, "H", 7⟩] ∧
    navdata.graph.edgesFrom 1 = .ok #[⟨0, "Y", Distance.between ⟨"B", 0, 2⟩ ⟨"A", 0, 1⟩⟩,
      ⟨0, "Z", 5⟩] := by
  obtain ⟨navdata, built⟩ : ∃ navdata, looped.build = .ok navdata := ⟨_, rfl⟩
  have exact := (build_exact looped).2.2 navdata built
  refine ⟨navdata, built, exact, ?_, ?_⟩
  · exact exact.edges 0 (by decide)
  · exact exact.edges 1 (by decide)

/-- Of two airways that lead nowhere the first one is named. -/
example : ({ looped with airways := looped.airways ++
    [{ source := 0, target := 2, airway := "X" }, { source := 5, target := 0, airway := "W" }] } :
      Snapshot ℚ).build = .error ⟨3, "X", 0, 2, 2⟩ := rfl

end Snapshot

end FlightRoute
