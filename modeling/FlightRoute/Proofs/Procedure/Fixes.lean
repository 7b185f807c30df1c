/-
**A procedure loses none of its fixes.**

On a route a procedure is an edge: its two ends are nodes, and what it passes in between is kept on the leg. The
ends are taken from the first and the last leg, the fixes in between are those of all other legs. Put together
they are the runway and the published fixes again, also when there is a single fix and nothing lies in between.
Where the procedure meets the network stands a fix, at the end away from the runway.

* `Procedure.Passes`: the waypoints that a route shows of a procedure;
* `ends_of_waypoints`: the ends of a procedure and what lies between;
* `total_legsAlong`: the length along waypoints is the sum of the steps between them;
* `sid_passes`, `star_passes`, `enrouteEnd?_ofFixes`: the waypoints of either kind, and the end at the network;
* `ofFixes_keepsFixes`: all of it, for a departure and for an arrival.
-/

import FlightRoute.Proofs.Distance.Planar
import FlightRoute.Proofs.Procedure.Mirror

namespace FlightRoute.Procedure

variable {α : Type}

/-- A route that has the procedure as an edge shows these waypoints: the first, those in between, and the last. -/
def Passes (procedure : Procedure α) (way : List Waypoint) : Prop :=
  ∃ first last, procedure.first? = some first ∧ procedure.last? = some last ∧
    first :: (procedure.inner ++ [last]) = way

/-- **The ends of a procedure** and what lies between are read off its waypoints. -/
theorem ends_of_waypoints {procedure : Procedure α} {first last : Waypoint} {between : List Waypoint}
    (along : procedure.legs.map (·.waypoint) = first :: (between ++ [last])) :
    procedure.first? = some first ∧ procedure.last? = some last ∧ procedure.inner = between := by
  refine ⟨?_, ?_, ?_⟩
  · rw [first?, ← List.head?_map, along, List.head?_cons]
  · rw [last?, ← List.getLast?_map, along, ← List.cons_append, List.getLast?_concat]
  · rw [inner, List.drop_one, List.map_dropLast, List.map_tail, along, List.tail_cons,
      List.dropLast_concat]

variable [Distance α]

/-- How far each waypoint is from the one before it. -/
def steps (α : Type) [Distance α] (way : List Waypoint) : List α :=
  List.zipWith Distance.between way way.tail

theorem legsFrom_distances (previous : Waypoint) (points : List Waypoint) :
    (legsFrom previous points : List (ProcedureLeg α)).map (·.distance) =
      steps α (previous :: points) := by
  induction points generalizing previous with
  | nil => rfl
  | cons point rest ih =>
    rw [legsFrom, List.map_cons, ih]
    rfl

/-- **The length along waypoints** is the sum of the steps between them. -/
theorem total_legsAlong [AddCommMonoid α] [LinearOrder α] [Distance.Exact α] (way : List Waypoint) :
    Distance.total ((legsAlong way : List (ProcedureLeg α)).map (·.distance)) =
      (steps α way).sum := by
  rw [Distance.total_eq_sum]
  cases way with
  | nil => rfl
  | cons first rest =>
    rw [legsAlong, List.map_cons, legsFrom_distances, List.sum_cons, Distance.zero_eq, zero_add]

/-- The waypoints of a procedure are its points. -/
theorem ofFixes_waypoints (name : String) (kind : ProcedureKind) (fixes : List Waypoint)
    (runway : Waypoint) :
    (ofFixes name kind fixes runway : Procedure α).legs.map (·.waypoint) = points kind fixes runway :=
  legsAlong_waypoints _

/-- **The end at the network** is a fix: the last one of a departure and the first one of an arrival. -/
theorem enrouteEnd?_ofFixes (name : String) (kind : ProcedureKind) {fixes : List Waypoint}
    (published : fixes ≠ []) (runway : Waypoint) :
    (ofFixes name kind fixes runway : Procedure α).enrouteEnd? = (match kind with
      | .sid => fixes.getLast?
      | .star => fixes.head?) := by
  have along := ofFixes_waypoints (α := α) name kind fixes runway
  cases kind with
  | sid =>
    show (ofFixes name .sid fixes runway : Procedure α).last? = _
    rw [last?, ← List.getLast?_map, along, points, List.getLast?_cons_of_ne_nil published]
  | star =>
    show (ofFixes name .star fixes runway : Procedure α).first? = _
    rw [first?, ← List.head?_map, along, points, List.head?_append_of_ne_nil _ published]

/-- There is such an end. -/
theorem exists_enrouteEnd (name : String) (kind : ProcedureKind) {fixes : List Waypoint}
    (published : fixes ≠ []) (runway : Waypoint) :
    ∃ fix ∈ fixes, (ofFixes name kind fixes runway : Procedure α).enrouteEnd? = some fix := by
  rw [enrouteEnd?_ofFixes name kind published runway]
  cases kind with
  | sid => exact ⟨_, List.getLast_mem published, List.getLast?_eq_some_getLast published⟩
  | star => exact ⟨_, List.head_mem published, List.head?_eq_some_head published⟩

/-- A departure passes the runway and then its fixes. -/
theorem sid_passes (name : String) {fixes : List Waypoint} (published : fixes ≠ [])
    (runway : Waypoint) :
    (ofFixes name .sid fixes runway : Procedure α).first? = some runway ∧
      (ofFixes name .sid fixes runway : Procedure α).Passes (runway :: fixes) := by
  obtain ⟨between, last, rfl⟩ : ∃ between last, fixes = between ++ [last] :=
    ⟨_, _, (List.dropLast_concat_getLast published).symm⟩
  obtain ⟨starts, ends, inside⟩ := ends_of_waypoints (ofFixes_waypoints (α := α) name .sid _ runway)
  exact ⟨starts, runway, last, starts, ends, by rw [inside]⟩

/-- An arrival passes its fixes and then the runway. -/
theorem star_passes (name : String) {fixes : List Waypoint} (published : fixes ≠ [])
    (runway : Waypoint) :
    (ofFixes name .star fixes runway : Procedure α).last? = some runway ∧
      (ofFixes name .star fixes runway : Procedure α).Passes (fixes ++ [runway]) := by
  obtain ⟨first, between, rfl⟩ := List.exists_cons_of_ne_nil published
  have along : (ofFixes name .star (first :: between) runway : Procedure α).legs.map (·.waypoint) =
      first :: (between ++ [runway]) := ofFixes_waypoints name .star _ runway
  obtain ⟨starts, ends, inside⟩ := ends_of_waypoints along
  exact ⟨ends, first, runway, starts, ends, by rw [inside]; rfl⟩

/-- **A procedure loses none of its fixes.** What a route shows of a departure is the runway and then its fixes, of
an arrival its fixes and then the runway, each waypoint once and in its place. The runway is at the one end; at the
other, where the procedure meets the network, is the last fix of a departure and the first fix of an arrival. On
exact lengths the procedure is as long as its steps together. -/
theorem ofFixes_keepsFixes (name : String) (kind : ProcedureKind) {fixes : List Waypoint}
    (published : fixes ≠ []) (runway : Waypoint) :
    let procedure : Procedure α := ofFixes name kind fixes runway
    (match kind with
      | .sid => procedure.Passes (runway :: fixes) ∧ procedure.first? = some runway ∧
          procedure.enrouteEnd? = procedure.last? ∧ procedure.enrouteEnd? = fixes.getLast?
      | .star => procedure.Passes (fixes ++ [runway]) ∧ procedure.last? = some runway ∧
          procedure.enrouteEnd? = procedure.first? ∧ procedure.enrouteEnd? = fixes.head?) ∧
    (∃ fix ∈ fixes, procedure.enrouteEnd? = some fix) ∧
    (runway ∉ fixes → procedure.enrouteEnd? ≠ some runway) ∧
    ∀ [AddCommMonoid α] [LinearOrder α] [Distance.Exact α], procedure.totalDistance =
      (steps α (match kind with
        | .sid => runway :: fixes
        | .star => fixes ++ [runway])).sum := by
  intro procedure
  have end_eq := enrouteEnd?_ofFixes (α := α) name kind published runway
  obtain ⟨fix, listed, ends⟩ := exists_enrouteEnd (α := α) name kind published runway
  refine ⟨?_, ⟨fix, listed, ends⟩, fun apart same => ?_, ?_⟩
  · cases kind with
    | sid =>
      obtain ⟨starts, passes⟩ := sid_passes (α := α) name published runway
      exact ⟨passes, starts, rfl, end_eq⟩
    | star =>
      obtain ⟨lands, passes⟩ := star_passes (α := α) name published runway
      exact ⟨passes, lands, rfl, end_eq⟩
  · exact apart (Option.some.inj (ends.symm.trans same) ▸ listed)
  · intro _ _ _
    cases kind with
    | sid => exact total_legsAlong (α := α) (runway :: fixes)
    | star => exact total_legsAlong (α := α) (fixes ++ [runway])

/-- A departure over a single fix, with nothing in between, and an arrival over two. -/
theorem ofFixes_keepsFixes_planar :
    let runway : Waypoint := ⟨"KAAA09", 0, 0⟩
    let sid : Procedure ℚ := ofFixes "DEP1" .sid [⟨"X", 1, 0⟩] runway
    let star : Procedure ℚ := ofFixes "ARR1" .star [⟨"C", 0, 3⟩, ⟨"B", 0, 2⟩] runway
    (sid.Passes [runway, ⟨"X", 1, 0⟩] ∧ sid.enrouteEnd? = some ⟨"X", 1, 0⟩ ∧ sid.totalDistance = 1) ∧
      star.Passes [⟨"C", 0, 3⟩, ⟨"B", 0, 2⟩, runway] ∧ star.enrouteEnd? = some ⟨"C", 0, 3⟩ ∧
      star.totalDistance = 3 := by
  intro runway sid star
  have single : [(⟨"X", 1, 0⟩ : Waypoint)] ≠ [] := List.cons_ne_nil _ _
  have several : [(⟨"C", 0, 3⟩ : Waypoint), ⟨"B", 0, 2⟩] ≠ [] := List.cons_ne_nil _ _
  obtain ⟨⟨out, _, _, exit⟩, _, _, climb⟩ := ofFixes_keepsFixes (α := ℚ) "DEP1" .sid single runway
  obtain ⟨⟨home, _, _, entry⟩, _, _, descent⟩ :=
    ofFixes_keepsFixes (α := ℚ) "ARR1" .star several runway
  exact ⟨⟨out, exit, climb.trans (by decide +kernel)⟩, home, entry, descent.trans (by decide +kernel)⟩

end FlightRoute.Procedure
