/-
**A report is read as the route that it was written for.**

A report is written line by line, cut into lexemes and put together again (`Json.parse_prettyAt`), so its
members are those of the value that was written. How floats are written and how numerals are read is left
open, `Json.pretty` being the case of the fewest digits: of the numbers of the report it is asked that they are
finite and read back (`ReadsBack`). Which nodes have legs and which legs have inner waypoints does not matter.

* `Report.numbers`: all numbers of a report;
* `Report.json_legible`: every part of a report can be read;
* `Report.totalJson_renumber`: a total is nothing just for routes that are too short;
* `Report.parse_prettyAt_json`: what is read from a report.
-/

import FlightRoute.Json.Printer
import FlightRoute.Proofs.Codec.Route
import FlightRoute.Proofs.Route.Junction
import FlightRoute.Report

namespace FlightRoute

open Json (Keeps Legible Numeral Spells floatText float? ofFloat option? parse prettyAt record?)

/-! ### Numbers that read back -/

namespace Json

/-- What is written for a float is read as the float. -/
def ReadsBack [JsonNumber Numeral] (number : Float → String) (x : Float) : Prop :=
  (Numeral.ofChars? (number x).toList).bind JsonNumber.toFloat? = some x

instance instDecidableReadsBack [JsonNumber Numeral] (number : Float → String) (x : Float) :
    Decidable (ReadsBack number x) :=
  inferInstanceAs (Decidable (_ = _))

/-- The numeral that a float is written as. -/
def numeralOf (number : Float → String) (x : Float) : Numeral :=
  (Numeral.ofChars? (number x).toList).getD ⟨false, ['0'], [], none⟩

variable [JsonNumber Numeral] {number : Float → String} {x : Float}

theorem ReadsBack.spells (exact : ReadsBack number x) : Spells number (numeralOf number) x := by
  obtain ⟨numeral, spelled, _⟩ := Option.bind_eq_some_iff.mp exact
  unfold Spells numeralOf
  rw [spelled]
  rfl

theorem ReadsBack.keeps (exact : ReadsBack number x) (finite : x.isFinite = true) :
    Keeps (numeralOf number) x := by
  obtain ⟨numeral, spelled, read⟩ := Option.bind_eq_some_iff.mp exact
  refine ⟨finite, ?_⟩
  unfold numeralOf
  rw [spelled]
  exact read

end Json

open Json (ReadsBack numeralOf)

namespace Report

variable {route : Route Float}

/-- The numbers of a report: those of the route, and the total of a route that has one. -/
def numbers (route : Route Float) : List Float :=
  route.numbers ++ route.totalDistance.toOption.toList

/-- Every part of a report can be read. -/
theorem json_legible {holds : Float → Prop} (all : ∀ x ∈ numbers route, holds x) :
    Legible holds (json route) := by
  obtain ⟨own, total⟩ := List.forall_mem_append.mp all
  refine ⟨Route.toJson_legible own, ?_, trivial⟩
  unfold totalJson
  split
  · rename_i length known
    rw [known] at total
    exact Json.ofFloat_legible (total length List.mem_cons_self)
  · trivial

/-- **A total that is written** is read again, and is nothing just for routes that are too short. -/
theorem totalJson_renumber {ν : Type} [JsonNumber ν] {f : Float → ν}
    (keeps : ∀ x ∈ numbers route, Keeps f x) :
    option? float? ((totalJson route).renumber f) = some route.totalDistance.toOption ∧
      ((totalJson route).renumber f = .null ↔ route.nodes.length < 2) := by
  have total := (List.forall_mem_append.mp keeps).2
  unfold totalJson
  by_cases short : route.nodes.length < 2
  · rw [Route.totalDistance_of_short (Nat.le_of_lt_succ short)]
    exact ⟨rfl, iff_of_true rfl short⟩
  · rw [Route.totalDistance_of_le (Nat.le_of_not_lt short)] at total ⊢
    have kept := total _ List.mem_cons_self
    have read := kept.float?
    dsimp only
    rw [ofFloat, if_pos kept.finite] at read ⊢
    refine ⟨?_, iff_of_false (fun null => ?_) short⟩
    · show (float? _).map some = _
      rw [read]
      rfl
    · cases null

/-- **What is read from a report** is the route that it was written for, well formed or not, and its total,
which is nothing just for routes that are too short. The route that is read has the same report. -/
theorem parse_prettyAt_json [JsonNumber Numeral] {number : Float → String}
    (finite : ∀ x ∈ numbers route, x.isFinite = true) (exact : ∀ x ∈ numbers route, ReadsBack number x) :
    ∃ report,
      (parse (prettyAt number 0 (json route))).bind (record? ["route", "distance_nm"]) = some report ∧
      report.required? "route" Route.ofJson? = some route ∧
      report.required? "distance_nm" (option? float?) = some route.totalDistance.toOption ∧
      (∃ total, report.get? "distance_nm" = some total ∧ (total = .null ↔ route.nodes.length < 2)) ∧
      (report.required? "route" Route.ofJson?).map (fun again => prettyAt number 0 (json again)) =
        some (prettyAt number 0 (json route)) := by
  have keeps : ∀ x ∈ numbers route, Keeps (numeralOf number) x :=
    fun x here => (exact x here).keeps (finite x here)
  obtain ⟨total, null⟩ := totalJson_renumber keeps
  have own := Route.ofJson?_toJson (List.forall_mem_append.mp keeps).1
  have read : parse (prettyAt number 0 (json route)) = some ((json route).renumber (numeralOf number)) :=
    Json.parse_prettyAt (json_legible fun x here => (exact x here).spells) 0
  refine ⟨⟨false, [("route", route.toJson.renumber (numeralOf number)),
    ("distance_nm", (totalJson route).renumber (numeralOf number))]⟩, ?_, own, total, ⟨_, rfl, null⟩, ?_⟩
  · rw [read]
    rfl
  · show Option.map _ (Route.ofJson? (route.toJson.renumber (numeralOf number))) = _
    rw [own]
    rfl

/-- A procedure with a waypoint inside, a node without a leg, and a last node with one. -/
def ragged : Route Float where
  nodes :=
    [{ waypoint := ⟨"KAAA09", 0.0, -0.5⟩,
       leg := some { airway := "DEPA", distance := 30.0, inner := [⟨"D1", 0.0, -0.25⟩] } },
      { waypoint := ⟨"P", -0.0, 0.0⟩, leg := none },
      { waypoint := ⟨"Q", 0.0, 1.0⟩, leg := some { airway := "J\"1", distance := 60.5 } }]

/-- The report of a route that is not well formed, with the fewest digits that read back, is read as that
route. -/
theorem parse_prettyAt_json_ragged :
    (∀ x ∈ numbers ragged, x.isFinite = true) ∧ (∀ x ∈ numbers ragged, ReadsBack floatText x) ∧
      ∃ report,
        (parse (Json.pretty (json ragged))).bind (record? ["route", "distance_nm"]) = some report ∧
        report.required? "route" Route.ofJson? = some ragged ∧
        report.required? "distance_nm" (option? float?) = some (some 90.5) := by
  have finite : ∀ x ∈ numbers ragged, x.isFinite = true := by decide
  have exact : ∀ x ∈ numbers ragged, ReadsBack floatText x := by decide +kernel
  obtain ⟨report, read, own, total, _⟩ := parse_prettyAt_json finite exact
  have sum : ragged.totalDistance.toOption = some 90.5 := by decide
  exact ⟨finite, exact, report, read, own, total.trans (congrArg some sum)⟩

end Report

end FlightRoute
