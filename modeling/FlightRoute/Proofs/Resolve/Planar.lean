/-
**A resolver on the flat earth.**

What is said of all resolvers can be seen at work on a small one, with two runways ten degrees apart,
no procedures, and random routes that are direct.

* `runway_insert`: the runways of a table with one more;
* `planar_flight`: the flight between the two runways.
-/

import FlightRoute.Proofs.Distance.Planar
import FlightRoute.Proofs.Except
import FlightRoute.Resolve.Resolver

namespace FlightRoute

theorem AirportTable.runway_insert (table : AirportTable) (icao designator : String) (lat lon : Float)
    (other runway : String) :
    (table.insert icao designator lat lon).runway other runway =
      if icao = other ∧ designator = runway then
        .ok ⟨other, runway, ⟨icao ++ designator, lat, lon⟩⟩
      else table.runway other runway := by
  unfold AirportTable.runway AirportTable.insert
  rw [Std.HashMap.getElem?_insert]
  by_cases same : icao = other ∧ designator = runway
  · obtain ⟨rfl, rfl⟩ := same
    simp
  · have apart : ((icao, designator) == (other, runway)) = false := by
      rw [beq_eq_false_iff_ne]
      exact fun equal => same (Prod.mk.inj equal)
    rw [if_neg same, apart]
    rfl

namespace Resolver

/-- A resolver without procedures whose random routes are direct. -/
def planar : Resolver Unit ℚ where
  airports := (AirportTable.empty.insert "KAAA" "09" 0 0).insert "KBBB" "27" 0 10
  store := ProcedureTable.empty.store
  random _ _ _ start finish draws :=
    (.ok (.ofLeg start (.direct (Distance.between start finish)) finish), draws)

/-- From the one runway to the other. -/
def eastbound : Flight where
  origin := ⟨"KAAA", "09", ⟨"KAAA09", 0, 0⟩⟩
  destination := ⟨"KBBB", "27", ⟨"KBBB27", 0, 10⟩⟩

theorem planar_flight (text : String) :
    planar.flight ⟨"KAAA", "09", "KBBB", "27", text⟩ = .ok eastbound := by
  have origin : planar.airports.runway "KAAA" "09" = .ok eastbound.origin := by
    unfold planar
    rw [AirportTable.runway_insert, if_neg (by decide), AirportTable.runway_insert,
      if_pos (by decide)]
    rfl
  have destination : planar.airports.runway "KBBB" "27" = .ok eastbound.destination := by
    unfold planar
    rw [AirportTable.runway_insert, if_pos (by decide)]
    rfl
  unfold flight
  dsimp only
  rw [origin, ok_bind, destination]
  rfl

end Resolver

end FlightRoute
