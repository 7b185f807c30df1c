/-
**Waypoints.**

A waypoint is a named point on the earth, in signed decimal degrees. Identifiers are not unique, so
two waypoints are the same only when the identifier and both coordinates agree; the comparison of
coordinates is the one of floats, under which a coordinate that is no number differs from itself.
-/

namespace FlightRoute

/-- A named point on the earth. -/
structure Waypoint where
  /-- The published name; several waypoints may share it. -/
  ident : String
  /-- Degrees north of the equator. -/
  lat : Float
  /-- Degrees east of the prime meridian. -/
  lon : Float

namespace Waypoint

/-- Waypoints agree when the identifier and both coordinates do. -/
instance instBEq : BEq Waypoint where
  beq a b := a.ident == b.ident && a.lat == b.lat && a.lon == b.lon

theorem beq_iff {a b : Waypoint} :
    (a == b) = true ↔ a.ident = b.ident ∧ (a.lat == b.lat) = true ∧ (a.lon == b.lon) = true := by
  show (a.ident == b.ident && a.lat == b.lat && a.lon == b.lon) = true ↔ _
  simp [and_assoc]

/-- Waypoints that agree carry the same identifier. -/
theorem ident_eq_of_beq {a b : Waypoint} (same : (a == b) = true) : a.ident = b.ident :=
  (beq_iff.mp same).1

end Waypoint

/-- The airway label of a direct leg. -/
def direct : String := "DCT"

end FlightRoute
