/-
**Great-circle distances on floats.**

The distance of two waypoints is the length of the great circle between them on a sphere, in nautical
miles, by the haversine formula. Lengths are floats; `rank` orders all of them, also the ones that
`<` does not compare.
-/

import FlightRoute.Distance

namespace FlightRoute.Distance

/-- Mean radius of the earth in nautical miles. -/
def earthRadius : Float := 3440.065

/-- An angle in degrees as radians. -/
def radians (degrees : Float) : Float := degrees * (3.141592653589793 / 180.0)

/-- The square of the sine of half an angle, in radians. -/
def haversine (angle : Float) : Float :=
  let half := Float.sin (angle / 2.0)
  half * half

/-- The great-circle distance of two waypoints in nautical miles. -/
def greatCircle (a b : Waypoint) : Float :=
  let chord := haversine (radians (b.lat - a.lat)) +
    Float.cos (radians a.lat) * Float.cos (radians b.lat) * haversine (radians (b.lon - a.lon))
  2.0 * earthRadius * Float.atan2 (Float.sqrt chord) (Float.sqrt (1.0 - chord))

/-- The place of a float in the order of all floats: what is no number first, then the negative
numbers with `-0.0` last, then `0.0` and the positive numbers. -/
def rank (x : Float) : UInt64 :=
  let bits := x.toBits
  if x.isNaN then 0
  else if bits &&& 0x8000000000000000 == 0 then bits ||| 0x8000000000000000
  else ~~~bits

/-- Lengths in nautical miles along great circles. A sum starts at negative zero, the only float that
leaves every float unchanged. -/
instance instFloat : Distance Float where
  zero := 0.0
  neutral := -0.0
  add a b := a + b
  lt a b := decide (a < b)
  le a b := decide (a ≤ b)
  order a b := compare (rank a) (rank b)
  bounded a := decide (a < 1.0 / 0.0)
  sameFix := 5.0
  between := greatCircle

end FlightRoute.Distance
