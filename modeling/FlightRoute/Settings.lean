/-
**Settings of the searches.**
-/

namespace FlightRoute

/-- What can be tuned about the shortest-path and random searches. -/
structure SearchSettings where
  /-- How many nearest waypoints a runway or an unpublished procedure end is joined to. -/
  terminalLinks : Nat := 3
  /-- How many nearest waypoints a literal coordinate is linked to while it is in the graph. -/
  coordinateLinks : Nat := 0
  /-- How many random walks are tried before the shortest path is taken. -/
  randomAttempts : Nat := 16
  /-- The most edges of one random walk. -/
  randomSteps : Nat := 512
  /-- How strongly a random walk prefers edges that lead closer to its end; zero is no preference. -/
  progressBias : Float := 4.0

end FlightRoute
