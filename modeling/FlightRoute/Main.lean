/-
**The command `resolve-route`.**
-/

import FlightRoute.CommandLine.Run

namespace FlightRoute

/-- The content of a file, or why it cannot be read. -/
def readSnapshot (path : String) : IO (Except String String) := do
  try return .ok (← IO.FS.readFile path)
  catch failure => return .error (toString failure)

/-- A generator that starts anywhere. -/
def freshGenerator : IO RandomWalk.Generator := do
  let bytes ← IO.getRandomBytes 8
  return .ofSeed (bytes.toList.foldl (fun word byte => word * 256 + byte.toUInt64) 0)

end FlightRoute

open FlightRoute in
/-- Runs a command line. -/
def main (words : List String) : IO UInt32 := do
  let navdata ← IO.getEnv "ROUTE_NAVDATA"
  let seed ← IO.getEnv "ROUTE_RANDOM_SEED"
  let links ← IO.getEnv "ROUTE_TERMINAL_LINKS"
  let environment := Environment.ofLookup fun
    | "ROUTE_NAVDATA" => navdata
    | "ROUTE_RANDOM_SEED" => seed
    | "ROUTE_TERMINAL_LINKS" => links
    | _ => none
  let outcome ← match CommandLine.plan words environment (← freshGenerator) with
    | .finish outcome => pure outcome
    | .read path next => do pure (next (← readSnapshot path))
  IO.print outcome.output
  IO.eprint outcome.errors
  return outcome.exitCode
