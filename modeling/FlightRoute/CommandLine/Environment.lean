/-
**Settings from the environment.**

Three variables stand in for options that are not given: the path of the snapshot, the seed of random
routes, and the number of links of a runway without procedures. A number that cannot be read counts as
not given.
-/

import FlightRoute.Text.Digits

namespace FlightRoute

/-- What the environment gives. -/
structure Environment where
  navdata : Option String
  randomSeed : Option Nat
  terminalLinks : Option Nat

/-- Reads a variable as a number. -/
def Environment.number? (lookup : String → Option String) (name : String) : Option Nat :=
  (lookup name).bind (Text.Digits.unsigned? Text.Digits.wordBound)

/-- Reads the variables. -/
def Environment.ofLookup (lookup : String → Option String) : Environment where
  navdata := lookup "ROUTE_NAVDATA"
  randomSeed := number? lookup "ROUTE_RANDOM_SEED"
  terminalLinks := number? lookup "ROUTE_TERMINAL_LINKS"

end FlightRoute
