/-
**Options of the command line.**

Four words name the runways of origin and destination, all further words are the route. Options may
stand anywhere; a value follows its option as the next word or behind an equals sign, and no option
is given twice. Two dashes alone end the options. The first fault or the first request for help, from
left to right, decides.
-/

import FlightRoute.Text.Digits

namespace FlightRoute

/-- What the command line asks for. -/
structure Options where
  origin : String
  originRunway : String
  destination : String
  destinationRunway : String
  route : List String
  navdata : Option String
  seed : Option Nat
  /-- How many waypoints a runway without procedures is linked to. -/
  terminalLinks : Option Nat
  /-- How many waypoints a literal coordinate is linked to. -/
  coordinateLinks : Nat
  json : Bool

/-- Why there are no options. -/
inductive Usage
  /-- The words are not understood. -/
  | misused
  | help
  | version

/-- The words read so far. -/
structure ReadWords where
  /-- The words that are no options, in order. -/
  positional : List String := []
  navdata : Option String := none
  seed : Option Nat := none
  /-- How many waypoints a runway is linked to. -/
  terminalLinks : Option Nat := none
  /-- How many waypoints a literal coordinate is linked to. -/
  coordinateLinks : Option Nat := none
  json : Bool := false

namespace ReadWords

/-- Whether a word can be the value of an option: it does not look like an option itself. -/
def isValue (word : String) : Bool := !word.startsWith "-" || word == "-"

/-- A number that an option is given for the first time. -/
def number? (given : Option Nat) (value : String) : Option Nat :=
  if given.isSome then none else Text.Digits.unsigned? Text.Digits.wordBound value

/-- Takes an option with its value. -/
def setOption (words : ReadWords) (name value : String) : Option ReadWords :=
  match name with
  | "navdata" =>
    if words.navdata.isSome || value.isEmpty then none
    else some { words with navdata := some value }
  | "seed" => (number? words.seed value).map fun n => { words with seed := some n }
  | "terminal-links" =>
    (number? words.terminalLinks value).map fun n => { words with terminalLinks := some n }
  | "coordinate-links" =>
    (number? words.coordinateLinks value).map fun n => { words with coordinateLinks := some n }
  | _ => none

/-- Takes an option without a value. -/
def setFlag (words : ReadWords) (name : String) : Except Usage ReadWords :=
  match name with
  | "json" => if words.json then .error .misused else .ok { words with json := true }
  | "help" => .error .help
  | "version" => .error .version
  | _ => .error .misused

/-- Whether an option has a value. -/
def takesValue (name : String) : Bool :=
  ["navdata", "seed", "terminal-links", "coordinate-links"].contains name

/-- What is behind two dashes, before and after the first equals sign. -/
def splitOption (word : String) : String × Option String :=
  let characters := word.toList.drop 2
  let name := String.ofList (characters.takeWhile (· != '='))
  match characters.dropWhile (· != '=') with
  | _ :: value => (name, some (String.ofList value))
  | [] => (name, none)

/-- Takes an option that has its value behind an equals sign, or none. -/
def setAttached (words : ReadWords) (name : String) (value : Option String) :
    Except Usage ReadWords :=
  match value with
  | some value =>
    match words.setOption name value with
    | some words => .ok words
    | none => .error .misused
  | none => words.setFlag name

/-- Takes an option of one dash. -/
def setShort (word : String) : Usage :=
  match word.toList with
  | _ :: 'h' :: _ => .help
  | _ :: 'V' :: _ => .version
  | _ => .misused

/-- Reads words from left to right. -/
def readFrom (words : ReadWords) : List String → Except Usage ReadWords
  | [] => .ok words
  | word :: rest =>
    if word == "--" then .ok { words with positional := words.positional ++ rest }
    else if word.startsWith "--" then
      let (name, attached) := splitOption word
      if takesValue name && attached.isNone then
        match rest with
        | value :: rest =>
          if isValue value then
            match words.setOption name value with
            | some words => words.readFrom rest
            | none => .error .misused
          else .error .misused
        | [] => .error .misused
      else do (← words.setAttached name attached).readFrom rest
    else if isValue word then
      { words with positional := words.positional ++ [word] }.readFrom rest
    else .error (setShort word)

/-- The options of the words, if all that is needed is there. -/
def options (words : ReadWords) : Except Usage Options :=
  match words.positional with
  | origin :: originRunway :: destination :: destinationRunway :: route =>
    .ok {
      origin, originRunway, destination, destinationRunway, route
      navdata := words.navdata
      seed := words.seed
      terminalLinks := words.terminalLinks
      coordinateLinks := words.coordinateLinks.getD 0
      json := words.json }
  | _ => .error .misused

end ReadWords

/-- The options that the words of a command line give. -/
def Options.parse (words : List String) : Except Usage Options := do
  (← ReadWords.readFrom {} words).options

end FlightRoute
