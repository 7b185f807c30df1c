/-
**Running a command line.**

A run reads the snapshot, resolves the route and prints it. Everything but reading the file is decided
here: `plan` says which file is needed, and what comes of its content.
-/

import FlightRoute.Codec.Request
import FlightRoute.Codec.Snapshot
import FlightRoute.CommandLine.Environment
import FlightRoute.CommandLine.Options
import FlightRoute.Json.Printer
import FlightRoute.RandomWalk.Progressive
import FlightRoute.Report

namespace FlightRoute.CommandLine

/-- Why a run fails, and what lies behind it. -/
structure Failure where
  message : String
  causes : List String := []

/-- What a run comes to. -/
inductive Outcome
  | printed (output : String)
  | failed (failure : Failure)
  /-- The command line is not understood, or asks for help. -/
  | usage (usage : Usage)

/-- What is left to do after the words are read. -/
inductive Plan
  | finish (outcome : Outcome)
  /-- Reading a file; its content, or why it cannot be read, decides. -/
  | read (path : String) (next : Except String String → Outcome)

/-- The exit code of an outcome. -/
def Outcome.exitCode : Outcome → UInt32
  | printed _ => 0
  | failed _ => 1
  | usage .misused => 2
  | usage _ => 0

/-- What an outcome writes to standard output. -/
def Outcome.output : Outcome → String
  | printed output => output
  | failed _ => ""
  | usage _ => ""

/-- The lines of a failure. -/
def Failure.lines (failure : Failure) : List String :=
  s!"Error: {failure.message}" ::
    if failure.causes.isEmpty then []
    else "" :: "Caused by:" :: failure.causes.map fun cause => s!"    {cause}"

/-- How the command is used. -/
def usageText : String :=
  "Usage: resolve-route [OPTIONS] <ORIG> <ORIG_RUNWAY> <DEST> <DEST_RUNWAY> [ROUTE]...\n" ++
  "\n" ++
  "Options:\n" ++
  "      --navdata <NAVDATA>                    Navdata snapshot (JSON)\n" ++
  "      --seed <SEED>                          Seed for RAND segments\n" ++
  "      --terminal-links <TERMINAL_LINKS>      Waypoints a runway links to\n" ++
  "      --coordinate-links <COORDINATE_LINKS>  Waypoints each literal coordinate links to\n" ++
  "      --json                                 Print the route as JSON\n" ++
  "  -h, --help                                 Print help\n" ++
  "  -V, --version                              Print version\n"

/-- What an outcome writes to standard error. -/
def Outcome.errors : Outcome → String
  | failed failure => "\n".intercalate failure.lines ++ "\n"
  | usage .version => ""
  | usage _ => usageText
  | printed _ => ""

/-- The request of the options, in capitals. -/
def request (options : Options) : RouteRequest where
  originIcao := options.origin.toUpper
  originRunway := options.originRunway.toUpper
  destinationIcao := options.destination.toUpper
  destinationRunway := options.destinationRunway.toUpper
  route := " ".intercalate options.route

/-- The settings of the options. -/
def settings (options : Options) (environment : Environment) : SearchSettings :=
  let defaults : SearchSettings := { coordinateLinks := options.coordinateLinks }
  match options.terminalLinks.or environment.terminalLinks with
  | some links => { defaults with terminalLinks := links }
  | none => defaults

/-- The source of random routes: of the seed, or from one state to the next. -/
def randomSource (options : Options) (environment : Environment) :
    RandomSource RandomWalk.Generator Float :=
  match options.seed.or environment.randomSeed with
  | some seed => RandomWalk.seeded seed.toUInt64
  | none => RandomWalk.source RandomWalk.progressive

/-- The route as it is printed. -/
def printed (options : Options) (route : Route Float) : String :=
  if options.json then Json.pretty (Report.json route) ++ "\n" else Report.text route

/-- Resolves the route on a snapshot. -/
def resolve (options : Options) (environment : Environment) (draws : RandomWalk.Generator)
    (navdata : Navdata Float) : Outcome :=
  let request := request options
  let resolver : Resolver RandomWalk.Generator Float := {
    airports := navdata.airports
    store := navdata.procedures.store
    random := randomSource options environment
    settings := settings options environment }
  match (resolver.resolve navdata.graph request draws).outcome with
  | .ok route => .printed (printed options route)
  | .error failure =>
    let start := s!"{request.originIcao}/{request.originRunway}"
    let finish := s!"{request.destinationIcao}/{request.destinationRunway}"
    .failed ⟨s!"resolving {start} -> {finish}", [failure.message]⟩

/-- What comes of the content of the snapshot file. -/
def continueWith (options : Options) (environment : Environment) (draws : RandomWalk.Generator)
    (path : String) (content : Except String String) : Outcome :=
  match content with
  | .error cause => .failed ⟨s!"reading navdata {path}", [cause]⟩
  | .ok text =>
    match Snapshot.parse text with
    | none => .failed ⟨s!"parsing navdata {path}", ["the text is no navigation snapshot"]⟩
    | some snapshot =>
      match snapshot.build with
      | .error fault => .failed ⟨fault.message, []⟩
      | .ok navdata => resolve options environment draws navdata

/-- What a command line takes. Random routes without a seed start from `draws`. -/
def plan (words : List String) (environment : Environment) (draws : RandomWalk.Generator) : Plan :=
  match Options.parse words with
  | .error usage => .finish (.usage usage)
  | .ok options =>
    match options.navdata.or environment.navdata with
    | none => .finish (.failed ⟨"no navdata snapshot given (--navdata or ROUTE_NAVDATA)", []⟩)
    | some path => .read path (continueWith options environment draws path)

end FlightRoute.CommandLine
