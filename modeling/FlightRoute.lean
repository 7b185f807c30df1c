import FlightRoute.Main
import FlightRoute.Proofs.Distance.Exact
import FlightRoute.Proofs.Except
import FlightRoute.Proofs.Failure
import FlightRoute.Proofs.Search.Agenda
import FlightRoute.Proofs.Search.Round
import FlightRoute.Proofs.Search.Trail
import FlightRoute.Proofs.Search.Frontier
import FlightRoute.Proofs.Search.Minimal
import FlightRoute.Proofs.Search.Retrace
import FlightRoute.Proofs.Route.WellFormed
import FlightRoute.Proofs.Route.Spans
import FlightRoute.Proofs.Graph.Built
import FlightRoute.Proofs.Graph.Walk
import FlightRoute.Proofs.ShortestRoute.Connection
import FlightRoute.Proofs.ShortestRoute.Assembly
import FlightRoute.Proofs.Distance.Packing
import FlightRoute.Proofs.Distance.Planar
import FlightRoute.Proofs.Distance.Whole
import FlightRoute.Proofs.Route.Editing
import FlightRoute.Proofs.ShortestRoute.Minimal
import FlightRoute.Proofs.Graph.Rollback
import FlightRoute.Proofs.Resolve.Rollback
import FlightRoute.Proofs.Graph.Lookup
import FlightRoute.Proofs.Route.Connect
import FlightRoute.Proofs.Seamless
import FlightRoute.Proofs.Terminal.Seam
import FlightRoute.Proofs.LiteralRun.Follow
import FlightRoute.Proofs.LiteralRun.Course
import FlightRoute.Proofs.LiteralRun.Seams
import FlightRoute.Proofs.Resolve.LiteralSegment
import FlightRoute.Proofs.Resolve.Tokens
import FlightRoute.Proofs.Segment
import FlightRoute.Proofs.Resolve.Pieces
import FlightRoute.Proofs.Resolve.Fill
import FlightRoute.Proofs.Resolve.Continuity
import FlightRoute.Proofs.Resolve.Seams
import FlightRoute.Proofs.Graph.Injected
import FlightRoute.Proofs.Terminal.Genuine
import FlightRoute.Proofs.ShortestRoute.Genuine
import FlightRoute.Proofs.Resolve.Genuine
import FlightRoute.Proofs.Distance.Ordered
import FlightRoute.Proofs.Graph.Nearest
import FlightRoute.Proofs.Terminal.Agreement
import FlightRoute.Proofs.Search.Simple
import FlightRoute.Proofs.Graph.Passage
import FlightRoute.Proofs.ShortestRoute.Simple
import FlightRoute.Proofs.RandomWalk.Walk
import FlightRoute.Proofs.RandomWalk.Genuine
import FlightRoute.Proofs.Search.Exhaustion
import FlightRoute.Proofs.Search.Complete
import FlightRoute.Proofs.ShortestRoute.Complete
import FlightRoute.Proofs.Snapshot
import FlightRoute.Proofs.LiteralRun.Airways
import FlightRoute.Proofs.Graph.Strays
import FlightRoute.Proofs.Graph.Namesakes
import FlightRoute.Proofs.Search.Widened
import FlightRoute.Proofs.ShortestRoute.Strays
import FlightRoute.Proofs.RandomWalk.Strays
import FlightRoute.Proofs.Resolve.Unlinked
import FlightRoute.Proofs.ShortestRoute.Decision
import FlightRoute.Proofs.ShortestRoute.Airway
import FlightRoute.Proofs.RandomWalk.Decision
import FlightRoute.Proofs.Graph.Bounds
import FlightRoute.Proofs.Search.Bounds
import FlightRoute.Proofs.ShortestRoute.Bounds
import FlightRoute.Proofs.LiteralRun.Bounds
import FlightRoute.Proofs.RandomWalk.Bounds
import FlightRoute.Proofs.Resolve.Bounds
import FlightRoute.Proofs.Segment.Canonical
import FlightRoute.Proofs.Route.Junction
import FlightRoute.Proofs.Resolve.Neighbours
import FlightRoute.Proofs.Distance.Closest
import FlightRoute.Proofs.Graph.Reachable
import FlightRoute.Proofs.LiteralRun.Stages
import FlightRoute.Proofs.Coordinate
import FlightRoute.Proofs.Coordinate.Degrees
import FlightRoute.Proofs.Graph.Links
import FlightRoute.Proofs.Resolve.Taken
import FlightRoute.Proofs.Resolve.Literals
import FlightRoute.Proofs.Distance.GreatCircle
import FlightRoute.Proofs.Distance.Opposite
import FlightRoute.Proofs.RouteString
import FlightRoute.Proofs.Route.Grouping
import FlightRoute.Proofs.Resolve.Grouping
import FlightRoute.Proofs.Route.Bridge
import FlightRoute.Proofs.Route.Mirror
import FlightRoute.Proofs.Procedure.Mirror
import FlightRoute.Proofs.Terminal.Mirror
import FlightRoute.Proofs.Snapshot.Exact
import FlightRoute.Proofs.Resolve.Lookups
import FlightRoute.Proofs.Cancellation
import FlightRoute.Proofs.Resolve.Cancellation
import FlightRoute.Proofs.Json.Lexing
import FlightRoute.Proofs.Json.RoundTrip
import FlightRoute.Proofs.Codec.Route
import FlightRoute.Proofs.Report
import FlightRoute.Proofs.First
import FlightRoute.Proofs.Procedure.Table
import FlightRoute.Proofs.Procedure.Fixes
import FlightRoute.Proofs.Graph.Selection
import FlightRoute.Proofs.Terminal.Listed
import FlightRoute.Proofs.Distance.Numbers
import FlightRoute.Proofs.Graph.SameFix
