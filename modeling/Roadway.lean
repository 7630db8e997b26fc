import Roadway.CommandLine.Options
import Roadway.CommandLine.Run
import Roadway.Document.Configuration
import Roadway.Document.Network
import Roadway.Document.Settings
import Roadway.Entity.Basic
import Roadway.Entity.Kind
import Roadway.Entity.Placement
import Roadway.Entity.Roster
import Roadway.Geometry.Heading
import Roadway.Geometry.Polyline
import Roadway.Geometry.Vec2
import Roadway.Json.Reader
import Roadway.Json.Record
import Roadway.Json.Value
import Roadway.Main
import Roadway.Network.Basic
import Roadway.Network.Description
import Roadway.Network.LaneIndex
import Roadway.Number.Binary64
import Roadway.Number.Decimal
import Roadway.Proofs.Entity.Roster
import Roadway.Proofs.Geometry.Along
import Roadway.Proofs.Geometry.ArcLength
import Roadway.Proofs.Geometry.Circle
import Roadway.Proofs.Geometry.Extent
import Roadway.Proofs.Geometry.Foot
import Roadway.Proofs.Geometry.Heading
import Roadway.Proofs.Geometry.Length
import Roadway.Proofs.Geometry.Nearest
import Roadway.Proofs.Geometry.Parallel
import Roadway.Proofs.Geometry.Plane
import Roadway.Proofs.Geometry.Projection
import Roadway.Proofs.Geometry.Shift
import Roadway.Proofs.Geometry.Usable
import Roadway.Proofs.Json.Numeral
import Roadway.Proofs.Json.Reading
import Roadway.Proofs.Json.Record
import Roadway.Proofs.Json.Written
import Roadway.Proofs.Network.Cells
import Roadway.Proofs.Network.Grid
import Roadway.Proofs.Network.Layout
import Roadway.Proofs.Network.Ranking
import Roadway.Proofs.Network.Shape
import Roadway.Proofs.Network.Tables
import Roadway.Proofs.Network.Tiling
import Roadway.Proofs.Number.Binary64
import Roadway.Proofs.Number.Exact
import Roadway.Proofs.Number.Rank
import Roadway.Proofs.Number.Rounding
import Roadway.Proofs.Number.Shortest
import Roadway.Proofs.Session.Accuracy
import Roadway.Proofs.Session.Bounds
import Roadway.Proofs.Session.Course
import Roadway.Proofs.Session.DeadEnd
import Roadway.Proofs.Session.Departure
import Roadway.Proofs.Session.Encounter
import Roadway.Proofs.Session.Finiteness
import Roadway.Proofs.Session.Heading
import Roadway.Proofs.Session.Interleaving
import Roadway.Proofs.Session.Journey
import Roadway.Proofs.Session.Legality
import Roadway.Proofs.Session.Lifetime
import Roadway.Proofs.Session.Matching
import Roadway.Proofs.Session.Measurement
import Roadway.Proofs.Session.Move
import Roadway.Proofs.Session.Naming
import Roadway.Proofs.Session.Operation
import Roadway.Proofs.Session.Orientation
import Roadway.Proofs.Session.Origin
import Roadway.Proofs.Session.Policy
import Roadway.Proofs.Session.Recovery
import Roadway.Proofs.Session.Refusal
import Roadway.Proofs.Session.Reordering
import Roadway.Proofs.Session.Repetition
import Roadway.Proofs.Session.Restriction
import Roadway.Proofs.Session.Snapshot
import Roadway.Proofs.Session.Standstill
import Roadway.Proofs.Traffic.Approach
import Roadway.Proofs.Traffic.Choice
import Roadway.Proofs.Traffic.Collision
import Roadway.Proofs.Traffic.Distance
import Roadway.Proofs.Traffic.Encounter
import Roadway.Proofs.Traffic.Itinerary
import Roadway.Proofs.Traffic.Passage
import Roadway.Proofs.Traffic.Route
import Roadway.Proofs.Traffic.Walk
import Roadway.Proofs.Wire.Readable
import Roadway.Proofs.Wire.Response
import Roadway.Proofs.Wire.Script
import Roadway.Scalar
import Roadway.Session.Basic
import Roadway.Session.Clock
import Roadway.Session.Command
import Roadway.Session.Fault
import Roadway.Session.Placing
import Roadway.Session.Settings
import Roadway.Session.Snapshot
import Roadway.Session.SpeedFactor
import Roadway.Session.Step
import Roadway.Session.StepTimer
import Roadway.Text.Line
import Roadway.Text.Scan
import Roadway.Toml.Date
import Roadway.Toml.Number
import Roadway.Toml.Reader
import Roadway.Toml.Record
import Roadway.Toml.Text
import Roadway.Toml.Value
import Roadway.Traffic.Collision
import Roadway.Traffic.Motion
import Roadway.Traffic.Route
import Roadway.Traffic.Walk
import Roadway.Wire.Command
import Roadway.Wire.Response
import Roadway.Wire.Script
