import LogQuery.Access.Basic
import LogQuery.Calendar.Date
import LogQuery.Calendar.Duration
import LogQuery.Calendar.Layout
import LogQuery.Calendar.Timestamp
import LogQuery.Columns
import LogQuery.Config
import LogQuery.Console.Arguments
import LogQuery.Console.Desk
import LogQuery.Console.Program
import LogQuery.Console.Surroundings
import LogQuery.Console.Switchboard
import LogQuery.Decimal.Shortest
import LogQuery.Display.History
import LogQuery.Display.Record
import LogQuery.Display.Table
import LogQuery.Execution.Polling
import LogQuery.Execution.Stage
import LogQuery.Files.FileSystem
import LogQuery.Files.Path
import LogQuery.Files.QueryFiles
import LogQuery.Files.Tree
import LogQuery.Json.Access
import LogQuery.Json.Fault
import LogQuery.Json.Reader
import LogQuery.Json.Shape
import LogQuery.Json.ShapeReader
import LogQuery.Json.Tagged
import LogQuery.Json.Value
import LogQuery.Keyed
import LogQuery.LogGroups.Catalog
import LogQuery.LogGroups.Expression
import LogQuery.LogGroups.Pattern
import LogQuery.LogGroups.Store
import LogQuery.Query.Block
import LogQuery.Query.Definition
import LogQuery.QueryError
import LogQuery.Results.Aggregate
import LogQuery.Results.FieldSet
import LogQuery.Row
import LogQuery.Service.Api
import LogQuery.Service.Call
import LogQuery.Service.Exchange
import LogQuery.Service.Layout
import LogQuery.Service.Status
import LogQuery.Service.Task
import LogQuery.Service.Unreachable
import LogQuery.Session.Basic
import LogQuery.Session.Protocol
import LogQuery.Simulation.Machine
import LogQuery.Simulation.Timeline
import LogQuery.Simulation.Trial
import LogQuery.Simulation.World
import LogQuery.Text.Blank
import LogQuery.Text.Case
import LogQuery.Text.CaseData
import LogQuery.Text.Lines
import LogQuery.Text.Numeral
import LogQuery.Text.Quoted
import LogQuery.Text.QuotedData
import LogQuery.Text.Scan
import LogQuery.Text.Utf8
import LogQuery.TimeRange
import LogQuery.Toml.Document
import LogQuery.Toml.Reader
import LogQuery.Toml.Value
import LogQuery.Wire.Query
import LogQuery.Wire.Routed
import LogQuery.Wire.Session
import LogQuery.Main
import LogQuery.Proofs.Execution.Turns
import LogQuery.Proofs.Execution.Submission
import LogQuery.Proofs.Execution.Rounds
import LogQuery.Proofs.Session.History
import LogQuery.Proofs.Session.Moves
import LogQuery.Proofs.Execution.Phases
import LogQuery.Proofs.Session.Segments
import LogQuery.Proofs.Session.Titles
import LogQuery.Proofs.Execution.Trace
import LogQuery.Proofs.Execution.Stopping
import LogQuery.Proofs.Execution.Updates
import LogQuery.Proofs.Execution.Closing
import LogQuery.Proofs.Session.Conduct
import LogQuery.Proofs.Session.Outcome
import LogQuery.Proofs.LogGroups.Searches
import LogQuery.Proofs.LogGroups.Paging
import LogQuery.Proofs.Execution.Barriers
import LogQuery.Proofs.Query.Reading
import LogQuery.Proofs.Session.Provenance
import LogQuery.Proofs.Session.Lineage
import LogQuery.Proofs.Session.Refreshing
import LogQuery.Proofs.Session.Rereading
import LogQuery.Proofs.Session.Replies
import LogQuery.Proofs.Session.Waiting
import LogQuery.Proofs.Session.Resting
import LogQuery.Proofs.Console.Deeds
import LogQuery.Proofs.Console.Lines
import LogQuery.Proofs.Console.Course
import LogQuery.Proofs.Console.Ending
import LogQuery.Proofs.Console.Sessions
import LogQuery.Proofs.Console.Conversing
import LogQuery.Proofs.Text.Blank
import LogQuery.Proofs.Text.Lines
import LogQuery.Proofs.Query.Contents
import LogQuery.Proofs.Query.Settings
import LogQuery.Proofs.Text.Numeral
import LogQuery.Proofs.Query.Parts
import LogQuery.Proofs.Query.Layout
import LogQuery.Proofs.Query.Blocks
import LogQuery.Proofs.Execution.RawRows
import LogQuery.Proofs.Calendar.Shown
import LogQuery.Proofs.Files.Operations
import LogQuery.Proofs.Wire.Restoring
import LogQuery.Proofs.LogGroups.Selection
import LogQuery.Proofs.Columns.Order
import LogQuery.Proofs.Columns.Clauses
import LogQuery.Proofs.Results.Attribution
import LogQuery.Proofs.Columns.Entries
import LogQuery.Proofs.Calendar.Stamps
import LogQuery.Proofs.Calendar.Durations
import LogQuery.Proofs.Display.Table
import LogQuery.Proofs.Execution.Endings
import LogQuery.Proofs.Ordering
import LogQuery.Proofs.Display.History
import LogQuery.Proofs.Display.Record
import LogQuery.Proofs.Display.Values
