import TableSync.Audit
import TableSync.Catalog
import TableSync.Commit.Coordinator
import TableSync.Config.Sync
import TableSync.Config.Write
import TableSync.Csv.Directory
import TableSync.Csv.Scan
import TableSync.Csv.Typing
import TableSync.Csv.Window
import TableSync.Decimal.Binary64
import TableSync.Decimal.Power
import TableSync.Decimal.Reading
import TableSync.Decimal.Rounding
import TableSync.Decimal.Shortest
import TableSync.Failure.Basic
import TableSync.Failure.Kind
import TableSync.Failure.Reading
import TableSync.Fields
import TableSync.Filter.Eval
import TableSync.Filter.Expr
import TableSync.Filter.Operand
import TableSync.Filter.Question
import TableSync.Filter.Token
import TableSync.Frame.Basic
import TableSync.Frame.Concat
import TableSync.Frame.Inference
import TableSync.Frame.Records
import TableSync.Http.Exchange
import TableSync.Http.Paged
import TableSync.Json.Reader
import TableSync.Json.Writer
import TableSync.Log
import TableSync.Log.Template
import TableSync.Main
import TableSync.Number
import TableSync.Program
import TableSync.Record.Dedup
import TableSync.Record.Key
import TableSync.Record.Prepared
import TableSync.Rehearsal.Basic
import TableSync.Rehearsal.Descriptions
import TableSync.Rehearsal.Files
import TableSync.Rehearsal.Program
import TableSync.Rehearsal.Rounds
import TableSync.Rehearsal.Sources
import TableSync.Retry
import TableSync.Round.Basic
import TableSync.Round.Reading
import TableSync.Round.Result
import TableSync.Round.Run
import TableSync.Schedule
import TableSync.Schema
import TableSync.Settings
import TableSync.Source
import TableSync.Store.Basic
import TableSync.Store.Client
import TableSync.Store.Commit
import TableSync.Store.Instant
import TableSync.Store.Rows
import TableSync.Store.Staging
import TableSync.Store.Table
import TableSync.Text.Base64
import TableSync.Text.Blank
import TableSync.Text.Case
import TableSync.Text.Glob
import TableSync.Text.Integer
import TableSync.Text.Printable
import TableSync.Text.Quoted
import TableSync.Text.Split
import TableSync.Timeline
import TableSync.Timeline.Resume
import TableSync.Timestamp
import TableSync.Transform
import TableSync.Validation
import TableSync.Value
import TableSync.Value.Order
import TableSync.Value.Text
import TableSync.World
import TableSync.Write.Outcome
import TableSync.Proofs.Effect
import TableSync.Proofs.Retry
import TableSync.Proofs.Round.Site
import TableSync.Proofs.Round.Stage
import TableSync.Proofs.Round.Protocol
import TableSync.Proofs.Store.Applied
import TableSync.Proofs.Store.Transaction
import TableSync.Proofs.Store.Commits
import TableSync.Proofs.Store.Exposed
import TableSync.Proofs.Round.Alone
import TableSync.Proofs.Store.Written
import TableSync.Proofs.Round.Course
import TableSync.Proofs.Round.AllOrNothing
import TableSync.Proofs.Config.Target
import TableSync.Proofs.Round.Continuity
import TableSync.Proofs.Round.Visibility
import TableSync.Proofs.Store.Completion
import TableSync.Proofs.Round.Process
import TableSync.Proofs.Round.Cluster
import TableSync.Proofs.Round.Opening
import TableSync.Proofs.Store.Change
import TableSync.Proofs.Store.History
import TableSync.Proofs.Store.Lifecycle
import TableSync.Proofs.Store.Order
import TableSync.Proofs.Store.Replay
import TableSync.Proofs.Round.Override
import TableSync.Proofs.Store.Part
import TableSync.Proofs.Store.Twins
import TableSync.Proofs.Store.Separation
import TableSync.Proofs.Store.Start
import TableSync.Proofs.Commit.Watch
import TableSync.Proofs.Commit.Protocol
import TableSync.Proofs.Commit.Lifetime
import TableSync.Proofs.Commit.Start
import TableSync.Proofs.Commit.Complaints
import TableSync.Proofs.Http.Attempts
import TableSync.Proofs.Http.Cut
import TableSync.Proofs.Http.Service
import TableSync.Proofs.Http.Window
import TableSync.Proofs.Csv.Selection
import TableSync.Proofs.Csv.Fetch
import TableSync.Proofs.Csv.Turns
import TableSync.Proofs.Value.Exact
import TableSync.Proofs.Record.Newest
import TableSync.Proofs.Store.Examined
import TableSync.Proofs.Store.Combined
import TableSync.Proofs.Record.Once
import TableSync.Proofs.Round.Sure
import TableSync.Proofs.Round.Insertable
import TableSync.Proofs.Pairs
import TableSync.Proofs.Round.Aided
import TableSync.Proofs.Round.Empty
import TableSync.Proofs.Round.Blindness
import TableSync.Proofs.Round.Helpers
import TableSync.Proofs.Store.Compaction
import TableSync.Proofs.Store.Accepted
import TableSync.Proofs.Round.Rest
import TableSync.Proofs.Round.Trail
import TableSync.Proofs.Store.Accounting
import TableSync.Proofs.Store.Ways
import TableSync.Proofs.Frame.Widened
import TableSync.Proofs.Record.Winners
import TableSync.Proofs.Http.Onward
import TableSync.Proofs.Http.Surfacing
import TableSync.Proofs.Decimal.Whole
import TableSync.Proofs.Decimal.Nearest
import TableSync.Proofs.Decimal.Stands
import TableSync.Proofs.Decimal.Places
import TableSync.Proofs.Frame.Survives
import TableSync.Proofs.Frame.Below
import TableSync.Proofs.Csv.Columns
import TableSync.Proofs.Csv.Together
import TableSync.Proofs.Record.Stages
import TableSync.Proofs.Record.Clash
import TableSync.Proofs.Store.Latest
import TableSync.Proofs.Round.Resumption
import TableSync.Proofs.Csv.Budget
import TableSync.Proofs.Failure.Classes
import TableSync.Proofs.Retry.Tries
import TableSync.Proofs.Time.Calendar
import TableSync.Proofs.Time.InstantTime
import TableSync.Proofs.Record.Preparation
import TableSync.Proofs.Store.Description
