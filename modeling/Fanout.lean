import Fanout.App.Invocation
import Fanout.App.Program
import Fanout.Checksum.Crc
import Fanout.Checksum.Md5
import Fanout.Checksum.Sha
import Fanout.Command.Plan
import Fanout.Command.Template
import Fanout.Config.Basic
import Fanout.Config.Execution
import Fanout.Config.Limits
import Fanout.Count
import Fanout.Decimal.Binary
import Fanout.Decimal.Rational
import Fanout.Decimal.Shortest
import Fanout.Decimal.Text
import Fanout.Duration
import Fanout.Host.Fs
import Fanout.Host.Path
import Fanout.Host.System
import Fanout.Job.Basic
import Fanout.Job.Error
import Fanout.Job.Outcome
import Fanout.Job.Status
import Fanout.Json.Basic
import Fanout.Json.Decode
import Fanout.Json.Parse
import Fanout.Json.Print
import Fanout.Log.Event
import Fanout.Log.Filter
import Fanout.Log.Render
import Fanout.Log.Report
import Fanout.Log.Setup
import Fanout.Number.Prime
import Fanout.Main
import Fanout.Posix.Arith
import Fanout.Posix.Builtins
import Fanout.Posix.Dialect
import Fanout.Posix.Fields
import Fanout.Posix.Glob
import Fanout.Posix.Launch
import Fanout.Posix.Lex
import Fanout.Posix.Numeric
import Fanout.Posix.Parse
import Fanout.Posix.Pattern
import Fanout.Posix.Printf
import Fanout.Posix.Process
import Fanout.Posix.Run
import Fanout.Posix.State
import Fanout.Posix.Syntax
import Fanout.Posix.Test
import Fanout.Process.Capture
import Fanout.Process.Runner
import Fanout.Process.Supervise
import Fanout.Process.Terminate
import Fanout.Programs.Awk
import Fanout.Programs.Basic
import Fanout.Programs.Condition
import Fanout.Programs.Digest
import Fanout.Programs.Dump
import Fanout.Programs.Factor
import Fanout.Programs.Expr
import Fanout.Programs.Files
import Fanout.Programs.Info
import Fanout.Programs.Layout
import Fanout.Programs.Listing
import Fanout.Programs.Change
import Fanout.Programs.Batch
import Fanout.Programs.Find
import Fanout.Programs.Grep
import Fanout.Programs.Date
import Fanout.Time.Calendar
import Fanout.Programs.Lines
import Fanout.Programs.Printf
import Fanout.Programs.Sed
import Fanout.Programs.Sort
import Fanout.Programs.Seq
import Fanout.Programs.Translate
import Fanout.Run.Breaker
import Fanout.Run.Error
import Fanout.Run.Listen
import Fanout.Run.Pool
import Fanout.Run.Schedule
import Fanout.Run.Script
import Fanout.Run.Shutdown
import Fanout.Run.Stop
import Fanout.Run.Summary
import Fanout.Shell.Quote
import Fanout.Shell.Words
import Fanout.Text.Blank
import Fanout.Text.Bytes
import Fanout.Text.Digit
import Fanout.Text.Escape
import Fanout.Text.Alphanumeric
import Fanout.Text.Base64
import Fanout.Text.Printable
import Fanout.Text.Regex
import Fanout.Text.Utf8
import Fanout.Proofs.Pool
import Fanout.Proofs.Quote
import Fanout.Proofs.Template
import Fanout.Proofs.Books
import Fanout.Proofs.Tally
import Fanout.Proofs.Accounts
import Fanout.Proofs.Stopping
import Fanout.Proofs.Tail
import Fanout.Proofs.Supervision
import Fanout.Proofs.Placeholders
import Fanout.Proofs.Validation
import Fanout.Proofs.Capture
import Fanout.Proofs.Wire
import Fanout.Proofs.Records
import Fanout.Proofs.Rendered
import Fanout.Proofs.Escalation
import Fanout.Proofs.Refusals
import Fanout.Proofs.Ceilings
import Fanout.Proofs.FloatOrder
import Fanout.Proofs.Durations
import Fanout.Proofs.Spacing
import Fanout.Proofs.SharedHandle
import Fanout.Proofs.Remainder
