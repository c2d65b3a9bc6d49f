import Stepwise.Table
import Stepwise.Text.Blank
import Stepwise.Text.Word
import Stepwise.Text.Case
import Stepwise.Text.Revealed
import Stepwise.Text.Utf8
import Stepwise.Decimal.Digits
import Stepwise.Decimal.Binary64
import Stepwise.Decimal.Shortest
import Stepwise.Decimal.Places
import Stepwise.Decimal.Plain
import Stepwise.Json.Basic
import Stepwise.Json.Printer
import Stepwise.Json.Reader
import Stepwise.Json.Decode
import Stepwise.Risk
import Stepwise.Template
import Stepwise.Extract
import Stepwise.Time
import Stepwise.Program.Basic
import Stepwise.Program.Json
import Stepwise.Program.Cursor
import Stepwise.Program.Validation
import Stepwise.Options
import Stepwise.Refusal
import Stepwise.Command
import Stepwise.Run.State
import Stepwise.Run.StateJson
import Stepwise.Run.Attempt
import Stepwise.Run.Evaluate
import Stepwise.Debugger.Command
import Stepwise.Debugger.Inspect
import Stepwise.Debugger.Basic
import Stepwise.Debugger.Json
import Stepwise.Session.Registry
import Stepwise.World
import Stepwise.Shell.Host
import Stepwise.Toml.Reader
import Stepwise.Settings.Load
import Stepwise.Settings.EnvFile
import Stepwise.Console.Line
import Stepwise.Console.Invoke
import Stepwise.Main
import Stepwise.Proofs.Table
import Stepwise.Proofs.Program.Places
import Stepwise.Proofs.Program.WellFormed
import Stepwise.Proofs.Run.Evaluation
import Stepwise.Proofs.Debugger.Operation
import Stepwise.Proofs.Debugger.Rest
import Stepwise.Proofs.Debugger.Trace
import Stepwise.Proofs.Run.Untimed
import Stepwise.Proofs.Debugger.Schedule
import Stepwise.Proofs.Run.Gate
import Stepwise.Proofs.Debugger.Recording
import Stepwise.Proofs.Debugger.SafeMode
import Stepwise.Proofs.Debugger.Extent
import Stepwise.Proofs.Debugger.Environment
import Stepwise.Proofs.Debugger.Undefined
import Stepwise.Proofs.Debugger.Lifting
import Stepwise.Proofs.Run.Reads
import Stepwise.Proofs.Debugger.Untimed
import Stepwise.Proofs.Session.Call
import Stepwise.Proofs.Session.Isolation
import Stepwise.Proofs.Session.Refused
import Stepwise.Proofs.Session.Ceiling
import Stepwise.Proofs.Debugger.Recast
import Stepwise.Proofs.Session.Unattended
import Stepwise.Proofs.Session.Log
import Stepwise.Proofs.Json.Arrangement
import Stepwise.Proofs.Program.Verdict
import Stepwise.Proofs.Json.InOrder
import Stepwise.Proofs.Program.RoundTrip
import Stepwise.Proofs.Program.Flattened
import Stepwise.Proofs.Debugger.Leaving
import Stepwise.Proofs.Debugger.Ended
import Stepwise.Proofs.Time.Calendar
import Stepwise.Proofs.Time.Text
import Stepwise.Proofs.Analysis
import Stepwise.Proofs.Run.Recorded
import Stepwise.Proofs.Run.RoundTrip
import Stepwise.Proofs.Debugger.ReadBack
import Stepwise.Proofs.Run.Attempt
import Stepwise.Proofs.Run.Confined
import Stepwise.Proofs.Debugger.Routes
import Stepwise.Proofs.Debugger.Outcome
import Stepwise.Proofs.Template.Tokens
import Stepwise.Proofs.Template.Pattern
import Stepwise.Proofs.Run.Filling
import Stepwise.Proofs.Text.Case
import Stepwise.Proofs.Risk
import Stepwise.Proofs.Run.Spelling
import Stepwise.Proofs.Extract.Grammar
import Stepwise.Proofs.Extract.Pattern
import Stepwise.Proofs.Extract.Written
import Stepwise.Proofs.Capture
import Stepwise.Proofs.Session.Sweep
import Stepwise.Proofs.Session.Published
import Stepwise.Proofs.Debugger.BlankNames
import Stepwise.Proofs.Console.Line
import Stepwise.Proofs.Decimal.Rounding
import Stepwise.Proofs.Decimal.Scaled
import Stepwise.Proofs.Json.Numeral
import Stepwise.Proofs.Json.Written
import Stepwise.Proofs.Debugger.ValueType
import Stepwise.Proofs.Debugger.Seeded
