import ClockStretch.Text.Blank
import ClockStretch.Text.Numeral
import ClockStretch.Text.Hex
import ClockStretch.Text.Quoted
import ClockStretch.Text.Utf8
import ClockStretch.Text.Shortest
import ClockStretch.File.System
import ClockStretch.Register
import ClockStretch.Timeout
import ClockStretch.BaseAddress
import ClockStretch.Log.Line
import ClockStretch.Controller
import ClockStretch.Bank
import ClockStretch.Window
import ClockStretch.Json.Value
import ClockStretch.Config.Json
import ClockStretch.Toml.Document
import ClockStretch.Config.Load
import ClockStretch.Config.Variables
import ClockStretch.Request
import ClockStretch.Program
import ClockStretch.Main
import ClockStretch.Proofs.Request.Sequence
import ClockStretch.Proofs.Request.Levels
import ClockStretch.Proofs.Window.Refinement
import ClockStretch.Proofs.Program.Exit
import ClockStretch.Proofs.Bank.Safety
import ClockStretch.Proofs.Window.Interleaving
import ClockStretch.Proofs.Program.Stages
import ClockStretch.Proofs.Config.Resolution
import ClockStretch.Proofs.Request.Failures
import ClockStretch.Proofs.Program.Presentation
import ClockStretch.Proofs.BaseAddress.Text
import ClockStretch.Proofs.Timeout.Text
import ClockStretch.Proofs.Request.Spelling
import ClockStretch.Proofs.Bank.Replay
import ClockStretch.Proofs.Bank.Application
import ClockStretch.Proofs.Bank.Levels
import ClockStretch.Proofs.Bank.ReadBack
import ClockStretch.Proofs.Window.Opening
import ClockStretch.Proofs.Window.Bounds
import ClockStretch.Proofs.Window.Application
import ClockStretch.Proofs.BaseAddress.Grouping
import ClockStretch.Proofs.Bank.Snapshot
import ClockStretch.Proofs.Json.RoundTrip
import ClockStretch.Proofs.Outcome.Report
