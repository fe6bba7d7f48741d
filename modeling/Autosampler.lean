import Autosampler.Bus
import Autosampler.Changer.Action
import Autosampler.Changer.Basic
import Autosampler.Changer.Bookkeeping
import Autosampler.Changer.Plan
import Autosampler.Command
import Autosampler.CommandLine
import Autosampler.Config.Basic
import Autosampler.Config.Check
import Autosampler.Config.Printer
import Autosampler.Config.Reader
import Autosampler.Config.Search
import Autosampler.Decimal.Shortest
import Autosampler.Deflate.Code
import Autosampler.Deflate.Stream
import Autosampler.Error
import Autosampler.Event
import Autosampler.Json.Lexeme
import Autosampler.Json.Printer
import Autosampler.Json.Reader
import Autosampler.Json.Skip
import Autosampler.Json.Value
import Autosampler.Level
import Autosampler.Machine
import Autosampler.Magazine
import Autosampler.Main
import Autosampler.Net.Address
import Autosampler.Operator.Session
import Autosampler.Operator.Token
import Autosampler.Program
import Autosampler.Proofs.Admission
import Autosampler.Proofs.Attempts
import Autosampler.Proofs.Backends
import Autosampler.Proofs.Calls
import Autosampler.Proofs.CleanStart
import Autosampler.Proofs.Consistency
import Autosampler.Proofs.Course
import Autosampler.Proofs.Credentials
import Autosampler.Proofs.CutLine
import Autosampler.Proofs.Dialogue
import Autosampler.Proofs.Fairness
import Autosampler.Proofs.Fetching
import Autosampler.Proofs.FileNames
import Autosampler.Proofs.Grammar
import Autosampler.Proofs.Hearing
import Autosampler.Proofs.InStep
import Autosampler.Proofs.Journal
import Autosampler.Proofs.Keeping
import Autosampler.Proofs.Messages
import Autosampler.Proofs.MountedSlot
import Autosampler.Proofs.Noise
import Autosampler.Proofs.Numerals
import Autosampler.Proofs.Phases
import Autosampler.Proofs.Planning
import Autosampler.Proofs.Presence
import Autosampler.Proofs.Printing
import Autosampler.Proofs.ReadBack
import Autosampler.Proofs.Recovery
import Autosampler.Proofs.Refusal
import Autosampler.Proofs.Repetition
import Autosampler.Proofs.Replay
import Autosampler.Proofs.Rescan
import Autosampler.Proofs.Rollback
import Autosampler.Proofs.Round
import Autosampler.Proofs.RoundTrip
import Autosampler.Proofs.Run
import Autosampler.Proofs.Scan
import Autosampler.Proofs.SlotChanges
import Autosampler.Proofs.Slots
import Autosampler.Proofs.Starting
import Autosampler.Proofs.Switch
import Autosampler.Proofs.Transitions
import Autosampler.Proofs.Uniqueness
import Autosampler.Proofs.Waiting
import Autosampler.Proofs.Waits
import Autosampler.Proofs.Written
import Autosampler.Receiver
import Autosampler.Robot.Connection
import Autosampler.Robot.Dashboard.Client
import Autosampler.Robot.Dashboard.Reply
import Autosampler.Robot.Driver
import Autosampler.Robot.Dummy
import Autosampler.Robot.Message
import Autosampler.Robot.Registry
import Autosampler.Robot.Status
import Autosampler.Snapshot
import Autosampler.Startup
import Autosampler.State
import Autosampler.Station
import Autosampler.Text.Ascii
import Autosampler.Text.Blank
import Autosampler.Text.Hidden
import Autosampler.Text.Lines
import Autosampler.Text.Numeral
import Autosampler.Text.Quoted
import Autosampler.Time.Pace
import Autosampler.Time.Span
import Autosampler.Toml.Document
import Autosampler.Toml.Marked
import Autosampler.Toml.Moment
import Autosampler.Toml.Printer
import Autosampler.Toml.Scalar
import Autosampler.Toml.Table
import Autosampler.Toml.Value
import Autosampler.Vision
import Autosampler.Vision.Camera
import Autosampler.Vision.Png
import Autosampler.Vision.Png.Chunk
import Autosampler.Vision.Png.Header
import Autosampler.Wire.Command
import Autosampler.Wire.Config
import Autosampler.Wire.Names
import Autosampler.Wire.Request
import Autosampler.Wire.Robot
import Autosampler.Wire.Snapshot
