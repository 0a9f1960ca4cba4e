import Narrative.CommandLine.Basic
import Narrative.CommandLine.Options
import Narrative.CommandLine.Paths
import Narrative.Config.Basic
import Narrative.Config.Codec
import Narrative.Config.OfText
import Narrative.Decimal.Shortest
import Narrative.Disk.Answers
import Narrative.Disk.Basic
import Narrative.Disk.Fault
import Narrative.Disk.Tree
import Narrative.Json.Basic
import Narrative.Json.Number
import Narrative.Json.Printer
import Narrative.Json.Reader
import Narrative.Json.Record
import Narrative.Json.Refusal
import Narrative.Json.Scan
import Narrative.Json.Skip
import Narrative.Json.Token
import Narrative.Json.Typed
import Narrative.Keyed
import Narrative.LogLine
import Narrative.Main
import Narrative.Noted
import Narrative.Path
import Narrative.Player.Basic
import Narrative.Player.Codec
import Narrative.Player.Course
import Narrative.Player.Position
import Narrative.Player.Signal
import Narrative.Proofs.Script.Passing
import Narrative.Proofs.Script.Reachability
import Narrative.Repository
import Narrative.Scene.Basic
import Narrative.Scene.Codec
import Narrative.Scene.Console
import Narrative.Scene.Headless
import Narrative.Scene.Media
import Narrative.Scene.Stage
import Narrative.Script.Basic
import Narrative.Script.Check
import Narrative.Script.Codec
import Narrative.Script.Cycle
import Narrative.Script.Finding
import Narrative.Script.Fresh
import Narrative.Script.Journey
import Narrative.Script.Load
import Narrative.Script.OfJson
import Narrative.Script.Reach
import Narrative.Session.Basic
import Narrative.Session.Command
import Narrative.Session.Piece
import Narrative.Text.Blank
import Narrative.Text.Combining
import Narrative.Text.Numeral
import Narrative.Text.Printable
import Narrative.Text.Quoted
import Narrative.Proofs.Script.LinelessCycle
import Narrative.Proofs.Script.Coherence
import Narrative.Proofs.Script.Findings
import Narrative.Proofs.Player.Course
import Narrative.Proofs.Player.Rest
import Narrative.Proofs.Player.Sound
import Narrative.Proofs.Check.Announced
import Narrative.Proofs.Json.Distinct
import Narrative.Proofs.Script.Loaded
import Narrative.Proofs.Player.Attained
import Narrative.Proofs.Check.Reached
import Narrative.Proofs.Scene.Slots
import Narrative.Proofs.Scene.Renderer
import Narrative.Proofs.Player.Calls
import Narrative.Proofs.Player.Refusal
import Narrative.Proofs.Player.Bound
import Narrative.Proofs.Player.Rendering
import Narrative.Proofs.Scene.Reload
import Narrative.Proofs.Script.Acyclic
import Narrative.Proofs.Script.Branches
import Narrative.Proofs.Player.Branches
import Narrative.Proofs.Scene.Failures
import Narrative.Proofs.Player.Diagnostics
import Narrative.Proofs.Player.Linear
import Narrative.Proofs.Player.Alike
import Narrative.Proofs.Player.Onward
import Narrative.Proofs.Session.Lines
import Narrative.Proofs.Session.Plays
import Narrative.Proofs.Session.Verdict
import Narrative.Proofs.Session.Choosing
import Narrative.Proofs.Path
import Narrative.Proofs.Disk.Directory
import Narrative.Proofs.Repository.Listing
import Narrative.Proofs.Repository.Agreement
import Narrative.Proofs.Repository.Served
import Narrative.Proofs.Script.Chain
import Narrative.Proofs.Player.Entering
import Narrative.Proofs.Check.Cycles
import Narrative.Proofs.Check.CycleStart
import Narrative.Proofs.Scene.Reports
import Narrative.Proofs.Player.Place
import Narrative.Proofs.Script.Kept
import Narrative.Proofs.Json.Loss
import Narrative.Proofs.Script.Unseen
import Narrative.Proofs.Player.Completion
import Narrative.Proofs.Session.Debug
import Narrative.Proofs.Path.Way
import Narrative.Proofs.Disk.Way
import Narrative.Proofs.CommandLine.Loading
import Narrative.Proofs.CommandLine.Items
import Narrative.Proofs.CommandLine.Precedence
import Narrative.Proofs.Script.Order
import Narrative.Proofs.Scene.Alarms
import Narrative.Proofs.Player.Log
