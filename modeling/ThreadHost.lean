import ThreadHost.Address.Fault
import ThreadHost.Address.Ipv6
import ThreadHost.Address.Network
import ThreadHost.Calendar
import ThreadHost.Command
import ThreadHost.CommandLine.Arguments
import ThreadHost.Config.Assign
import ThreadHost.Config.Basic
import ThreadHost.Config.Checking
import ThreadHost.Config.File
import ThreadHost.Config.Location
import ThreadHost.Config.NumberText
import ThreadHost.Console.Actions
import ThreadHost.Console.Basic
import ThreadHost.Console.Launch
import ThreadHost.Console.Monitor
import ThreadHost.Console.StatusPanel
import ThreadHost.Dataset.Basic
import ThreadHost.Dataset.Fault
import ThreadHost.Dataset.Fields
import ThreadHost.Dataset.Records
import ThreadHost.Datum
import ThreadHost.Datum.Shown
import ThreadHost.Decimal.Binary
import ThreadHost.Decimal.Fixed
import ThreadHost.Decimal.Shortest
import ThreadHost.Failure
import ThreadHost.FilePath
import ThreadHost.FilePath.Entry
import ThreadHost.Host
import ThreadHost.Line
import ThreadHost.Link.Open
import ThreadHost.Link.Port
import ThreadHost.Link.Process
import ThreadHost.Listener.Basic
import ThreadHost.Listener.Source
import ThreadHost.Log.Level
import ThreadHost.Main
import ThreadHost.Misuse
import ThreadHost.Proofs.Act.Law
import ThreadHost.Proofs.Dataset.Accepted
import ThreadHost.Proofs.Dataset.Records
import ThreadHost.Proofs.Line.Cut
import ThreadHost.Proofs.Session.Access
import ThreadHost.Proofs.Session.Answer
import ThreadHost.Proofs.Session.Close
import ThreadHost.Proofs.Session.Conversation
import ThreadHost.Proofs.Session.Exits
import ThreadHost.Proofs.Session.Lawful
import ThreadHost.Proofs.Session.Notice
import ThreadHost.Proofs.Session.Pairing
import ThreadHost.Proofs.Session.Reference
import ThreadHost.Proofs.Session.Reply
import ThreadHost.Proofs.Session.Waiting
import ThreadHost.Proofs.Text.Hex
import ThreadHost.Proofs.Text.Utf8
import ThreadHost.Scenario.Basic
import ThreadHost.Scenario.Catalogue
import ThreadHost.Scenario.Printed
import ThreadHost.Scenario.Report
import ThreadHost.Seconds
import ThreadHost.Session.Basic
import ThreadHost.Session.Exchange
import ThreadHost.Session.Open
import ThreadHost.Session.Operations
import ThreadHost.Setting
import ThreadHost.Statistics.Root
import ThreadHost.Statistics.Sample
import ThreadHost.Streams
import ThreadHost.Text.Blank
import ThreadHost.Text.DecimalDigit
import ThreadHost.Text.Hex
import ThreadHost.Text.Padded
import ThreadHost.Text.Pieces
import ThreadHost.Text.Printable
import ThreadHost.Text.Quoted
import ThreadHost.Text.Utf8
import ThreadHost.Text.WholeNumber
import ThreadHost.Toml.Document
import ThreadHost.Toml.Flaw
import ThreadHost.Toml.Lexeme
import ThreadHost.Toml.Written
import ThreadHost.Tool.Basic
import ThreadHost.Tool.Latency
import ThreadHost.Tool.Scenarios
import ThreadHost.Tool.Send
import ThreadHost.Waiting
import ThreadHost.Proofs.Session.Conservation
import ThreadHost.Proofs.Session.FailFast
import ThreadHost.Proofs.Scenario.Run
import ThreadHost.Proofs.Session.Role
import ThreadHost.Proofs.Scenario.Formed
import ThreadHost.Proofs.Scenario.Verdict
import ThreadHost.Proofs.Scenario.Reported
import ThreadHost.Proofs.Link.Released
import ThreadHost.Proofs.Session.Opening
import ThreadHost.Proofs.Tool.Released
import ThreadHost.Proofs.Listener.Generation
import ThreadHost.Proofs.Session.Followed
import ThreadHost.Proofs.Console.Window
import ThreadHost.Proofs.Console.Standing
import ThreadHost.Proofs.Console.Lifecycle
import ThreadHost.Proofs.Console.Coherent
import ThreadHost.Proofs.Tool.Unopened
import ThreadHost.Proofs.Waiting.Deadline
import ThreadHost.Proofs.Address.Bits
import ThreadHost.Proofs.Session.OffMesh
import ThreadHost.Proofs.Console.Handled
import ThreadHost.Proofs.Config.Saved
import ThreadHost.Proofs.Dataset.Grammar
import ThreadHost.Proofs.Text.Malformed
import ThreadHost.Proofs.Line.Decoding
import ThreadHost.Proofs.Line.Framing
import ThreadHost.Proofs.Console.Parting
import ThreadHost.Proofs.Config.InUse
import ThreadHost.Proofs.Dataset.Aliases
import ThreadHost.Proofs.Dataset.Created
import ThreadHost.Proofs.Session.Pauses
import ThreadHost.Proofs.Link.Ended
import ThreadHost.Proofs.Session.Closed
import ThreadHost.Proofs.Listener.Attached
import ThreadHost.Proofs.Listener.Failing
import ThreadHost.Proofs.Waiting.Bounded
import ThreadHost.Proofs.Console.Displayed
import ThreadHost.Proofs.Console.Network
import ThreadHost.Proofs.Scenario.Overall
import ThreadHost.Proofs.Session.Answered
import ThreadHost.Proofs.Tool.AllOrNothing
