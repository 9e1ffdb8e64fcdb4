import DaemonConsole.Channel.Basic
import DaemonConsole.Channel.Daemon
import DaemonConsole.Channel.Preset
import DaemonConsole.CommandLine
import DaemonConsole.Config.Basic
import DaemonConsole.Config.Datum
import DaemonConsole.Config.Decode
import DaemonConsole.Config.File
import DaemonConsole.Config.Validation
import DaemonConsole.Console.Loop
import DaemonConsole.Console.Rendering
import DaemonConsole.Console.Script
import DaemonConsole.Decimal.Basic
import DaemonConsole.Decimal.Shortest
import DaemonConsole.Decimal.Spelling
import DaemonConsole.Decimal.Value
import DaemonConsole.Editor.Completer
import DaemonConsole.Editor.History
import DaemonConsole.Editor.HistoryFile
import DaemonConsole.Error
import DaemonConsole.Files
import DaemonConsole.Json.Reader
import DaemonConsole.Json.Value
import DaemonConsole.Layer.Basic
import DaemonConsole.Layer.Datagrams
import DaemonConsole.Layer.Fault
import DaemonConsole.Layer.Interfaces
import DaemonConsole.Layer.Kind
import DaemonConsole.Layer.Ports
import DaemonConsole.Layer.Routes
import DaemonConsole.Layer.Streams
import DaemonConsole.Log.Directive
import DaemonConsole.Log.Entry
import DaemonConsole.Log.Filter
import DaemonConsole.Main
import DaemonConsole.Menu.Basic
import DaemonConsole.Menu.Command
import DaemonConsole.Menu.Completion
import DaemonConsole.Network.Address
import DaemonConsole.Network.Endpoint
import DaemonConsole.Network.Subnet
import DaemonConsole.Paths
import DaemonConsole.Pattern.Basic
import DaemonConsole.Pattern.Brackets
import DaemonConsole.Pattern.Escape
import DaemonConsole.Pattern.Reader
import DaemonConsole.Program.Activity
import DaemonConsole.Program.Run
import DaemonConsole.Report
import DaemonConsole.Session
import DaemonConsole.Table
import DaemonConsole.Text.Alphanumeric
import DaemonConsole.Text.Blank
import DaemonConsole.Text.Bytes
import DaemonConsole.Text.Lowercase
import DaemonConsole.Text.Numeral
import DaemonConsole.Text.Quoted
import DaemonConsole.Text.Ranges
import DaemonConsole.Text.Terminal
import DaemonConsole.Text.Unprintable
import DaemonConsole.Text.Utf8
import DaemonConsole.Toml.Reader
import DaemonConsole.Toml.Scalar
import DaemonConsole.Toml.Tree
import DaemonConsole.Proofs.Session.Record
import DaemonConsole.Proofs.Session.Coherence
import DaemonConsole.Proofs.Config.WellFormed
import DaemonConsole.Proofs.Layer.Replies
import DaemonConsole.Proofs.Session.Requests
import DaemonConsole.Proofs.Channel.Hosting
import DaemonConsole.Proofs.Session.Hosted
import DaemonConsole.Proofs.Console.Fold
import DaemonConsole.Proofs.Console.Streams
import DaemonConsole.Proofs.Console.Interrupts
import DaemonConsole.Proofs.Channel.Calls
import DaemonConsole.Proofs.Channel.Isolation
import DaemonConsole.Proofs.Channel.Erasure
import DaemonConsole.Proofs.Menu.Completion
import DaemonConsole.Proofs.Session.Completion
import DaemonConsole.Proofs.Layer.RouteTable
import DaemonConsole.Proofs.Network.Leading
import DaemonConsole.Proofs.Layer.Reachability
import DaemonConsole.Proofs.Network.Address
import DaemonConsole.Proofs.Text.Words
import DaemonConsole.Proofs.Layer.Listings
import DaemonConsole.Proofs.Console.ReportLines
import DaemonConsole.Proofs.Console.Script
import DaemonConsole.Proofs.Session.Spacing
import DaemonConsole.Proofs.Console.Transcript
import DaemonConsole.Proofs.Config.Startup
import DaemonConsole.Proofs.Config.Fields
import DaemonConsole.Proofs.Config.Decoding
import DaemonConsole.Proofs.Config.RoundTrip
import DaemonConsole.Proofs.Session.Moves
import DaemonConsole.Proofs.Layer.RouteHistory
import DaemonConsole.Proofs.Layer.Destinations
import DaemonConsole.Proofs.Layer.StreamHistory
import DaemonConsole.Proofs.Text.Spelling
import DaemonConsole.Proofs.Layer.Ports
import DaemonConsole.Proofs.Layer.DatagramHistory
import DaemonConsole.Proofs.Layer.InterfaceHistory
import DaemonConsole.Proofs.Config.Faults
import DaemonConsole.Proofs.Menu.Rounds
import DaemonConsole.Proofs.Menu.Replay
import DaemonConsole.Proofs.Editor.Completer
import DaemonConsole.Proofs.Session.Prompts
import DaemonConsole.Proofs.Console.WrittenScript
import DaemonConsole.Proofs.Layer.Quotes
import DaemonConsole.Proofs.Console.ErrorLines
import DaemonConsole.Proofs.Network.Membership
import DaemonConsole.Proofs.Menu.Cursors
import DaemonConsole.Proofs.Text.FirstWord
