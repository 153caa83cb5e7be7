import QueueBroker.Broker.Lifecycle
import QueueBroker.Broker.State
import QueueBroker.Client.Connection
import QueueBroker.Command.Arguments
import QueueBroker.Command.Client
import QueueBroker.Command.Server
import QueueBroker.Config.Ini
import QueueBroker.Config.Json5
import QueueBroker.Config.Load
import QueueBroker.Config.Path
import QueueBroker.Config.Ron
import QueueBroker.Config.Setting
import QueueBroker.Config.Settings
import QueueBroker.Config.Toml.Document
import QueueBroker.Config.Toml.Scalar
import QueueBroker.Config.Toml.Value
import QueueBroker.Config.Yaml.Cursor
import QueueBroker.Config.Yaml.Document
import QueueBroker.Config.Yaml.Lexer
import QueueBroker.Config.Yaml.Node
import QueueBroker.Config.Yaml.Scalar
import QueueBroker.Config.Yaml.Token
import QueueBroker.Errno
import QueueBroker.Error
import QueueBroker.Json.Basic
import QueueBroker.Json.Failure
import QueueBroker.Json.Printer
import QueueBroker.Json.Reader
import QueueBroker.Json.Shape
import QueueBroker.Json.Skip
import QueueBroker.Machine.Files
import QueueBroker.Machine.Link
import QueueBroker.Machine.Service
import QueueBroker.Machine.Sockets
import QueueBroker.Main
import QueueBroker.Message
import QueueBroker.Message.Payload
import QueueBroker.Network
import QueueBroker.Number.Binary64
import QueueBroker.Number.Decimal
import QueueBroker.Number.Real
import QueueBroker.Number.Shortest
import QueueBroker.Number.Whole
import QueueBroker.Program
import QueueBroker.Protocol.Frame
import QueueBroker.Protocol.Request
import QueueBroker.Protocol.Response
import QueueBroker.Queue.Destination
import QueueBroker.Queue.Durable
import QueueBroker.Queue.Log
import QueueBroker.Queue.Registry
import QueueBroker.Session.Handling
import QueueBroker.Session.Loop
import QueueBroker.Storage.Disk
import QueueBroker.Storage.FileProgram
import QueueBroker.Text.BigEndian
import QueueBroker.Text.Blank
import QueueBroker.Text.Escape
import QueueBroker.Text.Letter
import QueueBroker.Text.Printable
import QueueBroker.Text.Quoted
import QueueBroker.Text.Utf8
import QueueBroker.Proofs.Runs
import QueueBroker.Proofs.Storage.Faults
import QueueBroker.Proofs.Storage.Folder
import QueueBroker.Proofs.Json.Reading
import QueueBroker.Proofs.Text.BigEndian
import QueueBroker.Proofs.Text.Utf8
import QueueBroker.Proofs.Json.Strings
import QueueBroker.Proofs.Json.Numbers
import QueueBroker.Proofs.Json.Documents
import QueueBroker.Proofs.Json.Trees
import QueueBroker.Proofs.Json.Records
import QueueBroker.Proofs.Json.Cases
import QueueBroker.Proofs.Message.RoundTrip
import QueueBroker.Proofs.Queue.Log
import QueueBroker.Proofs.Queue.Recovery
import QueueBroker.Proofs.Queue.Opening
import QueueBroker.Proofs.Queue.Working
import QueueBroker.Proofs.Queue.Stopping
import QueueBroker.Proofs.Queue.Lives
import QueueBroker.Proofs.Queue.Reopening
import QueueBroker.Proofs.Queue.Agreement
import QueueBroker.Proofs.Broker.Programs
import QueueBroker.Proofs.Broker.Holding
import QueueBroker.Proofs.Broker.Fifo
import QueueBroker.Proofs.Session.Delivery
import QueueBroker.Proofs.Protocol.Stream
import QueueBroker.Proofs.Protocol.Exchange
import QueueBroker.Proofs.Session.Conversation
import QueueBroker.Proofs.Broker.Keeping
import QueueBroker.Proofs.Broker.Stages
import QueueBroker.Proofs.Broker.Turns
import QueueBroker.Proofs.Broker.Linearization
import QueueBroker.Proofs.Broker.Traffic
import QueueBroker.Proofs.Storage.Trees
import QueueBroker.Proofs.Storage.Confinement
import QueueBroker.Proofs.Queue.Confinement
import QueueBroker.Proofs.Broker.Isolation
import QueueBroker.Proofs.Client.Calls
import QueueBroker.Proofs.Client.Line
import QueueBroker.Proofs.Client.Exchanges
import QueueBroker.Proofs.Client.Replies
import QueueBroker.Proofs.Broker.Life
import QueueBroker.Proofs.Broker.Callers
import QueueBroker.Proofs.Broker.Coordination
import QueueBroker.Proofs.Broker.Attendance
import QueueBroker.Proofs.Broker.Conduct
import QueueBroker.Proofs.Broker.Orderly
import QueueBroker.Proofs.Broker.Locks
import QueueBroker.Proofs.Broker.Shutdown
import QueueBroker.Proofs.Broker.Overlap
import QueueBroker.Proofs.Storage.Progress
import QueueBroker.Proofs.Queue.Cursor
import QueueBroker.Proofs.Queue.Outcome
import QueueBroker.Proofs.Queue.Resumption
import QueueBroker.Proofs.Storage.Growth
import QueueBroker.Proofs.Storage.Handles
import QueueBroker.Proofs.Queue.Failure
import QueueBroker.Proofs.Broker.Openings
import QueueBroker.Proofs.Broker.Effects
import QueueBroker.Proofs.Broker.Fates
import QueueBroker.Proofs.Broker.Tasks
import QueueBroker.Proofs.Protocol.Ends
import QueueBroker.Proofs.Session.Clock
import QueueBroker.Proofs.Session.Endings
import QueueBroker.Proofs.Session.Idleness
import QueueBroker.Proofs.Storage.Reports
import QueueBroker.Proofs.Queue.Reports
import QueueBroker.Proofs.Broker.Reports
import QueueBroker.Proofs.Broker.Foresight
import QueueBroker.Proofs.Storage.Entries
import QueueBroker.Proofs.Queue.Entries
import QueueBroker.Proofs.Broker.Lookups
import QueueBroker.Proofs.Number.Notation
import QueueBroker.Proofs.Number.Exactness
import QueueBroker.Proofs.Config.Paths
import QueueBroker.Proofs.Json.Checking
import QueueBroker.Proofs.Config.Sections
import QueueBroker.Proofs.Config.Loaders
import QueueBroker.Proofs.Config.Words
import QueueBroker.Proofs.Config.Overrides
