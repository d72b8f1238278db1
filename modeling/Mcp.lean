import Mcp.Decimal.Shortest
import Mcp.Text.Blank
import Mcp.Text.Utf8
import Mcp.Text.Quoted
import Mcp.Json.Printer
import Mcp.Json.Parser
import Mcp.Json.Record
import Mcp.Url.Parser
import Mcp.Message.Parser
import Mcp.Schema.Handshake
import Mcp.Schema.Tool
import Mcp.Schema.Resource
import Mcp.Schema.Prompt
import Mcp.Schema.Logging
import Mcp.Schema.Root
import Mcp.Yaml.Reader
import Mcp.Config.Check
import Mcp.Config.Load
import Mcp.Config.Connector
import Mcp.Transport.Lines
import Mcp.Transport.Child
import Mcp.CommandLine.Options
import Mcp.Logging.Filter
import Mcp.Shell.Run
import Mcp.EventStream.Whole
import Mcp.EventStream.Reader
import Mcp.EventStream.Written
import Mcp.Session.Step
import Mcp.Client.Hooks
import Mcp.Scenario.Session
import Mcp.Scenario.Memory
import Mcp.Scenario.Remote
import Mcp.Scenario.Toolbox
import Mcp.Scenario.Client
import Mcp.Scenario.Child
import Mcp.Scenario.Command
import Mcp.Main
import Mcp.Proofs.Session.Moves
import Mcp.Proofs.Session.Table
import Mcp.Proofs.Session.Accounts
import Mcp.Proofs.Session.Life
import Mcp.Proofs.Session.Lives
import Mcp.Proofs.Session.Outcomes
import Mcp.Proofs.EventStream.Block
import Mcp.Proofs.EventStream.Decoder
import Mcp.Proofs.EventStream.Whole
import Mcp.Proofs.Json.Ordered
import Mcp.Proofs.Json.ReadBack
import Mcp.Proofs.Json.Parsed
import Mcp.Proofs.Message.Reading
import Mcp.Proofs.Message.RoundTrip
import Mcp.Proofs.Session.Closing
import Mcp.Proofs.Client.Gate
import Mcp.Proofs.Client.Lifecycle
import Mcp.Proofs.Transport.Lines
import Mcp.Proofs.Transport.Memory
import Mcp.Proofs.Toolbox.Calls
import Mcp.Proofs.Session.Answers
import Mcp.Proofs.EventStream.Routing
import Mcp.Proofs.Session.Graceful
import Mcp.Proofs.Session.Records
import Mcp.Proofs.Client.Refreshes
import Mcp.Proofs.Transport.ChildStatus
import Mcp.Proofs.Transport.ChildTeardown
import Mcp.Proofs.Transport.ChildQueue
import Mcp.Proofs.Transport.ChildWriting
import Mcp.Proofs.Session.Face
import Mcp.Proofs.Session.InStep
import Mcp.Proofs.Session.Alike
import Mcp.Proofs.Session.Transit
import Mcp.Proofs.Session.Stray
import Mcp.Proofs.Message.Kinds
import Mcp.Proofs.Client.Pages
import Mcp.Proofs.Session.Twins
import Mcp.Proofs.Command.Forms
import Mcp.Proofs.Session.Awaiting
import Mcp.Proofs.Client.Waiting
import Mcp.Proofs.Session.Deeds
import Mcp.Proofs.Client.Consumers
import Mcp.Proofs.Toolbox.Listings
import Mcp.Proofs.Json.Wire
import Mcp.Proofs.Schema.RoundTrip
import Mcp.Proofs.Config.Load
import Mcp.Proofs.Config.Check
import Mcp.Proofs.EventStream.RoundTrip
import Mcp.Proofs.Toolbox.Asking
import Mcp.Proofs.Transport.RemoteSteps
import Mcp.Proofs.Transport.RemoteSends
import Mcp.Proofs.Transport.RemoteOrder
