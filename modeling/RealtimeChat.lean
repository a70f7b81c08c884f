import RealtimeChat.Action
import RealtimeChat.Backoff
import RealtimeChat.Bearer
import RealtimeChat.Client
import RealtimeChat.Client.Timeline
import RealtimeChat.Clock
import RealtimeChat.CommandLine.Arguments
import RealtimeChat.CommandLine.Failure
import RealtimeChat.CommandLine.Listen
import RealtimeChat.CommandLine.Output
import RealtimeChat.CommandLine.Run
import RealtimeChat.CommandLine.Send
import RealtimeChat.Engine
import RealtimeChat.Event
import RealtimeChat.Files
import RealtimeChat.Frame.Incoming
import RealtimeChat.Frame.Outgoing
import RealtimeChat.History
import RealtimeChat.History.Rest
import RealtimeChat.Json
import RealtimeChat.Json.Parser
import RealtimeChat.Json.Printer
import RealtimeChat.Json.Reading
import RealtimeChat.Limits
import RealtimeChat.Main
import RealtimeChat.Message
import RealtimeChat.Notice
import RealtimeChat.Number.Binary64
import RealtimeChat.Number.Decimal
import RealtimeChat.Number.Shortest
import RealtimeChat.OrderedMap
import RealtimeChat.Outbox
import RealtimeChat.Proofs.Backoff
import RealtimeChat.Proofs.Client.Promises
import RealtimeChat.Proofs.Client.Run
import RealtimeChat.Proofs.Client.Tickets
import RealtimeChat.Proofs.Client.Turns
import RealtimeChat.Proofs.Codec
import RealtimeChat.Proofs.CommandLine.Failure
import RealtimeChat.Proofs.Decimal
import RealtimeChat.Proofs.Engine.Accounts
import RealtimeChat.Proofs.Engine.Attempts
import RealtimeChat.Proofs.Engine.Course
import RealtimeChat.Proofs.Engine.Cursors
import RealtimeChat.Proofs.Engine.Deadlines
import RealtimeChat.Proofs.Engine.FanOut
import RealtimeChat.Proofs.Engine.Frames
import RealtimeChat.Proofs.Engine.Gate
import RealtimeChat.Proofs.Engine.Isolation
import RealtimeChat.Proofs.Engine.Kept
import RealtimeChat.Proofs.Engine.Progress
import RealtimeChat.Proofs.Engine.Record
import RealtimeChat.Proofs.Engine.Replay
import RealtimeChat.Proofs.Engine.Resubmission
import RealtimeChat.Proofs.Engine.Resync
import RealtimeChat.Proofs.Engine.Routes
import RealtimeChat.Proofs.Engine.Run
import RealtimeChat.Proofs.Engine.Sending
import RealtimeChat.Proofs.Engine.Settling
import RealtimeChat.Proofs.Engine.Typing
import RealtimeChat.Proofs.Engine.Wire
import RealtimeChat.Proofs.Engine.Works
import RealtimeChat.Proofs.Event
import RealtimeChat.Proofs.Frame.Generations
import RealtimeChat.Proofs.History.Address
import RealtimeChat.Proofs.Json.Members
import RealtimeChat.Proofs.Json.Renaming
import RealtimeChat.Proofs.Json.Text
import RealtimeChat.Proofs.Notice
import RealtimeChat.Proofs.OrderedMap
import RealtimeChat.Proofs.Outbox.Apart
import RealtimeChat.Proofs.Outbox.Attempts
import RealtimeChat.Proofs.Outbox.Chronicle
import RealtimeChat.Proofs.Outbox.Conservation
import RealtimeChat.Proofs.Outbox.Deadlines
import RealtimeChat.Proofs.Outbox.Lane
import RealtimeChat.Proofs.Outbox.Moments
import RealtimeChat.Proofs.Outbox.Moves
import RealtimeChat.Proofs.Outbox.Offers
import RealtimeChat.Proofs.Outbox.Paths
import RealtimeChat.Proofs.Outbox.Provenance
import RealtimeChat.Proofs.Outbox.Representation
import RealtimeChat.Proofs.Outbox.Run
import RealtimeChat.Proofs.Outbox.Sending
import RealtimeChat.Proofs.Outbox.Typing
import RealtimeChat.Proofs.Outbox.Waits
import RealtimeChat.Proofs.Outbox.WireOrder
import RealtimeChat.Proofs.Router
import RealtimeChat.Proofs.Router.FanOut
import RealtimeChat.Proofs.Router.Indicators
import RealtimeChat.Proofs.Router.Run
import RealtimeChat.Proofs.Router.Typing
import RealtimeChat.Proofs.Router.Window
import RealtimeChat.Proofs.Session.Activations
import RealtimeChat.Proofs.Session.Course
import RealtimeChat.Proofs.Session.Deadlines
import RealtimeChat.Proofs.Session.Failures
import RealtimeChat.Proofs.Session.Gate
import RealtimeChat.Proofs.Session.OneConnection
import RealtimeChat.Proofs.Session.Parts
import RealtimeChat.Proofs.Session.Record
import RealtimeChat.Proofs.Session.Schedule
import RealtimeChat.Proofs.Session.Transport
import RealtimeChat.Proofs.Session.Waits
import RealtimeChat.Proofs.Settings
import RealtimeChat.Proofs.Store.Confirmation
import RealtimeChat.Proofs.Store.Copies
import RealtimeChat.Proofs.Store.Order
import RealtimeChat.Proofs.Store.Run
import RealtimeChat.Proofs.Timer
import RealtimeChat.Proofs.Timer.Later
import RealtimeChat.Proofs.Timestamp
import RealtimeChat.Proofs.Url
import RealtimeChat.Router
import RealtimeChat.Router.Dedup
import RealtimeChat.Router.Typing
import RealtimeChat.Session
import RealtimeChat.Session.State
import RealtimeChat.Settings
import RealtimeChat.Settings.Check
import RealtimeChat.Settings.File
import RealtimeChat.Settings.Json
import RealtimeChat.Sha256
import RealtimeChat.Store
import RealtimeChat.Table
import RealtimeChat.Text.Blank
import RealtimeChat.Text.Mark
import RealtimeChat.Text.Printable
import RealtimeChat.Text.Quoted
import RealtimeChat.Text.Ranges
import RealtimeChat.Text.Unassigned
import RealtimeChat.Timer
import RealtimeChat.Timestamp
import RealtimeChat.Timestamp.Text
import RealtimeChat.Toml
import RealtimeChat.Toml.Parser
import RealtimeChat.Toml.Printer
import RealtimeChat.Transport
import RealtimeChat.Transport.Memory
import RealtimeChat.Transport.WebSocket
import RealtimeChat.Url
import RealtimeChat.Url.Domain
import RealtimeChat.Url.Domain.Canonical
import RealtimeChat.Url.Domain.Canonical.Table
import RealtimeChat.Url.Domain.Direction
import RealtimeChat.Url.Domain.Joining
import RealtimeChat.Url.Domain.Table
import RealtimeChat.Url.Host
import RealtimeChat.Url.Percent
import RealtimeChat.Url.Punycode
