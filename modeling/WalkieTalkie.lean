import WalkieTalkie.Lib.Runs
import WalkieTalkie.Lib.Registers
import WalkieTalkie.Lib.Rewriting
import WalkieTalkie.Lib.Views
import WalkieTalkie.Lib.Lists
import WalkieTalkie.Lib.Numbering
import WalkieTalkie.Lib.Tables
import WalkieTalkie.Lib.Codings
import WalkieTalkie.Lib.Utf8
import WalkieTalkie.Lib.Paths
import WalkieTalkie.Lib.Cbor
import WalkieTalkie.Lib.Frames
import WalkieTalkie.Lib.Lines
import WalkieTalkie.Lib.Serve
import WalkieTalkie.Lib.Signed
import WalkieTalkie.Lib.Actor
import WalkieTalkie.Lib.Upgrades
import WalkieTalkie.Lib.Radix
import WalkieTalkie.Proto
import WalkieTalkie.NodeIds
import WalkieTalkie.Identity
import WalkieTalkie.Store.Trust
import WalkieTalkie.Auth
import WalkieTalkie.Sample
import WalkieTalkie.Store.Messages
import WalkieTalkie.Store.Columns
import WalkieTalkie.Store.Sequences
import WalkieTalkie.Store.Bus
import WalkieTalkie.Store.Ledger
import WalkieTalkie.Store.Window
import WalkieTalkie.Store.Agents
import WalkieTalkie.Store.Records
import WalkieTalkie.Store.Scope
import WalkieTalkie.Store.Database
import WalkieTalkie.Store.Calls
import WalkieTalkie.Store.Migrations
import WalkieTalkie.Daemon.Trust
import WalkieTalkie.Daemon.Revocation
import WalkieTalkie.Daemon.TokenRows
import WalkieTalkie.Daemon.Selection
import WalkieTalkie.Daemon.Verification
import WalkieTalkie.Daemon.Expiry
import WalkieTalkie.Daemon.Startup
import WalkieTalkie.Daemon.Discovery
import WalkieTalkie.Delivery.Dialling
import WalkieTalkie.Delivery.System
import WalkieTalkie.Delivery.ExactlyOnce
import WalkieTalkie.Delivery.Loss
import WalkieTalkie.Delivery.Fifo
import WalkieTalkie.Delivery.Inbound
import WalkieTalkie.Delivery.Authorised
import WalkieTalkie.Delivery.Cutoff
import WalkieTalkie.Delivery.Drain
import WalkieTalkie.Delivery.Addressing
import WalkieTalkie.Delivery.Tasks
import WalkieTalkie.Delivery.Wakeups
import WalkieTalkie.Delivery.Recovery
import WalkieTalkie.Delivery.Independence
import WalkieTalkie.Delivery.Framing
import WalkieTalkie.Subscription
import WalkieTalkie.Orchestration.Spawn
import WalkieTalkie.Orchestration.Lifecycle
import WalkieTalkie.Orchestration.Reachable
import WalkieTalkie.Orchestration.Kill
import WalkieTalkie.Orchestration.Status
import WalkieTalkie.Orchestration.Ownership
import WalkieTalkie.Orchestration.Agreement
import WalkieTalkie.Orchestration.Requests
import WalkieTalkie.Orchestration.Routing
import WalkieTalkie.Orchestration.Registry
import WalkieTalkie.Orchestration.Scope
import WalkieTalkie.Orchestration.Clients
import WalkieTalkie.Orchestration.Confined
import WalkieTalkie.Orchestration.Boundary
import WalkieTalkie.Orchestration.Isolation
import WalkieTalkie.Workspace
import WalkieTalkie.Orchestration.Rollback
import WalkieTalkie.Orchestration.Failure
import WalkieTalkie.Orchestration.Endpoints
import WalkieTalkie.Orchestration.Respawn
import WalkieTalkie.Orchestration.Workers
import WalkieTalkie.Turns.System
import WalkieTalkie.Turns.Consumption
import WalkieTalkie.Turns.Feeding
import WalkieTalkie.Reading.System
import WalkieTalkie.Reading.NoLoss
import WalkieTalkie.Reading.Follower
import WalkieTalkie.Reading.Order
import WalkieTalkie.Sessions.Harness
import WalkieTalkie.Sessions.Framing
import WalkieTalkie.Sessions.System
import WalkieTalkie.Sessions.Reports
import WalkieTalkie.Sessions.Separation
import WalkieTalkie.Sessions.Pipes
import WalkieTalkie.Sessions.Clock
import WalkieTalkie.Sessions.Outstanding
import WalkieTalkie.Sessions.Idle
import WalkieTalkie.Sessions.Heartbeat
import WalkieTalkie.Ipc.Messages
import WalkieTalkie.Ipc.Dispatch
import WalkieTalkie.Ipc.Replies
import WalkieTalkie.Ipc.Commands
import WalkieTalkie.Ipc.InStep
import WalkieTalkie.Ipc.Listing
import WalkieTalkie.Ipc.Presence
import WalkieTalkie.Inbox.Filter
import WalkieTalkie.Inbox.History
import WalkieTalkie.Inbox.System
import WalkieTalkie.Inbox.Seam
import WalkieTalkie.Gateway.Origin
import WalkieTalkie.Gateway.Transcript
import WalkieTalkie.Gateway.Feed
import WalkieTalkie.Gateway.Dashboard
import WalkieTalkie.Gateway.Panels
import WalkieTalkie.Gateway.Faithful
import WalkieTalkie.Gateway.Attention
import WalkieTalkie.Gateway.Markdown
import WalkieTalkie.Gateway.Markup
import WalkieTalkie.Gateway.SafeMarkup
import WalkieTalkie.Cli.Duration
import WalkieTalkie.Cli.Selector
import WalkieTalkie.Cli.Pasting
import WalkieTalkie.Cli.Pairing
