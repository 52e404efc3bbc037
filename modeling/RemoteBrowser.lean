import RemoteBrowser.Async.Program
import RemoteBrowser.Async.Path
import RemoteBrowser.Async.System
import RemoteBrowser.Async.Monitor
import RemoteBrowser.Redis.Keyspace
import RemoteBrowser.Session.Record
import RemoteBrowser.Session.Token
import RemoteBrowser.Session.Store
import RemoteBrowser.Session.Expiry
import RemoteBrowser.Pool.Store
import RemoteBrowser.Pool.Records
import RemoteBrowser.Pool.Leases
import RemoteBrowser.ControlPlane.State
import RemoteBrowser.ControlPlane.Handlers
import RemoteBrowser.ControlPlane.Footprint
import RemoteBrowser.ControlPlane.Jobs
import RemoteBrowser.ControlPlane.Effects
import RemoteBrowser.ControlPlane.Sockets
import RemoteBrowser.ControlPlane.Oversight
import RemoteBrowser.ControlPlane.Termination
import RemoteBrowser.ControlPlane.Custody
import RemoteBrowser.ControlPlane.Workers
import RemoteBrowser.ControlPlane.Fencing
import RemoteBrowser.ControlPlane.WarmPool
import RemoteBrowser.ControlPlane.PoolOwnership
import RemoteBrowser.ControlPlane.Reconnect
import RemoteBrowser.ControlPlane.Registration
import RemoteBrowser.ControlPlane.Signals
import RemoteBrowser.ControlPlane.Rescue
import RemoteBrowser.ControlPlane.Fallback
import RemoteBrowser.ControlPlane.SingleSession
import RemoteBrowser.Sorting.Rank
import RemoteBrowser.Async.Alone
import RemoteBrowser.Session.Listing
import RemoteBrowser.ControlPlane.Reaping
import RemoteBrowser.Events.Sequence
import RemoteBrowser.Events.Machine
import RemoteBrowser.Viewer.Input
import RemoteBrowser.Viewer.Typing
import RemoteBrowser.Viewer.Keys
import RemoteBrowser.Worker.Pointer
import RemoteBrowser.Worker.Clicks
import RemoteBrowser.Renegotiation.Peers
import RemoteBrowser.Renegotiation.Deadlock
import RemoteBrowser.Swg.Bootstrap
import RemoteBrowser.Swg.Idempotency
import RemoteBrowser.Swg.Handoff
import RemoteBrowser.Swg.Replay
import RemoteBrowser.Swg.ViewerEntry
import RemoteBrowser.Text.Lines
import RemoteBrowser.Text.Whitespace
import RemoteBrowser.Swg.Canonical
import RemoteBrowser.Swg.Envelope
import RemoteBrowser.Swg.Agreement
import RemoteBrowser.Swg.Admission
import RemoteBrowser.Json.Value
import RemoteBrowser.Json.Reencoding
import RemoteBrowser.Pool.Index
import RemoteBrowser.Swg.Refresh
import RemoteBrowser.Gateway.Signaling
import RemoteBrowser.Gateway.Workers
import RemoteBrowser.Gateway.Assignment
import RemoteBrowser.Async.Erasure
import RemoteBrowser.Json.DeepEqual
import RemoteBrowser.Json.Marshal
import RemoteBrowser.MediaGateway.Contracts
import RemoteBrowser.MediaGateway.Relay
import RemoteBrowser.MediaGateway.Replay
import RemoteBrowser.MediaGateway.Quota
import RemoteBrowser.MediaGateway.Creation
import RemoteBrowser.MediaGateway.Atomicity
import RemoteBrowser.MediaGateway.Idempotence
import RemoteBrowser.MediaGateway.Hub
import RemoteBrowser.MediaGateway.Sections
import RemoteBrowser.MediaGateway.Sweep
import RemoteBrowser.MediaGateway.Stay
import RemoteBrowser.MediaGateway.Handover
import RemoteBrowser.MediaGateway.Fifo
import RemoteBrowser.MediaGateway.Accounting
import RemoteBrowser.SessionAuthority.Contracts
import RemoteBrowser.SessionAuthority.Bootstrap
import RemoteBrowser.SessionAuthority.Transactions
import RemoteBrowser.SessionAuthority.Once
import RemoteBrowser.Text.Percent
import RemoteBrowser.MediaGateway.Urls
import RemoteBrowser.MediaGateway.Responses
import RemoteBrowser.MediaGateway.Routes
import RemoteBrowser.Gateway.ServicePrefix
import RemoteBrowser.SessionAuthority.Acceptance
import RemoteBrowser.Wire.Bytes
import RemoteBrowser.MediaGateway.Frames
import RemoteBrowser.MediaGateway.ControlFrames
import RemoteBrowser.MediaGateway.Pending
import RemoteBrowser.SessionAuthority.Placement
import RemoteBrowser.Clipboard.Broker
import RemoteBrowser.ControlPlane.Cookies
import RemoteBrowser.Session.Window
import RemoteBrowser.MediaGateway.DataQueues
import RemoteBrowser.MediaGateway.DataOrder
import RemoteBrowser.MediaGateway.RelayClosing
import RemoteBrowser.Session.Ownership
import RemoteBrowser.ControlPlane.Upgrade
import RemoteBrowser.Pool.Oldest
import RemoteBrowser.Viewer.Viewport
import RemoteBrowser.Launch.HostAgents
import RemoteBrowser.Launch.Kubernetes
import RemoteBrowser.Text.Utf8
import RemoteBrowser.Text.Base64
import RemoteBrowser.Json.Data
import RemoteBrowser.Session.SignedToken
import RemoteBrowser.Capture.SourceCoupled
import RemoteBrowser.Viewer.Wheel
import RemoteBrowser.Viewer.Signaling
import RemoteBrowser.Text.Utf16
import RemoteBrowser.Viewer.TextBatcher
import RemoteBrowser.Events.Runs
import RemoteBrowser.Capture.Track
import RemoteBrowser.Capture.InteractionMode
import RemoteBrowser.Capture.Pipeline
import RemoteBrowser.Text.Python
import RemoteBrowser.Worker.Sdp
import RemoteBrowser.Worker.SdpRewrite
import RemoteBrowser.Worker.SdpSections
import RemoteBrowser.Json.Quote
import RemoteBrowser.Json.Fingerprint
import RemoteBrowser.Json.Stringify
import RemoteBrowser.Telemetry.Redaction
import RemoteBrowser.Telemetry.Batches
import RemoteBrowser.Worker.InputAcks
import RemoteBrowser.Worker.InputAckTasks
import RemoteBrowser.ControlPlane.Authority
import RemoteBrowser.Capture.AudioSync
import RemoteBrowser.MediaGateway.Owners
import RemoteBrowser.Capture.PulseAudio
import RemoteBrowser.Worker.Cdp
import RemoteBrowser.Sorting.NearestRank
import RemoteBrowser.Viewer.InputSlo
