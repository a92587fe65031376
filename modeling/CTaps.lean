import CTaps.Lib.Machine
import CTaps.Lib.Traversal
import CTaps.Racing.Winner
import CTaps.Racing.Outcome
import CTaps.Racing.Progress
import CTaps.Racing.MessageRelease
import CTaps.Racing.Timer
import CTaps.Gathering.Interfaces
import CTaps.Gathering.Completion
import CTaps.Attempts.Start
import CTaps.Attempts.Independence
import CTaps.Attempts.Services
import CTaps.Connections.Lifetime
import CTaps.Connections.Isolation
import CTaps.Connections.Window
import CTaps.Connections.Handles
import CTaps.Connections.HalfClose
import CTaps.Connections.GroupClose
import CTaps.Connections.AbortGroup
import CTaps.Connections.Listening
import CTaps.Connections.Failures
import CTaps.Connections.Agreement
import CTaps.Connections.QuicClose
import CTaps.Connections.PeerStreams
import CTaps.Connections.Announcements
import CTaps.Lifetimes.Releases
import CTaps.Lifetimes.Registry
import CTaps.Lifetimes.Routing
import CTaps.Lifetimes.Discarded
import CTaps.Lifetimes.FailedStart
import CTaps.Messages.Memory
import CTaps.Messages.Delivery
import CTaps.Messages.Gating
import CTaps.Messages.FailedSend
import CTaps.Messages.Permissions
import CTaps.Messages.EitherOrder
import CTaps.Demux.Listener
import CTaps.Endpoints.Binding
import CTaps.Endpoints.MessageEndpoints
import CTaps.Quic.AlpnSelection
import CTaps.Properties.SecurityCopy
import CTaps.Properties.Preferences
import CTaps.Lifetimes.Insertion
import CTaps.Lifetimes.Uuid
import CTaps.Endpoints.PathProbing
import CTaps.Initiate.Listen
import CTaps.Attempts.Resolution
