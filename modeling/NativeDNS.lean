import NativeDNS.Library.ByteText
import NativeDNS.Library.CheckedResult
import NativeDNS.Library.OrderedMap
import NativeDNS.Model
import NativeDNS.Names
import NativeDNS.Wire.Bytes
import NativeDNS.Wire.Name
import NativeDNS.Wire.NameLocality
import NativeDNS.Network
import NativeDNS.Rules.Options
import NativeDNS.Rules.Validation
import NativeDNS.Rules.Evaluation
import NativeDNS.Rules.Totality
import NativeDNS.Rules.Selection
import NativeDNS.Rules.CanonicalNames
import NativeDNS.Rules.HostMatching
import NativeDNS.Library.DepthFirst
import NativeDNS.Rules.FallbackGraph
import NativeDNS.Router.Members
import NativeDNS.Library.StableOrder
import NativeDNS.Router.Ranking
import NativeDNS.Router.Attempts
import NativeDNS.Router.Bounded
import NativeDNS.Router.Exhaustion
import NativeDNS.Wire.NameText
import NativeDNS.Wire.Question
import NativeDNS.Wire.Query
import NativeDNS.Wire.Records
import NativeDNS.Wire.Response
import NativeDNS.Wire.Synthetic
import NativeDNS.Wire.Lifetime
import NativeDNS.Wire.Aging
import NativeDNS.Wire.AgedReply
import NativeDNS.Router.Group
import NativeDNS.Router.Cache
import NativeDNS.Library.Transition
import NativeDNS.Router.Coalescing
import NativeDNS.Wire.Delivery
import NativeDNS.Router.Provenance
import NativeDNS.Router.CacheKey
import NativeDNS.Router.Freshness
import NativeDNS.Router.Route
import NativeDNS.Router.Answering
import NativeDNS.Router.Policy
import NativeDNS.Wire.Fitting
import NativeDNS.Wire.SyntheticAnswer
import NativeDNS.Interception.Views
import NativeDNS.Interception.Rewrites
import NativeDNS.Interception.Receive
import NativeDNS.Interception.Reinjection
import NativeDNS.Interception.Containment
import NativeDNS.Library.ByteBuffer
import NativeDNS.Library.OnesComplement
import NativeDNS.Ipc.Wire
import NativeDNS.Interception.Checksums
import NativeDNS.Interception.Sealing
import NativeDNS.Interception.Datagram
import NativeDNS.Interception.Reflection
import NativeDNS.Transport.Pool
import NativeDNS.Transport.Plain
import NativeDNS.Transport.Leases
import NativeDNS.Transport.Stale
import NativeDNS.Library.Lists
import NativeDNS.Dnscrypt.Certificate
import NativeDNS.Dnscrypt.Loading
import NativeDNS.Dnscrypt.CertificateKey
import NativeDNS.Dnscrypt.Refresh
import NativeDNS.Logging.Logger
import NativeDNS.Logging.Rows
import NativeDNS.Library.Numbered
import NativeDNS.Logging.Polling
import NativeDNS.Listener.Events
import NativeDNS.Listener.Loop
import NativeDNS.Listener.Proxy
import NativeDNS.Listener.Lifecycle
import NativeDNS.Listener.LinuxInterception
import NativeDNS.Listener.LinuxLifecycle
import NativeDNS.Listener.Watched
import NativeDNS.Listener.ExpectedConnections
import NativeDNS.Listener.Executor
import NativeDNS.Listener.Windows
import NativeDNS.Listener.Service
import NativeDNS.Listener.Tolerance
import NativeDNS.Config.Document
import NativeDNS.Gui.LogRecords
import NativeDNS.Logging.RowLines
import NativeDNS.Unicode.Scalars
import NativeDNS.Unicode.WideText
import NativeDNS.Logging.Utf8Rows
import NativeDNS.Gui.Reattached
import NativeDNS.NetworkMonitor
import NativeDNS.Transport.SecureKey
import NativeDNS.Transport.Sharing
import NativeDNS.Host.Reload
import NativeDNS.Library.Wildcard
import NativeDNS.Gui.LogFilter
import NativeDNS.Gui.FilterMatching
import NativeDNS.Gui.FilterParser
import NativeDNS.Gui.FilterPrinting
import NativeDNS.Gui.FilterLanguage
import NativeDNS.Gui.Configuration
import NativeDNS.Wire.Truncation
import NativeDNS.Wire.RecordTtl
import NativeDNS.Wire.Clamping
import NativeDNS.Library.Chain
import NativeDNS.Wire.AddressChain
import NativeDNS.Library.FilteredWindow
import NativeDNS.Gui.LogPanel
import NativeDNS.Gui.PanelDisplay
import NativeDNS.Interception.Resets
import NativeDNS.Dnscrypt.QuerySize
import NativeDNS.Library.MarkedPadding
import NativeDNS.Dnscrypt.Padding
import NativeDNS.Dnscrypt.Selection
import NativeDNS.Transport.Bootstrap
import NativeDNS.Transport.RetryBudget
import NativeDNS.Library.SingleFlight
import NativeDNS.Transport.BootstrapCalls
import NativeDNS.Transport.BootstrapFlights
import NativeDNS.Transport.BootstrapSharing
import NativeDNS.Library.RankedChoice
import NativeDNS.BootstrapServers
import NativeDNS.Library.Suppression
import NativeDNS.Library.Tickets
import NativeDNS.Logging.Limiter
import NativeDNS.Library.Positions
import NativeDNS.Rules.Editor
import NativeDNS.Library.Interruption
import NativeDNS.Config.Saving
import NativeDNS.Logging.Rotation
import NativeDNS.Library.Response
import NativeDNS.Listener.ExecutorThreads
import NativeDNS.Listener.ExecutorProgress
import NativeDNS.Library.ExactTransfer
import NativeDNS.Wire.TcpFrames
import NativeDNS.Listener.FrameService
import NativeDNS.Listener.WindowsClient
import NativeDNS.Config.Yoga
import NativeDNS.Gui.CoreStarts
import NativeDNS.Gui.AutomaticStarts
import NativeDNS.Library.GuardedAccess
import NativeDNS.Wire.Direct
import NativeDNS.Dnscrypt.CertificateReply
import NativeDNS.Interception.HeaderChain
import NativeDNS.Interception.RoutingQueue
import NativeDNS.Config.XmlBounds
import NativeDNS.Config.XmlAccepted
import NativeDNS.Config.Writing
import NativeDNS.Config.RoundTrip
import NativeDNS.Config.Reloading
import NativeDNS.Ipc.EndpointProgress
import NativeDNS.Host.Shutdown
import NativeDNS.Launch.HostMain
