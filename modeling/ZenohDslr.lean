import ZenohDslr.Runs
import ZenohDslr.OrderedDict
import ZenohDslr.Writes
import ZenohDslr.Double
import ZenohDslr.ParameterTypes
import ZenohDslr.Fallible
import ZenohDslr.RclMessages
import ZenohDslr.ParameterBackend
import ZenohDslr.ParameterServer
import ZenohDslr.Judgements
import ZenohDslr.AtomicSets
import ZenohDslr.ParameterEvents
import ZenohDslr.Declarations
import ZenohDslr.Constraints
import ZenohDslr.ReadYourWrites
import ZenohDslr.ReadServices
import ZenohDslr.CaptureRuntime
import ZenohDslr.LockOwner
import ZenohDslr.Turns
import ZenohDslr.CaptureMoves
import ZenohDslr.CaptureSerialisation
import ZenohDslr.CaptureLock
import ZenohDslr.GraphIdentity
import ZenohDslr.Persistence
import ZenohDslr.Pruning
import ZenohDslr.PersistedPath
import ZenohDslr.PersistenceWindow
import ZenohDslr.AlignedBytes
import ZenohDslr.ImageCdr
import ZenohDslr.ImageWalk
import ZenohDslr.Pieces
import ZenohDslr.PyText
import ZenohDslr.NativeClientMode
import ZenohDslr.Attempts
import ZenohDslr.ImagePublisher
import ZenohDslr.PublisherLifecycle
import ZenohDslr.ArchivalPath
import ZenohDslr.NativePath
import ZenohDslr.CaptureCorrelation
import ZenohDslr.ParameterServices
import ZenohDslr.Binary32
import ZenohDslr.Broadcasters
import ZenohDslr.ServiceBookkeeping
import ZenohDslr.BroadcasterLinks
import ZenohDslr.StoppedBroadcasters
import ZenohDslr.ExposureParams
import ZenohDslr.ExposureSnapshots
import ZenohDslr.Ranges
import ZenohDslr.ToldRanges
import ZenohDslr.Definitions
import ZenohDslr.TypeStore
import ZenohDslr.TypeRepair
import ZenohDslr.IndependentSets
import ZenohDslr.SetterAgreement
import ZenohDslr.NameListing
import ZenohDslr.ArrayInference
import ZenohDslr.ServableValues
import ZenohDslr.GPhoto2Capture
import ZenohDslr.ExposureArguments
import ZenohDslr.RuntimeRun
import ZenohDslr.RuntimeTakeDown
import ZenohDslr.RuntimeShutdown
import ZenohDslr.ImageFields
import ZenohDslr.ImageReads
import ZenohDslr.ImageTruncation
import ZenohDslr.ImageRestored
import ZenohDslr.Differences
import ZenohDslr.ValueGates
import ZenohDslr.GateSoundness
import ZenohDslr.Collapsing
import ZenohDslr.SafeNames
import ZenohDslr.DerivedNames
import ZenohDslr.Numerals
import ZenohDslr.RouterLocator
import ZenohDslr.ExposureRouter
import ZenohDslr.Boxes
import ZenohDslr.Downsampling
import ZenohDslr.MockBars
import ZenohDslr.Quoting
import ZenohDslr.DecimalText
import ZenohDslr.Json
import ZenohDslr.JsonRoundTrip
import ZenohDslr.CaptureBackends
import ZenohDslr.FrameMetadata
import ZenohDslr.RelayGateway
import ZenohDslr.FrameFlow
import ZenohDslr.Heartbeats
import ZenohDslr.KeyExpressions
import ZenohDslr.KeyRouting
import ZenohDslr.RelayRun
import ZenohDslr.MonitorRun
import ZenohDslr.Fleet
import ZenohDslr.FloatArithmetic
import ZenohDslr.FloatDownsampling
import ZenohDslr.NativeImage
import ZenohDslr.CaptureClient
import ZenohDslr.DownloadChoice
import ZenohDslr.MqttPublisher
import ZenohDslr.ConcurrentSets
import ZenohDslr.ExposureRequests
