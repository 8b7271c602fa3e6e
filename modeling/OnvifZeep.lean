import OnvifZeep.TaskPool
import OnvifZeep.Callers
import OnvifZeep.Once
import OnvifZeep.OrderedDict
import OnvifZeep.Binary64
import OnvifZeep.Exceptions
import OnvifZeep.DateTime
import OnvifZeep.Wrappers
import OnvifZeep.XmlTree
import OnvifZeep.Retries
import OnvifZeep.SqliteCache
import OnvifZeep.DocumentCache
import OnvifZeep.BaseManager
import OnvifZeep.ManagerTasks
import OnvifZeep.Runs
import OnvifZeep.ManagerLoop
import OnvifZeep.RenewalTimer
import OnvifZeep.UrlParse
import OnvifZeep.UrlUtil
import OnvifZeep.Client
import OnvifZeep.Discovery
import OnvifZeep.Rediscovery
import OnvifZeep.Registry
import OnvifZeep.ServiceCreation
import OnvifZeep.ClockSkew
import OnvifZeep.RegistryTasks
import OnvifZeep.RegistryIntegrity
import OnvifZeep.Managers
import OnvifZeep.FailedRestart
import OnvifZeep.RestartSteps
import OnvifZeep.Containment
import OnvifZeep.RenewalTiming
import OnvifZeep.Replay
import OnvifZeep.TaskHistories
import OnvifZeep.RenewalStorm
import OnvifZeep.Isolation
import OnvifZeep.SharedCamera
import OnvifZeep.SharedInvariant
import OnvifZeep.DeviceInvariant
import OnvifZeep.CameraInUse
import OnvifZeep.CreationFailure
import OnvifZeep.Timestamps
import OnvifZeep.IsoFormat
import OnvifZeep.IsoParsers
import OnvifZeep.TimestampRepair
import OnvifZeep.TimestampSafety
import OnvifZeep.CalendarText
import OnvifZeep.TerminationTime
import OnvifZeep.NatRewrite
import OnvifZeep.SubscriptionLease
import OnvifZeep.AbsoluteTimes
import OnvifZeep.ServiceLives
import OnvifZeep.ManagerStart
import OnvifZeep.UrlRoundTrip
import OnvifZeep.BehindNat
import OnvifZeep.UrlAuthority
import OnvifZeep.HostRewrite
import OnvifZeep.PortCollapse
import OnvifZeep.Credentials
import OnvifZeep.Obscuring
import OnvifZeep.Snapshot
import OnvifZeep.YarlText
import OnvifZeep.SnapshotErrors
import OnvifZeep.Stripping
import OnvifZeep.WsAddressing
import OnvifZeep.CapabilityFetch
import OnvifZeep.DictIteration
import OnvifZeep.CameraClose
import OnvifZeep.TokenTimestamps
import OnvifZeep.FoldedNames
import OnvifZeep.ResponseHeaders
import OnvifZeep.ErrorReporting
import OnvifZeep.Transport
import OnvifZeep.TransportErrors
import OnvifZeep.SessionLoss
import OnvifZeep.Utf8
import OnvifZeep.Notifications
import OnvifZeep.SnapshotRequests
import OnvifZeep.LruCache
import OnvifZeep.PathIsfile
import OnvifZeep.WsdlFiles
