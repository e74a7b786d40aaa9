import DarkTower.Lib.Machine
import DarkTower.Lib.Hex
import DarkTower.Mc.Session
import DarkTower.Mc.Meeting
import DarkTower.Mc.Index
import DarkTower.Mc.IndexAgreement
import DarkTower.Mc.Reconnect
import DarkTower.Mc.Connections
import DarkTower.Mc.Redis.Scripts
import DarkTower.Mc.Redis.Client
import DarkTower.Mc.Redis.Fencing
import DarkTower.Mc.Redis.FencedDelete
import DarkTower.Lib.Base64
import DarkTower.Lib.Text
import DarkTower.Ac.SigningKeys
import DarkTower.Ac.Auth
import DarkTower.Ac.TokenLifetime
import DarkTower.Ac.KeyRotation
import DarkTower.Ac.BruteForce
import DarkTower.Lib.Multimap
import DarkTower.Mh.Session
import DarkTower.Mh.Conservation
import DarkTower.Mh.Connection
import DarkTower.Mh.Provisional
import DarkTower.Mh.Registration
import DarkTower.Mc.MhConnectionRegistry
import DarkTower.Mh.Notifications
import DarkTower.Mc.MhAgreement
import DarkTower.Mc.Controller
import DarkTower.Mc.RegistryCleanup
import DarkTower.Mc.Assignment
import DarkTower.Mc.Capacity
import DarkTower.Gc.Assignments
import DarkTower.Gc.Cleanup
import DarkTower.Gc.Controllers
import DarkTower.Gc.LiveCleanup
import DarkTower.Gc.AssignMeeting
import DarkTower.Gc.AssignmentAgreement
import DarkTower.Lib.Exclusive
import DarkTower.Gc.MeetingStores
import DarkTower.Gc.Placement
import DarkTower.Gc.StoredPlacement
import DarkTower.Gc.Meetings
import DarkTower.Gc.MeetingLimit
import DarkTower.Lib.Unicode
import DarkTower.Ac.Credentials
import DarkTower.Ac.Scopes
import DarkTower.Common.Claims
import DarkTower.Ac.InternalTokens
import DarkTower.Mc.TokenContract
import DarkTower.Lib.Bytes
import DarkTower.Media.Codec
import DarkTower.Media.RoundTrip
import DarkTower.Common.GcTask
import DarkTower.Mc.Participants
import DarkTower.Mc.Authority
import DarkTower.Mc.Removal
import DarkTower.Lib.Gauge
import DarkTower.Mc.System
import DarkTower.Mc.ParticipantCount
import DarkTower.Mc.ConnectionGauge
import DarkTower.Lib.Frames
import DarkTower.Mc.Bridge
import DarkTower.Gc.MediaHandlers
import DarkTower.Gc.CapacityFilter
import DarkTower.Devloop.Error
import DarkTower.Devloop.Ports
import DarkTower.Devloop.PortSafety
import DarkTower.Devloop.Streaming
import DarkTower.Devloop.WriteSlot
import DarkTower.Gc.CreateMeeting
import DarkTower.Gc.MeetingCodes
import DarkTower.Ac.UserAccounts
import DarkTower.Ac.RegistrationLimit
import DarkTower.Guard.ManifestMatch
import DarkTower.Guard.MarkdownTable
import DarkTower.Guard.CrossBoundary
import DarkTower.Guard.PiiVocabulary
import DarkTower.Lib.Pattern
import DarkTower.Guard.MetricScan
import DarkTower.Guard.MetricLabels
import DarkTower.Guard.ScanChunks
import DarkTower.Lib.RustTokens
import DarkTower.Guard.TokenChunks
import DarkTower.Guard.LabelExtraction
import DarkTower.Gc.AtomicAssign
import DarkTower.Media.Retry
import DarkTower.Ac.Registration
import DarkTower.Common.TokenManager
import DarkTower.Gc.AssignRetry
import DarkTower.Mc.RegistryLaws
import DarkTower.Mc.HandlerRegistration
import DarkTower.Guard.StripLayout
import DarkTower.Guard.LabelSecrets
import DarkTower.Guard.TestBlocks
import DarkTower.Guard.TestItems
import DarkTower.Guard.WildcardMatch
import DarkTower.Guard.ScopeDrift
import DarkTower.Guard.TableRendering
import DarkTower.Lib.Nesting
import DarkTower.Lib.Words
import DarkTower.Guard.MetricInsideFn
import DarkTower.Lib.Quoted
import DarkTower.Guard.DashboardPanels
import DarkTower.Guard.DashboardReading
import DarkTower.Guard.DashboardRules
import DarkTower.Guard.PrometheusDuration
import DarkTower.Guard.AlertFor
import DarkTower.Guard.TsMetricNaming
import DarkTower.Guard.CodePlaces
import DarkTower.Guard.InstrumentSkipAll
import DarkTower.Guard.TestRigidity
import DarkTower.Guard.RigidArms
import DarkTower.Guard.LogSecrets
import DarkTower.Guard.LogCalls
import DarkTower.Lib.Replace
import DarkTower.Devloop.Kubeconfig
import DarkTower.Devloop.Template
import DarkTower.Guard.GsaSync
import DarkTower.Devloop.Connection
import DarkTower.Guard.KustomizeTools
import DarkTower.Lib.YamlBlock
import DarkTower.Guard.RenderedObjects
import DarkTower.Lib.Pipe
import DarkTower.Mc.Roster
import DarkTower.Mc.RosterDelivery
import DarkTower.Ac.ClientAdmin
import DarkTower.Mesh.Authority
import DarkTower.Mesh.ClientSecrets
import DarkTower.Mesh.ServiceAuth
import DarkTower.Gc.MeetingSettings
import DarkTower.Mesh.MeetingAccess
import DarkTower.Mesh.MediaAccess
import DarkTower.Mesh.UserSessions
import DarkTower.Gc.LastHeard
