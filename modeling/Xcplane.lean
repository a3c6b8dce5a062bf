import Xcplane.Types
import Xcplane.Constants
import Xcplane.Lib.AssocMap
import Xcplane.Lib.KeyedTable
import Xcplane.Lib.Result
import Xcplane.Naming
import Xcplane.Server
import Xcplane.CloudConfig
import Xcplane.Cloudflare
import Xcplane.Lib.Enumeration
import Xcplane.Merge
import Xcplane.RebaseDiff
import Xcplane.RebaseOrder
import Xcplane.Deploy
import Xcplane.Reconcile
import Xcplane.Lib.Related
import Xcplane.ReconcileSpec
import Xcplane.Uniqueness
import Xcplane.DataDirs
import Xcplane.Database
import Xcplane.DatabaseSpec
import Xcplane.RoundTrip
import Xcplane.MotherSubids
import Xcplane.RebasePlan
import Xcplane.DisabledRebase
import Xcplane.RemoteSide
import Xcplane.RebaseOutcome
import Xcplane.DaemonCycle
import Xcplane.Lib.Trace
import Xcplane.Identity
import Xcplane.Service
import Xcplane.Escalation
import Xcplane.RestoreOrder
import Xcplane.FixAttempts
import Xcplane.InboundSet
import Xcplane.XuiTokens
import Xcplane.Lib.Settling
import Xcplane.UpdateAtomicity
import Xcplane.Provision
import Xcplane.Connections
import Xcplane.Deployable
import Xcplane.HealthPath
import Xcplane.CheckOrder
import Xcplane.DelayedReload
import Xcplane.ReloadRace
import Xcplane.DnsRecords
import Xcplane.ResetRace
import Xcplane.Acceptance
import Xcplane.CloudflareStates
import Xcplane.RemapResult
import Xcplane.CloudflareAnswers
import Xcplane.Reapplied
import Xcplane.ReloadTwice
import Xcplane.Reparse
import Xcplane.RebaseTwice
import Xcplane.OneFix
import Xcplane.SetupExclusion
import Xcplane.CycleRuns
import Xcplane.StatusReport
import Xcplane.SignalWatcher
import Xcplane.Lib.Interrupted
import Xcplane.PlaybookVars
import Xcplane.Playbook
import Xcplane.SshSetup
import Xcplane.SshReach
import Xcplane.RebaseTriggers
import Xcplane.NewPorts
import Xcplane.ServicePorts
import Xcplane.RebaseVerdict
import Xcplane.AcmeRecords
import Xcplane.XuiBackups
import Xcplane.ServerMonitors
import Xcplane.FixGates
import Xcplane.StatusReflects
import Xcplane.RebaseAcceptance
import Xcplane.DisabledInfluence
import Xcplane.Lib.Fresh
import Xcplane.WellFormedConfig
import Xcplane.Hostnames
import Xcplane.XrayCheck
import Xcplane.Lib.Occurrence
import Xcplane.Lib.Utf8
import Xcplane.Lib.Lowercase
import Xcplane.Lib.Chunks
import Xcplane.StreamChecks
import Xcplane.GeoIp
import Xcplane.Lib.Decimal
import Xcplane.Stamps
import Xcplane.NftRules
import Xcplane.LatestBackup
import Xcplane.StatsHistory
import Xcplane.Lib.Document
import Xcplane.CloudDocument
import Xcplane.CloudBackup
import Xcplane.MarkProduction
import Xcplane.Lib.AddressBlock
import Xcplane.GlobalAddress
import Xcplane.Lib.Regex
import Xcplane.VarLoading
import Xcplane.NameSuggestions
import Xcplane.Lib.StableSort
import Xcplane.PruneLatest
import Xcplane.RegistrySync
import Xcplane.Lib.Batching
import Xcplane.StatusAggregator
import Xcplane.CloudflareZones
import Xcplane.Lib.Creations
import Xcplane.CloudflareAccount
import Xcplane.AccountSpecs
import Xcplane.AccountRuns
import Xcplane.IterationOrder
import Xcplane.Lib.Threads
import Xcplane.CookieSessions
import Xcplane.CookieOutline
import Xcplane.CookieRuns
import Xcplane.DaemonLock
import Xcplane.LockRuns
import Xcplane.LockRecovery
import Xcplane.Lib.Triple
import Xcplane.PanelInbounds
import Xcplane.PanelRuns
import Xcplane.PanelRebase
import Xcplane.RunFiles
import Xcplane.RunIsolation
import Xcplane.Lib.Mailbox
import Xcplane.SocketProtocol
import Xcplane.RunStops
import Xcplane.ServerLife
import Xcplane.Lib.Once
import Xcplane.AnsibleSource
import Xcplane.PanelRestore
