import Watchtower.Core.Cells
import Watchtower.Core.Channel
import Watchtower.Core.ExpiringStore
import Watchtower.Core.FirstFit
import Watchtower.Core.Regex
import Watchtower.Core.Folding
import Watchtower.Core.Joined
import Watchtower.Core.Machine
import Watchtower.Core.Once
import Watchtower.Core.Recency
import Watchtower.Core.Substitute
import Watchtower.Core.Shape
import Watchtower.Core.Scan
import Watchtower.Core.Traced
import Watchtower.Python.Str
import Watchtower.Python.Bytes
import Watchtower.Python.IpAddress
import Watchtower.Python.Number
import Watchtower.Python.Value
import Watchtower.Python.Json
import Watchtower.Python.Path
import Watchtower.Python.Re
import Watchtower.Python.Url
import Watchtower.Schema.Types
import Watchtower.Schema.Finding
import Watchtower.Schema.Alert
import Watchtower.Schema.Report
import Watchtower.Schema.RoundTrip
import Watchtower.Schema.SortedKeys
import Watchtower.Config.Settings
import Watchtower.Config.WatchPaths
import Watchtower.Redis.Retry
import Watchtower.Redis.Backoff
import Watchtower.Redis.Claim
import Watchtower.Redis.Connection
import Watchtower.Redis.Poll
import Watchtower.Redis.Queue
import Watchtower.Redis.Release
import Watchtower.Correlator.Scoring
import Watchtower.Correlator.Buffer
import Watchtower.Correlator.Removal
import Watchtower.Correlator.Loop
import Watchtower.Correlator.Matching
import Watchtower.Correlator.Accounting
import Watchtower.Correlator.Cooldown
import Watchtower.Correlator.Fingerprint
import Watchtower.Notifier.Sanitize
import Watchtower.Notifier.Payload
import Watchtower.Notifier.Delivery
import Watchtower.Correlator.Notifications
import Watchtower.Correlator.Retention
import Watchtower.Correlator.Suppression
import Watchtower.Correlator.Survival
import Watchtower.ApiWatcher.Probe
import Watchtower.ApiWatcher.Resolver
import Watchtower.ApiWatcher.Fitting
import Watchtower.ApiWatcher.History
import Watchtower.ApiWatcher.Rounds
import Watchtower.ApiWatcher.Emission
import Watchtower.CodeWatcher.Patterns
import Watchtower.CodeWatcher.Snapshot
import Watchtower.CodeWatcher.Scan
import Watchtower.CodeWatcher.Handler
import Watchtower.CodeWatcher.Fitting
import Watchtower.CodeWatcher.Directory
import Watchtower.CodeWatcher.Disclosure
import Watchtower.CodeWatcher.Events
import Watchtower.CodeWatcher.Lines
import Watchtower.CodeWatcher.Reading
import Watchtower.CodeWatcher.Service
import Watchtower.CodeWatcher.Tracking
import Watchtower.CodeWatcher.Visitor
import Watchtower.CodeWatcher.Watching
import Watchtower.Notifier.Shapes
import Watchtower.Notifier.Credential
import Watchtower.Notifier.Authorization
import Watchtower.Notifier.Tidy
import Watchtower.Notifier.Clean
import Watchtower.Notifier.Header
import Watchtower.Notifier.Independence
import Watchtower.Notifier.Layout
import Watchtower.Notifier.Settled
import Watchtower.Main.Pipeline
import Watchtower.Main.Correlations
import Watchtower.Main.Supervision
