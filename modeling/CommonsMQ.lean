import CommonsMQ.Lib.Interleave
import CommonsMQ.Lib.BoundedPool
import CommonsMQ.Lib.Hex
import CommonsMQ.Errors
import CommonsMQ.Types
import CommonsMQ.Config
import CommonsMQ.Connection
import CommonsMQ.Wire
import CommonsMQ.Sender.Model
import CommonsMQ.Sender.Steps
import CommonsMQ.Sender.Pool
import CommonsMQ.Sender.Invariant
import CommonsMQ.Sender.Wakeup
import CommonsMQ.Sender.Closing
import CommonsMQ.Sender.Shutdown
import CommonsMQ.Sender.Delivery
import CommonsMQ.Lib.Memory
import CommonsMQ.Listener.Model
import CommonsMQ.Listener.Steps
import CommonsMQ.Listener.Protocol
import CommonsMQ.Listener.Shutdown
import CommonsMQ.Listener.Lifecycle
import CommonsMQ.Listener.Handoff
import CommonsMQ.Propagation
import CommonsMQ.RequestReply.Model
import CommonsMQ.RequestReply.Steps
import CommonsMQ.Client.Model
import CommonsMQ.Lib.Gate
import CommonsMQ.RequestReply.Routing
import CommonsMQ.Client.Steps
import CommonsMQ.Client.Closing
import CommonsMQ.Sender.Health
import CommonsMQ.Client.Health
import CommonsMQ.RequestReply.InFlight
import CommonsMQ.Client.Waiting
import CommonsMQ.Lib.Projection
import CommonsMQ.Redaction
import CommonsMQ.Listener.Redaction
import CommonsMQ.RequestReply.Redaction
import CommonsMQ.Sender.Redaction
import CommonsMQ.Client.Redaction
import CommonsMQ.Backoff
import CommonsMQ.Listener.Budget
import CommonsMQ.Sender.Panics
import CommonsMQ.CreatorErrors
import CommonsMQ.Correlation
import CommonsMQ.Lifetime
import CommonsMQ.RequestReply.Timeout
import CommonsMQ.RequestReply.Cancellation
import CommonsMQ.RequestReply.Selectivity
import CommonsMQ.FailureReports
import CommonsMQ.RetryLoops
import CommonsMQ.Sender.Gauge
import CommonsMQ.Registry.Model
import CommonsMQ.Registry.Routing
import CommonsMQ.Telemetry.Sends
import CommonsMQ.Telemetry.Receives
import CommonsMQ.Telemetry.Requests
import CommonsMQ.Net.Order
import CommonsMQ.Net.Replies
import CommonsMQ.Client.Progress
