import Solar.Events.Conditions
import Solar.Events.Losses
import Solar.Log.Ingress
import Solar.Remote.InStream.Conservation
import Solar.Remote.InStream.Order
import Solar.Remote.InStream.HostCredit
import Solar.Remote.Reception.Heard
import Solar.Remote.Application.AccountedRuns
import Solar.Remote.Service.Receive
import Solar.Remote.Codec.Assignments
import Solar.Remote.Codec.Packed
import Solar.Remote.Fragments.RoundTrip
import Solar.Remote.Application.Subscriptions
import Solar.Remote.Application.Occupancy
import Solar.Remote.InStream.Exclusive
import Solar.Remote.InStream.Callbacks
import Solar.Execution.Submissions
import Solar.Execution.Stopping
import Solar.Parameters.Integrity
import Solar.Parameters.DeferredRuns
import Solar.Parameters.Validated
import Solar.Parameters.ChangeRuns
import Solar.Station.Recording
import Solar.Station.Reconnects
import Solar.Station.Modules
import Solar.Supervisor.Watchdog
import Solar.Supervisor.Episodes
import Solar.Bus.Capacity
import Solar.Bus.DeliveryLaws
import Solar.Lifecycle.Hooks
import Solar.Lifecycle.Activation
import Solar.Lifecycle.Validation
import Solar.Lifecycle.Builtins
import Solar.Remote.Inspection.RoundTrip
import Solar.Remote.Session.Registration
import Solar.Processing.Wakeups
import Solar.Events.Reserve
import Solar.Events.Records
import Solar.Log.Closing
import Solar.Remote.Frame.Capacity
import Solar.Execution.Releases
import Solar.Remote.Publication.Rings
import Solar.Remote.Session.Operations
import Solar.Remote.Manifest.Retrieval
import Solar.Remote.Service.LaneRuns
import Solar.Remote.Publication.LoanOrder
import Solar.Metrics.Histories
import Solar.Metrics.Windows
