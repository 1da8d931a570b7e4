import Scatter.Basic
import Scatter.Payload
import Scatter.ConnectionStorage
import Scatter.Server
import Scatter.Routing
import Scatter.Handlers
import Scatter.RoutingSpec
import Scatter.HandlersSpec
import Scatter.Fragments
import Scatter.Watchdog
import Scatter.Delivery
import Scatter.Redelivery
import Scatter.Accounting
import Scatter.Simulation
import Scatter.DeliveryStatus
import Scatter.Invariant
import Scatter.Backlog
import Scatter.Concurrent
import Scatter.Conservation
import Scatter.Interleaving
import Scatter.Registry
import Scatter.Sessions
import Scatter.Outbound
import Scatter.Telemetry
import Scatter.Undelivered
