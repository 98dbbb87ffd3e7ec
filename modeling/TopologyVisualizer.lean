import TopologyVisualizer.Framework.LTS
import TopologyVisualizer.Framework.Dict
import TopologyVisualizer.Framework.KeyedSum
import TopologyVisualizer.Framework.Text
import TopologyVisualizer.Framework.Decoding
import TopologyVisualizer.Framework.JsonText
import TopologyVisualizer.Framework.Timestamp
import TopologyVisualizer.Framework.WallClock
import TopologyVisualizer.Framework.Cooldown
import TopologyVisualizer.Framework.Escaping
import TopologyVisualizer.Framework.Quoting
import TopologyVisualizer.Framework.Bezier
import TopologyVisualizer.Backend.Models
import TopologyVisualizer.Backend.Memory
import TopologyVisualizer.Backend.BucketSum
import TopologyVisualizer.Backend.MemoryOrder
import TopologyVisualizer.Backend.Windows
import TopologyVisualizer.Backend.Graph
import TopologyVisualizer.Backend.Truncation
import TopologyVisualizer.Backend.NodeDetail
import TopologyVisualizer.Backend.Compare
import TopologyVisualizer.Backend.Classification
import TopologyVisualizer.Backend.Anomalies
import TopologyVisualizer.Backend.Alerts
import TopologyVisualizer.Backend.Dispatch
import TopologyVisualizer.Backend.Channels
import TopologyVisualizer.Backend.Postgres
import TopologyVisualizer.Backend.PostgresIngest
import TopologyVisualizer.Backend.PostgresQuery
import TopologyVisualizer.Backend.PostgresPurge
import TopologyVisualizer.Backend.AdapterMatch
import TopologyVisualizer.Backend.AdapterRefinement
import TopologyVisualizer.Backend.LabelSearch
import TopologyVisualizer.Backend.Retention
import TopologyVisualizer.Backend.PurgeRace
import TopologyVisualizer.Framework.Checks
import TopologyVisualizer.Agent.Contract
import TopologyVisualizer.Backend.EdgeIds
import TopologyVisualizer.Agent.Resolver
import TopologyVisualizer.Framework.GoTime
import TopologyVisualizer.Agent.Collector
import TopologyVisualizer.Agent.Kernel
import TopologyVisualizer.Agent.Tracking
import TopologyVisualizer.Agent.Aggregate
import TopologyVisualizer.Agent.Interval
import TopologyVisualizer.Agent.Conservation
import TopologyVisualizer.Agent.Informers
import TopologyVisualizer.Agent.Fanout
import TopologyVisualizer.Agent.Attribution
import TopologyVisualizer.Agent.SharedKernel
import TopologyVisualizer.Framework.Json
import TopologyVisualizer.Wire
import TopologyVisualizer.Backend.Canary
import TopologyVisualizer.Acceptance
import TopologyVisualizer.Framework.LockOrder
import TopologyVisualizer.IngestLocks
import TopologyVisualizer.Framework.BoundedQueue
import TopologyVisualizer.Framework.Sql
import TopologyVisualizer.Agent.Delivery
import TopologyVisualizer.Agent.DeliveryQueue
import TopologyVisualizer.Agent.DeliverySent
import TopologyVisualizer.Agent.DeliveryAccounting
import TopologyVisualizer.Agent.DeliveryDrain
import TopologyVisualizer.Agent.Process
import TopologyVisualizer.Agent.Stopping
import TopologyVisualizer.Agent.Handover
import TopologyVisualizer.EndToEnd
import TopologyVisualizer.Framework.Redelivery
import TopologyVisualizer.Framework.OrderedSteps
import TopologyVisualizer.Backend.Serve
import TopologyVisualizer.Backend.ServeSafety
import TopologyVisualizer.Cluster
import TopologyVisualizer.ClusterTotals
import TopologyVisualizer.Cli.Credentials
import TopologyVisualizer.Cli.Store
import TopologyVisualizer.Cli.StoreHistory
import TopologyVisualizer.Cli.Source
import TopologyVisualizer.Cli.Rotation
import TopologyVisualizer.Cli.RotationSafety
import TopologyVisualizer.Cli.Refresh
import TopologyVisualizer.Diagram
import TopologyVisualizer.Cli.Mermaid
import TopologyVisualizer.Cli.Render
import TopologyVisualizer.Cli.Capped
import TopologyVisualizer.Frontend.Mermaid
import TopologyVisualizer.DiagramLabels
import TopologyVisualizer.Frontend.UseGraph
import TopologyVisualizer.Frontend.UseDiff
import TopologyVisualizer.Frontend.Grouping
import TopologyVisualizer.Frontend.GroupedTraffic
import TopologyVisualizer.Frontend.GroupedSpan
import TopologyVisualizer.Frontend.Details
import TopologyVisualizer.Frontend.DetailEffect
import TopologyVisualizer.Frontend.Layout
import TopologyVisualizer.Frontend.LayoutRuns
import TopologyVisualizer.Frontend.EdgeGeometry
import TopologyVisualizer.Frontend.History
import TopologyVisualizer.Backend.AlertDelivery
import TopologyVisualizer.Framework.PercentEncoding
import TopologyVisualizer.Framework.Instants
import TopologyVisualizer.Backend.Routes
import TopologyVisualizer.Cli.Queries
import TopologyVisualizer.Frontend.Requests
import TopologyVisualizer.ReadRequests
