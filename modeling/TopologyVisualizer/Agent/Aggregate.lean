import TopologyVisualizer.Agent.Collector
import TopologyVisualizer.Framework.KeyedSum
import Mathlib.Data.Prod.Lex
import Mathlib.Data.String.Basic

/-! # The Aggregator

    `agent/internal/aggregate/aggregate.go`: observations collapse into one
    edge per key until `Flush` hands the interval over as a batch.

    Counters that only ever grow by one are unbounded; `latencySumUS`, which
    grows by what an event reports, is the 64-bit sum of the source. A Go map
    is a `Dict`; its random iteration order does not matter because `Flush`
    sorts on the map's own keys.
-/

namespace TopologyVisualizer.Agent

/-! ### Types -/

/-- `Key`: the aggregation key. -/
structure Key where
  sourceID : String
  targetID : String
  protocol : String
  destinationPort : UInt16
  deriving DecidableEq

/-- One resolved connection ready for aggregation. -/
structure Observation where
  source : Endpoint
  target : Endpoint
  protocol : String
  destinationPort : UInt16
  timestamp : GoTime
  failed : Bool
  connectLatencyUS : Option Int
  deriving DecidableEq

/-- `Counters`: why observations were discarded. -/
structure AggregateCounters where
  observed : Nat := 0
  filteredInfraPort : Nat := 0
  filteredNotGraphable : Nat := 0
  filteredIncompleteID : Nat := 0
  unresolvedEndpoints : Nat := 0
  aggregatedEdgesFlushed : Nat := 0
  batchesFlushed : Nat := 0
  deriving DecidableEq

/-- `entry`. -/
structure Entry where
  source : Endpoint
  target : Endpoint
  count : Int
  failedCount : Int
  latencyCount : Int
  latencySumUS : Int
  firstSeen : GoTime
  lastSeen : GoTime
  deriving DecidableEq

/-- `Aggregator`; the clock and the entropy are arguments of `flush`. -/
structure Aggregator where
  edges : Dict Key Entry
  clusterID : String
  agentID : String
  infraPorts : List UInt16
  counters : AggregateCounters

/-- `New`. -/
def Aggregator.new (clusterID agentID : String) (infraPorts : List UInt16) : Aggregator where
  edges := .empty
  clusterID := clusterID
  agentID := agentID
  infraPorts := infraPorts
  counters := {}

/-! ### Add -/

/-- The aggregation key of an observation. -/
def Observation.key (obs : Observation) : Key where
  sourceID := obs.source.id
  targetID := obs.target.id
  protocol := obs.protocol
  destinationPort := obs.destinationPort

/-- What `Add` decides about an observation. -/
inductive Verdict where
  | infraPort
  | unresolved
  | notGraphable
  | incompleteID
  | kept
  deriving DecidableEq, Repr

/-- The filters of `Add`, in order. -/
def verdict (infraPorts : List UInt16) (obs : Observation) : Verdict :=
  if obs.destinationPort ∈ infraPorts then .infraPort
  else if obs.source.class = .unresolved ∨ obs.target.class = .unresolved then .unresolved
  else if !obs.source.isGraphable || !obs.target.isGraphable then .notGraphable
  else if obs.source.id = "" ∨ obs.target.id = "" then .incompleteID
  else .kept

/-- The entry a new key starts from. -/
def Entry.new (obs : Observation) : Entry where
  source := obs.source
  target := obs.target
  count := 0
  failedCount := 0
  latencyCount := 0
  latencySumUS := 0
  firstSeen := obs.timestamp
  lastSeen := obs.timestamp

/-- The measured latency `Add` accepts. -/
def Observation.latency? (obs : Observation) : Option Int :=
  if obs.failed then none else obs.connectLatencyUS.filter (fun us => 0 ≤ us)

/-- One more observation of the same key. -/
def Entry.observe (e : Entry) (obs : Observation) : Entry where
  source := e.source
  target := e.target
  count := if obs.failed then e.count else e.count + 1
  failedCount := if obs.failed then e.failedCount + 1 else e.failedCount
  latencyCount := match obs.latency? with
    | some _ => e.latencyCount + 1
    | none => e.latencyCount
  latencySumUS := match obs.latency? with
    | some us => wrapInt64 (e.latencySumUS + us)
    | none => e.latencySumUS
  firstSeen := e.firstSeen.earlier obs.timestamp
  lastSeen := e.lastSeen.later obs.timestamp

/-- File a kept observation. -/
def observeInto (edges : Dict Key Entry) (obs : Observation) : Dict Key Entry :=
  edges.upsert obs.key (fun existing => (existing.getD (Entry.new obs)).observe obs)

/-- `Add`. -/
def Aggregator.add (a : Aggregator) (obs : Observation) : Aggregator :=
  let counters := { a.counters with observed := a.counters.observed + 1 }
  match verdict a.infraPorts obs with
  | .infraPort =>
    { a with counters := { counters with filteredInfraPort := counters.filteredInfraPort + 1 } }
  | .unresolved =>
    { a with
      counters := { counters with unresolvedEndpoints := counters.unresolvedEndpoints + 1 } }
  | .notGraphable =>
    { a with
      counters := { counters with filteredNotGraphable := counters.filteredNotGraphable + 1 } }
  | .incompleteID =>
    { a with
      counters := { counters with filteredIncompleteID := counters.filteredIncompleteID + 1 } }
  | .kept => { a with edges := observeInto a.edges obs, counters := counters }

/-! ### Flush -/

/-- A `ulid.ULID` by its text, of which only the form is known. -/
structure Ulid where
  string : String
  wellFormed : matchesUlidPattern string

/-- `nodeRef`: an empty namespace becomes null. -/
def nodeRef (e : Endpoint) : NodeRef where
  id := e.id
  kind := e.kind
  «namespace» := if e.namespace ≠ "" then some e.namespace else none
  name := e.name

/-- The observation `Flush` reports for one map entry. -/
def toObservation (entry : Key × Entry) : EdgeObservation where
  source := nodeRef entry.2.source
  target := nodeRef entry.2.target
  protocol := entry.1.protocol
  destinationPort := entry.1.destinationPort.toNat
  connectionCount := entry.2.count
  failedConnectionCount := some entry.2.failedCount
  connectLatencyCount := entry.2.latencyCount
  connectLatencySumUS := entry.2.latencySumUS
  bytesSent := none
  bytesReceived := none
  firstSeen := entry.2.firstSeen.utc
  lastSeen := entry.2.lastSeen.utc

/-- What `Flush` sorts by. -/
def EdgeObservation.sortKey (e : EdgeObservation) : String ×ₗ String ×ₗ String ×ₗ Int :=
  toLex (e.source.id, toLex (e.target.id, toLex (e.protocol, e.destinationPort)))

/-- `Flush`: hand the interval over and start the next one. Nothing is handed over when no
    edge was observed. -/
def Aggregator.flush (a : Aggregator) (intervalSeconds : Int) (now : WallReading) (ulid : Ulid) :
    Aggregator × Option IngestBatch :=
  let next := { a with
    edges := .empty
    counters := { a.counters with
      batchesFlushed := a.counters.batchesFlushed + 1
      aggregatedEdgesFlushed := a.counters.aggregatedEdgesFlushed + a.edges.size } }
  if a.edges.size = 0 then (next, none)
  else
    (next, some
      { schemaVersion := Agent.schemaVersion
        clusterID := a.clusterID
        agentID := a.agentID
        batchID := ulid.string
        observedAt := now.time.utc
        intervalSeconds := intervalSeconds
        edges := sortOn EdgeObservation.sortKey (a.edges.entries.map toObservation) })

/-! ### The callback of `run` -/

/-- The observation the collector callback builds from an event. -/
def Resolver.observation (r : Resolver) (ev : Event) : Observation where
  source := r.resolveSource ev.srcIP
  target := r.resolveDestination ev.dstIP ev.dstPort
  protocol := "TCP"
  destinationPort := ev.dstPort
  timestamp := ev.timestamp
  failed := ev.failed
  connectLatencyUS := ev.connectLatencyUS

/-- The callback `run` hands to the collector: connections that started on another node are
    skipped, the others are resolved and added. -/
def handleEvent (r : Resolver) (nodeName : String) (a : Aggregator) (ev : Event) : Aggregator :=
  if r.originatesElsewhere ev.srcIP nodeName then a else a.add (r.observation ev)

end TopologyVisualizer.Agent
