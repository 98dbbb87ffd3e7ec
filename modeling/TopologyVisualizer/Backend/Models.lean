import Mathlib.Data.String.Basic
import Mathlib.Data.Prod.Lex
import Mathlib.Order.Basic

/-! # Backend Domain Types

    The contract models of `app/domain/models.py`, the window arithmetic of
    `app/domain/window.py` and the storage vocabulary of
    `app/persistence/protocol.py`.

    A contract model is a structure whose Prop fields are the validators of
    the Pydantic class, so a value is exactly a payload the API accepted.
    An aware `datetime` is the instant it denotes, in microseconds since the
    Unix epoch: Python compares aware datetimes by instant, and every
    timestamp of the store is compared, never printed, here.
-/

namespace TopologyVisualizer.Backend

/-! ### Identity -/

/-- The six kinds of `NodeKind`. -/
inductive NodeKind where
  | service
  | deployment
  | statefulSet
  | daemonSet
  | job
  | pod
  deriving DecidableEq, Repr

/-- The literal a kind is written as on the wire and in the store. -/
def NodeKind.name : NodeKind → String
  | .service => "Service"
  | .deployment => "Deployment"
  | .statefulSet => "StatefulSet"
  | .daemonSet => "DaemonSet"
  | .job => "Job"
  | .pod => "Pod"

/-- All kinds, in the order the contract lists them. -/
def NodeKind.all : List NodeKind :=
  [.service, .deployment, .statefulSet, .daemonSet, .job, .pod]

/-- Read a kind literal. -/
def NodeKind.ofName? (s : String) : Option NodeKind :=
  NodeKind.all.find? (fun k => k.name = s)

/-- The one protocol of this release. -/
inductive Protocol where
  | tcp
  deriving DecidableEq, Repr

def Protocol.name : Protocol → String
  | .tcp => "TCP"

/-- `EXTERNAL_NODE_ID`. -/
def externalNodeId : String := "external:EXTERNAL"

/-- The alphabet of Crockford base32: no `I`, `L`, `O`, `U`. -/
def crockford : List Char := "0123456789ABCDEFGHJKMNPQRSTVWXYZ".toList

/-- `ULID_PATTERN`: 26 characters of Crockford base32. -/
def isUlid (s : String) : Bool :=
  s.toList.length == 26 && s.toList.all (fun c => crockford.contains c)

/-! ### Ingestion -/

/-- Microseconds since the Unix epoch. -/
abbrev Datetime := Int

/-- A node as reported by the agent. -/
structure NodeRef where
  id : String
  kind : NodeKind
  «namespace» : Option String
  name : String
  id_nonempty : id ≠ ""
  name_nonempty : name ≠ ""
  deriving DecidableEq

/-- One aggregated relationship; the Prop fields are the field bounds and
    `_check_interval`. -/
structure EdgeObservation where
  source : NodeRef
  target : NodeRef
  protocol : Protocol
  destinationPort : Nat
  connectionCount : Nat
  failedConnectionCount : Option Nat
  connectLatencyCount : Nat
  connectLatencySumUs : Nat
  bytesSent : Option Nat
  bytesReceived : Option Nat
  firstSeen : Datetime
  lastSeen : Datetime
  port_range : 1 ≤ destinationPort ∧ destinationPort ≤ 65535
  outcome_present : connectionCount ≠ 0 ∨ failedConnectionCount.getD 0 ≠ 0
  latency_samples : connectLatencyCount ≤ connectionCount
  latency_sum : connectLatencyCount = 0 → connectLatencySumUs = 0
  interval : firstSeen ≤ lastSeen
  deriving DecidableEq

/-- A retry-safe unit of ingestion; `batchId` is the idempotency key. -/
structure IngestBatch where
  schemaVersion : Int
  clusterId : String
  agentId : String
  batchId : String
  observedAt : Datetime
  intervalSeconds : Int
  edges : List EdgeObservation
  clusterId_nonempty : clusterId ≠ ""
  agentId_nonempty : agentId ≠ ""
  batchId_ulid : isUlid batchId
  interval_range : 1 ≤ intervalSeconds ∧ intervalSeconds ≤ 3600
  edges_bound : edges.length ≤ 10000
  deriving DecidableEq

/-! ### Windows -/

/-- `BUCKET`: one minute, in microseconds. -/
def bucketWidth : Int := 60000000

/-- Truncate to the containing one-minute bucket, in UTC. -/
def bucketStart (moment : Datetime) : Datetime := moment - moment % bucketWidth

theorem bucketStart_le (moment : Datetime) : bucketStart moment ≤ moment :=
  Int.sub_le_self moment (Int.emod_nonneg moment (show bucketWidth ≠ 0 by decide))

/-- A half-open, lower-inclusive window. -/
structure ResolvedWindow where
  start : Datetime
  «end» : Datetime
  deriving DecidableEq

/-- The start instant is inside, the end instant is not. -/
def ResolvedWindow.contains (w : ResolvedWindow) (moment : Datetime) : Bool :=
  w.start ≤ moment ∧ moment < w.end

/-! ### Storage vocabulary -/

/-- Distinguishes a stored batch from a replayed one. -/
inductive IngestOutcome where
  | ingested
  | alreadyIngested
  deriving DecidableEq, Repr

/-- A node as persisted. Its `attributes` are always empty and are left out. -/
structure StoredNode where
  id : String
  clusterId : String
  kind : NodeKind
  «namespace» : Option String
  name : String
  label : String
  firstSeen : Datetime
  lastSeen : Datetime
  deriving DecidableEq

/-- The edge key minus `cluster_id`: what aggregates are grouped and sorted by. -/
structure EdgeKey where
  sourceId : String
  targetId : String
  protocol : Protocol
  destinationPort : Nat
  deriving DecidableEq

/-- The key as the tuple Python compares. -/
def EdgeKey.tuple (k : EdgeKey) : String ×ₗ String ×ₗ String ×ₗ Nat :=
  toLex (k.sourceId, toLex (k.targetId, toLex (k.protocol.name, k.destinationPort)))

theorem EdgeKey.tuple_injective : Function.Injective EdgeKey.tuple := by
  rintro ⟨s, t, p, n⟩ ⟨s', t', p', n'⟩ h
  cases p; cases p'
  simp only [EdgeKey.tuple, EmbeddingLike.apply_eq_iff_eq, Prod.mk.injEq, true_and] at h
  obtain ⟨rfl, rfl, rfl⟩ := h
  rfl

/-- Keys are ordered as their tuples, strings by code point. -/
instance : LinearOrder EdgeKey := LinearOrder.lift' EdgeKey.tuple EdgeKey.tuple_injective

/-- One logical edge, summed across the buckets of a window. -/
structure EdgeAggregate where
  key : EdgeKey
  connectionCount : Nat
  firstSeen : Datetime
  lastSeen : Datetime
  failedConnectionCount : Option Nat
  connectLatencyCount : Nat
  connectLatencySumUs : Nat
  bytesSent : Option Nat
  bytesReceived : Option Nat
  deriving DecidableEq

/-- Filters pushed down to storage. `include_unresolved` is read by no adapter. -/
structure EdgeFilters where
  namespaces : List String := []
  kind : Option String := none
  query : Option String := none
  includeExternal : Bool := true
  deriving DecidableEq

/-- What a retention pass removed. -/
structure PurgeStats where
  edgeBucketsDeleted : Nat
  nodesDeleted : Nat
  deriving DecidableEq

/-! ### The key of an observation -/

/-- The edge key of an observation. -/
def EdgeObservation.key (e : EdgeObservation) : EdgeKey where
  sourceId := e.source.id
  targetId := e.target.id
  protocol := e.protocol
  destinationPort := e.destinationPort

/-- The edge key with the bucket prepended, as the primary key of the store. -/
structure BucketKey where
  bucketStart : Datetime
  edge : EdgeKey
  deriving DecidableEq

/-- The bucket an observation is filed in: the minute of its `last_seen`. -/
def EdgeObservation.bucketKey (e : EdgeObservation) : BucketKey where
  bucketStart := Backend.bucketStart e.lastSeen
  edge := e.key

end TopologyVisualizer.Backend
