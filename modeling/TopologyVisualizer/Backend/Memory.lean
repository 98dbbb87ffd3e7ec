import TopologyVisualizer.Backend.Models
import TopologyVisualizer.Framework.KeyedSum
import Mathlib.Data.List.Infix

/-! # The In-Memory Repository

    `app/persistence/memory.py`. Every method runs under one lock, so a
    method is one function on the repository's state; a dict is a `Dict` and
    iterates in insertion order, as CPython's does.

    `casefold` is Python's `str.casefold`, a parameter because nothing here
    depends on the folding it performs.
-/

namespace TopologyVisualizer.Backend

/-! ### Buckets -/

/-- `_Bucket`. A nullable field is an `Option`: absent is not zero. -/
@[ext] structure Bucket where
  connectionCount : Nat
  failedConnectionCount : Option Nat
  connectLatencyCount : Nat
  connectLatencySumUs : Nat
  bytesSent : Option Nat
  bytesReceived : Option Nat
  firstSeen : Datetime
  lastSeen : Datetime
  deriving DecidableEq

/-- `_Bucket.__init__`. -/
def Bucket.new (connectionCount : Nat) (firstSeen lastSeen : Datetime) : Bucket where
  connectionCount := connectionCount
  failedConnectionCount := none
  connectLatencyCount := 0
  connectLatencySumUs := 0
  bytesSent := none
  bytesReceived := none
  firstSeen := firstSeen
  lastSeen := lastSeen

/-- `if value is not None: acc = (acc or 0) + value`. -/
def addMeasured (acc value : Option Nat) : Option Nat :=
  match value with
  | none => acc
  | some v => some (acc.getD 0 + v)

/-- Add `value` to `acc`, field by field. Ingestion and queries merge alike. -/
def Bucket.merge (acc value : Bucket) : Bucket where
  connectionCount := acc.connectionCount + value.connectionCount
  failedConnectionCount := addMeasured acc.failedConnectionCount value.failedConnectionCount
  connectLatencyCount := acc.connectLatencyCount + value.connectLatencyCount
  connectLatencySumUs := acc.connectLatencySumUs + value.connectLatencySumUs
  bytesSent := addMeasured acc.bytesSent value.bytesSent
  bytesReceived := addMeasured acc.bytesReceived value.bytesReceived
  firstSeen := min acc.firstSeen value.firstSeen
  lastSeen := max acc.lastSeen value.lastSeen

/-- The bucket an observation opens when its key is new. -/
def Bucket.ofEdge (edge : EdgeObservation) : Bucket :=
  { Bucket.new edge.connectionCount edge.firstSeen edge.lastSeen with
    failedConnectionCount := edge.failedConnectionCount
    connectLatencyCount := edge.connectLatencyCount
    connectLatencySumUs := edge.connectLatencySumUs
    bytesSent := edge.bytesSent
    bytesReceived := edge.bytesReceived }

/-! ### Nodes as filters see them -/

/-- What `_passes` reads of a node. -/
@[ext] structure NodeView where
  id : String
  kind : NodeKind
  «namespace» : Option String
  label : String
  deriving DecidableEq

def StoredNode.view (n : StoredNode) : NodeView := ⟨n.id, n.kind, n.namespace, n.label⟩

/-- A reported node as it will be stored: its label is its name. -/
def NodeRef.view (r : NodeRef) : NodeView := ⟨r.id, r.kind, r.namespace, r.name⟩

/-! ### The repository -/

/-- `InMemoryRepository`. -/
structure InMemoryRepository where
  clusterId : String
  /-- `_batches`, a set of batch ids. -/
  batches : List String
  buckets : Dict BucketKey Bucket
  nodes : Dict String StoredNode

/-- `InMemoryRepository.__init__`. -/
def InMemoryRepository.new (clusterId : String) : InMemoryRepository where
  clusterId := clusterId
  batches := []
  buckets := .empty
  nodes := .empty

namespace InMemoryRepository

/-! ### Ingestion -/

/-- `_upsert_node`: the first report names the node, later ones widen its interval. -/
def upsertNode (nodes : Dict String StoredNode) (clusterId : String) (ref : NodeRef)
    (firstSeen lastSeen : Datetime) : Dict String StoredNode :=
  match nodes.get? ref.id with
  | none =>
    nodes.set ref.id
      { id := ref.id
        clusterId := clusterId
        kind := ref.kind
        «namespace» := ref.namespace
        name := ref.name
        label := ref.name
        firstSeen := firstSeen
        lastSeen := lastSeen }
  | some existing =>
    nodes.set ref.id
      { existing with
        firstSeen := min existing.firstSeen firstSeen
        lastSeen := max existing.lastSeen lastSeen }

/-- The bucket part of one turn of the ingest loop. -/
def mergeEdge (buckets : Dict BucketKey Bucket) (edge : EdgeObservation) : Dict BucketKey Bucket :=
  match buckets.get? edge.bucketKey with
  | none => buckets.set edge.bucketKey (Bucket.ofEdge edge)
  | some existing => buckets.set edge.bucketKey (existing.merge (Bucket.ofEdge edge))

/-- One turn of the ingest loop: both endpoints, then the bucket. -/
def ingestEdge (repo : InMemoryRepository) (edge : EdgeObservation) : InMemoryRepository :=
  let nodes := upsertNode repo.nodes repo.clusterId edge.source edge.firstSeen edge.lastSeen
  { repo with
    nodes := upsertNode nodes repo.clusterId edge.target edge.firstSeen edge.lastSeen
    buckets := mergeEdge repo.buckets edge }

/-- The ingest loop, without the gate. -/
def mergeBatch (repo : InMemoryRepository) (batch : IngestBatch) : InMemoryRepository :=
  batch.edges.foldl ingestEdge { repo with batches := batch.batchId :: repo.batches }

/-- `ingest_batch`: the batch-id gate comes first and short-circuits everything. -/
def ingestBatch (repo : InMemoryRepository) (batch : IngestBatch) :
    InMemoryRepository × IngestOutcome :=
  if batch.batchId ∈ repo.batches then (repo, .alreadyIngested)
  else (repo.mergeBatch batch, .ingested)

/-- A sequence of `ingest_batch` calls. -/
def ingestAll (repo : InMemoryRepository) (calls : List IngestBatch) : InMemoryRepository :=
  calls.foldl (fun r b => (r.ingestBatch b).1) repo

/-! ### Queries -/

/-- `needle in haystack`. -/
def isSubstring (needle haystack : String) : Bool :=
  decide (needle.toList <:+: haystack.toList)

/-- The part of `_passes` after both nodes were found: each filter keeps an edge
    when either endpoint matches. An empty filter is no filter. -/
def viewsPass (casefold : String → String) (source target : NodeView)
    (filters : EdgeFilters) : Bool :=
  (filters.includeExternal || (source.id != externalNodeId && target.id != externalNodeId)) &&
  (filters.namespaces.isEmpty ||
    filters.namespaces.any (fun ns => source.namespace = some ns || target.namespace = some ns)) &&
  (match filters.kind with
    | none => true
    | some kind => kind.isEmpty || source.kind.name = kind || target.kind.name = kind) &&
  (match filters.query with
    | none => true
    | some query => query.isEmpty ||
        isSubstring (casefold query) (casefold source.label) ||
        isSubstring (casefold query) (casefold target.label))

/-- `_passes`. -/
def passes (casefold : String → String) (repo : InMemoryRepository) (sourceId targetId : String)
    (filters : EdgeFilters) : Bool :=
  match repo.nodes.get? sourceId, repo.nodes.get? targetId with
  | some source, some target => viewsPass casefold source.view target.view filters
  | _, _ => false

/-- The accumulator `summed` after one more bucket. -/
def accumulate (summed : Dict EdgeKey Bucket) (key : EdgeKey) (value : Bucket) :
    Dict EdgeKey Bucket :=
  let acc := match summed.get? key with
    | none => Bucket.new 0 value.firstSeen value.lastSeen
    | some acc => acc
  summed.set key (acc.merge value)

/-- One turn of the query loop: buckets outside the window, or whose endpoints do not
    pass, are skipped. -/
def queryStep (casefold : String → String) (repo : InMemoryRepository) (window : ResolvedWindow)
    (filters : EdgeFilters) (summed : Dict EdgeKey Bucket) (entry : BucketKey × Bucket) :
    Dict EdgeKey Bucket :=
  if !window.contains entry.1.bucketStart then summed
  else if !repo.passes casefold entry.1.edge.sourceId entry.1.edge.targetId filters then summed
  else accumulate summed entry.1.edge entry.2

/-- The `EdgeAggregate` of one accumulated bucket. -/
def toAggregate (entry : EdgeKey × Bucket) : EdgeAggregate where
  key := entry.1
  connectionCount := entry.2.connectionCount
  firstSeen := entry.2.firstSeen
  lastSeen := entry.2.lastSeen
  failedConnectionCount := entry.2.failedConnectionCount
  connectLatencyCount := entry.2.connectLatencyCount
  connectLatencySumUs := entry.2.connectLatencySumUs
  bytesSent := entry.2.bytesSent
  bytesReceived := entry.2.bytesReceived

/-- `query_edges`: sum the buckets of the window per edge key, then sort by key. -/
def queryEdges (casefold : String → String) (repo : InMemoryRepository) (window : ResolvedWindow)
    (filters : EdgeFilters) : List EdgeAggregate :=
  let summed := repo.buckets.entries.foldl (queryStep casefold repo window filters) .empty
  sortOn EdgeAggregate.key (summed.entries.map toAggregate)

/-- `nodes_for`, for a set of ids given as a list. -/
def nodesFor (repo : InMemoryRepository) (nodeIds : List String) : List (String × StoredNode) :=
  nodeIds.dedup.filterMap (fun nid => (repo.nodes.get? nid).map (fun node => (nid, node)))

/-- `list_namespaces`: the non-empty namespaces of the endpoints in the window, sorted. -/
def listNamespaces (casefold : String → String) (repo : InMemoryRepository)
    (window : ResolvedWindow) : List String :=
  let edges := repo.queryEdges casefold window {}
  let found := edges.flatMap (fun edge =>
    [edge.key.sourceId, edge.key.targetId].filterMap (fun nid =>
      match repo.nodes.get? nid with
      | none => none
      | some node => node.namespace.filter (fun ns => ns != "")))
  sortOn id found.dedup

/-! ### Maintenance -/

/-- Whether some bucket has `nid` as an endpoint. -/
def referenced (buckets : Dict BucketKey Bucket) (nid : String) : Bool :=
  buckets.keys.any (fun key => key.edge.sourceId = nid || key.edge.targetId = nid)

/-- `purge_expired`: expired buckets first, then the nodes no bucket references. Batch ids
    are kept for ever. -/
def purgeExpired (repo : InMemoryRepository) (before : Datetime) :
    InMemoryRepository × PurgeStats :=
  let expired := repo.buckets.keys.filter (fun key => key.bucketStart < before)
  let buckets := repo.buckets.filter (fun key _ => !decide (key.bucketStart < before))
  let orphaned := repo.nodes.keys.filter (fun nid => !referenced buckets nid)
  let nodes := repo.nodes.filter (fun nid _ => referenced buckets nid)
  ({ repo with buckets := buckets, nodes := nodes },
    { edgeBucketsDeleted := expired.length, nodesDeleted := orphaned.length })

end InMemoryRepository

end TopologyVisualizer.Backend
